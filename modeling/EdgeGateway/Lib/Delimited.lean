import Mathlib.Data.List.Basic
import Mathlib.Tactic

/-!
# Delimited texts

A text is cut at the first occurrence of a separator. Records that each end with a separator are read back from
their concatenation. A number is a text of decimal digits.
-/

namespace Delimited

variable {α : Type} [DecidableEq α]

/-- The part before the first occurrence of the separator, and the part after it. -/
def cut (sep : List α) : List α → Option (List α × List α)
  | [] => none
  | a :: rest =>
    if sep.isPrefixOf (a :: rest) then
      some ([], (a :: rest).drop sep.length)
    else
      (cut sep rest).map (fun parts => (a :: parts.1, parts.2))

/-- The records of a text, of which there are at most this many. -/
def records (sep : List α) : Nat → List α → Option (List (List α))
  | _, [] => some []
  | 0, _ :: _ => none
  | n + 1, a :: rest => do
    let parts ← cut sep (a :: rest)
    let others ← records sep n parts.2
    return parts.1 :: others

variable {first : α} {sep : List α}

lemma cut_append {l : List α} (hl : first ∉ l) (rest : List α) :
    cut (first :: sep) (l ++ (first :: sep ++ rest)) = some (l, rest) := by
  induction l with
  | nil =>
    have hprefix : (first :: sep).isPrefixOf (first :: (sep ++ rest)) = true :=
      List.isPrefixOf_iff_prefix.mpr (List.prefix_append (first :: sep) rest)
    rw [List.nil_append, List.cons_append, cut, if_pos hprefix, List.length_cons, List.drop_succ_cons,
      List.drop_left]
  | cons a l ih =>
    rw [List.mem_cons, not_or] at hl
    have hother : (first :: sep).isPrefixOf (a :: (l ++ (first :: sep ++ rest))) = false := by
      rw [List.isPrefixOf, beq_false_of_ne hl.1, Bool.false_and]
    rw [List.cons_append, cut, hother, ih hl.2]
    rfl

lemma eq_append_of_cut {s l rest : List α} (hcut : cut sep s = some (l, rest)) : s = l ++ (sep ++ rest) := by
  induction s generalizing l with
  | nil => cases hcut
  | cons a s ih =>
    rw [cut] at hcut
    split at hcut
    · rename_i hprefix
      obtain ⟨rfl, rfl⟩ := Prod.mk.inj (Option.some.inj hcut)
      obtain ⟨t, ht⟩ := List.isPrefixOf_iff_prefix.mp hprefix
      rw [List.nil_append, ← ht, List.drop_left]
    · obtain ⟨parts, hparts, heq⟩ := Option.map_eq_some_iff.mp hcut
      obtain ⟨rfl, rfl⟩ := Prod.mk.inj heq
      rw [List.cons_append, ← ih hparts]

/-- Records are read back from their concatenation. -/
lemma records_flatMap {ls : List (List α)} (hls : ∀ l ∈ ls, first ∉ l) {n : Nat} (hn : ls.length ≤ n) :
    records (first :: sep) n (ls.flatMap (fun l => l ++ first :: sep)) = some ls := by
  induction ls generalizing n with
  | nil => cases n <;> rfl
  | cons l ls ih =>
    rw [List.forall_mem_cons] at hls
    rw [List.length_cons] at hn
    obtain ⟨m, rfl⟩ : ∃ m, n = m + 1 := ⟨n - 1, by omega⟩
    have hcut : cut (first :: sep) (l ++ (first :: sep ++ ls.flatMap (fun l => l ++ first :: sep))) = some (l, _) :=
      cut_append hls.1 _
    have hrest := ih hls.2 (n := m) (by omega)
    rw [List.flatMap_cons, List.append_assoc]
    cases htext : l ++ (first :: sep ++ ls.flatMap (fun l => l ++ first :: sep)) with
    | nil => simp at htext
    | cons a text =>
      rw [htext] at hcut
      rw [records, hcut, Option.bind_eq_bind, Option.bind_some, hrest]
      rfl

/-- The number with these decimal digits. -/
def number (digits : List UInt8) : Option Nat :=
  if digits ≠ [] ∧ digits.all (fun d => 48 ≤ d && d ≤ 57) then
    some (digits.foldl (fun n d => n * 10 + (d.toNat - 48)) 0)
  else
    none

lemma number_zeros {digits : List UInt8} {n : Nat} (h : number digits = some n) (k : Nat) :
    number (List.replicate k 48 ++ digits) = some n := by
  induction k with
  | zero => exact h
  | succ k ih =>
    rw [number, Option.ite_none_right_eq_some] at ih
    obtain ⟨⟨hne, hall⟩, hvalue⟩ := ih
    rw [List.replicate_succ, List.cons_append, number, if_pos ⟨List.cons_ne_nil _ _, by simpa using hall⟩]
    exact hvalue

end Delimited
