import Mathlib.Algebra.BigOperators.Intervals
import Mathlib.Algebra.BigOperators.Group.Finset.Basic
import Mathlib.Data.ZMod.Basic
import Mathlib.Tactic

/-!
# Feedback shift registers

A register of `w` bits that shifts right and adds a feedback word when a one falls out. Reading a
list of bits into it is linear in the register and in the bits, so what an error pattern does to the
final register does not depend on the data. The three facts at the end say which error patterns
never leave the register unchanged.
-/

namespace ShiftRegister

variable {w : Nat}

/-- One shift with feedback. -/
def shift (feedback s : BitVec w) : BitVec w :=
  if s.getLsbD 0 then (s >>> 1) ^^^ feedback else s >>> 1

/-- The bits read into a register, one before each shift. -/
def feed (feedback : BitVec w) (s : BitVec w) (bits : List Bool) : BitVec w :=
  bits.foldl (fun s b => shift feedback (s ^^^ (BitVec.ofBool b).setWidth w)) s

/-- A word from its bits, the lowest one first. -/
def ofBits : List Bool → BitVec w
  | [] => 0#w
  | b :: bits => (ofBits bits <<< 1) ^^^ (BitVec.ofBool b).setWidth w

variable (feedback : BitVec w)

@[simp] lemma shift_zero : shift feedback 0#w = 0#w := by
  simp [shift]

lemma shift_xor (a b : BitVec w) :
    shift feedback (a ^^^ b) = shift feedback a ^^^ shift feedback b := by
  unfold shift
  rw [BitVec.getLsbD_xor, BitVec.ushiftRight_xor_distrib]
  cases a.getLsbD 0 <;> cases b.getLsbD 0
  · simp
  · simp [BitVec.xor_assoc]
  · simp only [Bool.xor_false, if_true, Bool.false_eq_true, if_false]
    rw [BitVec.xor_assoc, BitVec.xor_assoc, BitVec.xor_comm feedback]
  · simp only [bne_self_eq_false, Bool.false_eq_true, if_false, if_true]
    rw [BitVec.xor_assoc, BitVec.xor_comm (b >>> 1), ← BitVec.xor_assoc feedback, BitVec.xor_self,
      BitVec.zero_xor]

/-- With the top feedback bit set, the bit that fell out can be read off the result. -/
lemma shift_eq_zero (hw : feedback.getLsbD (w - 1) = true) {s : BitVec w}
    (h : shift feedback s = 0#w) : s = 0#w := by
  have hpos : 0 < w := by
    by_contra h0
    simp [BitVec.getLsbD_of_ge feedback (w - 1) (by omega)] at hw
  unfold shift at h
  have hlow : s.getLsbD 0 = false := by
    by_contra hne
    rw [Bool.not_eq_false] at hne
    rw [if_pos hne] at h
    have htop := congrArg (fun x => BitVec.getLsbD x (w - 1)) h
    simp [BitVec.getLsbD_of_ge s (1 + (w - 1)) (by omega), hw] at htop
  rw [hlow, if_neg (by simp)] at h
  apply BitVec.eq_of_getLsbD_eq
  intro i hi
  cases i with
  | zero => simpa using hlow
  | succ i =>
    have := congrArg (fun x => BitVec.getLsbD x i) h
    simpa [Nat.add_comm] using this

lemma iterate_shift_zero (n : Nat) : (shift feedback)^[n] 0#w = 0#w := by
  induction n with
  | zero => rfl
  | succ n ih => rw [Function.iterate_succ_apply, shift_zero, ih]

lemma iterate_shift_eq_zero (hw : feedback.getLsbD (w - 1) = true) (n : Nat) {s : BitVec w}
    (h : (shift feedback)^[n] s = 0#w) : s = 0#w := by
  induction n generalizing s with
  | zero => exact h
  | succ n ih => exact shift_eq_zero feedback hw (ih h)

lemma feed_append (s : BitVec w) (x y : List Bool) :
    feed feedback s (x ++ y) = feed feedback (feed feedback s x) y := by
  simp [feed]

lemma feed_cons (s : BitVec w) (b : Bool) (x : List Bool) :
    feed feedback s (b :: x) =
      feed feedback (shift feedback (s ^^^ (BitVec.ofBool b).setWidth w)) x := rfl

lemma feed_replicate_false (s : BitVec w) (n : Nat) :
    feed feedback s (List.replicate n false) = (shift feedback)^[n] s := by
  induction n generalizing s with
  | zero => rfl
  | succ n ih =>
    rw [List.replicate_succ, feed_cons, Function.iterate_succ_apply, ih]
    simp

/-- Two streams of equal length into two registers, added up. -/
theorem feed_xor (s t : BitVec w) (x y : List Bool) (h : x.length = y.length) :
    feed feedback (s ^^^ t) (List.zipWith xor x y) = feed feedback s x ^^^ feed feedback t y := by
  induction x generalizing s t y with
  | nil =>
    cases y with
    | nil => rfl
    | cons b y => cases h
  | cons a x ih =>
    cases y with
    | nil => cases h
    | cons b y =>
      have hb : (BitVec.ofBool (xor a b)).setWidth w =
          (BitVec.ofBool a).setWidth w ^^^ (BitVec.ofBool b).setWidth w := by
        rw [← BitVec.setWidth_xor]
        cases a <;> cases b <;> rfl
      have hswap : s ^^^ t ^^^ ((BitVec.ofBool a).setWidth w ^^^ (BitVec.ofBool b).setWidth w) =
          (s ^^^ (BitVec.ofBool a).setWidth w) ^^^ (t ^^^ (BitVec.ofBool b).setWidth w) := by
        ac_rfl
      rw [List.zipWith_cons_cons, feed_cons, feed_cons, feed_cons, hb, hswap, shift_xor]
      exact ih _ _ _ (by simpa using h)

/-- Two streams that leave the same register differ by one that leaves it zero. -/
theorem feed_difference (s : BitVec w) (x y : List Bool) (h : x.length = y.length)
    (heq : feed feedback s x = feed feedback s y) : feed feedback 0#w (List.zipWith xor x y) = 0#w := by
  have hlin := feed_xor feedback s s x y h
  rwa [BitVec.xor_self, heq, BitVec.xor_self] at hlin

/-! ### Bursts -/

lemma getLsbD_ofBits (bits : List Bool) {i : Nat} (hi : i < w) :
    (ofBits bits : BitVec w).getLsbD i = bits.getD i false := by
  induction bits generalizing i with
  | nil => simp [ofBits]
  | cons b bits ih =>
    cases i with
    | zero =>
      have hw : 0 < w := hi
      simp [ofBits, hw]
    | succ i =>
      have hbit := ih (show i < w by omega)
      rw [BitVec.getLsbD_eq_getElem] at hbit
      simpa [ofBits, hi] using hbit

lemma shift_ofBits (bits : List Bool) (h : bits.length < w) :
    shift feedback (ofBits bits <<< 1) = ofBits bits := by
  have hlow : (ofBits bits <<< 1 : BitVec w).getLsbD 0 = false := by simp
  unfold shift
  rw [hlow, if_neg (by simp)]
  apply BitVec.eq_of_getLsbD_eq
  intro i hi
  by_cases hlast : 1 + i < w
  · simp [hlast, BitVec.getLsbD_eq_getElem hi]
  · have hout : bits[i]?.getD false = false := by
      rw [List.getElem?_eq_none (by omega)]
      rfl
    simp [hlast, getLsbD_ofBits bits hi, hout]

/-- A stream no longer than the register can be added to it at once. -/
theorem feed_eq_iterate (s : BitVec w) (bits : List Bool) (h : bits.length ≤ w) :
    feed feedback s bits = (shift feedback)^[bits.length] (s ^^^ ofBits bits) := by
  induction bits generalizing s with
  | nil => simp [feed, ofBits]
  | cons b bits ih =>
    have hlt : bits.length < w := by simpa using h
    have hshift : shift feedback (s ^^^ ofBits (b :: bits)) =
        shift feedback (s ^^^ (BitVec.ofBool b).setWidth w) ^^^ ofBits bits := by
      rw [ofBits, BitVec.xor_comm (ofBits bits <<< 1), ← BitVec.xor_assoc, shift_xor,
        shift_ofBits feedback bits hlt]
    rw [feed_cons, ih _ hlt.le, List.length_cons, Function.iterate_succ_apply, hshift]

/-- The register gets to zero with the bits it holds, and with no others. -/
theorem feed_eq_zero_iff (hw : feedback.getLsbD (w - 1) = true) (s : BitVec w) (bits : List Bool)
    (h : bits.length ≤ w) : feed feedback s bits = 0#w ↔ s = ofBits bits := by
  rw [feed_eq_iterate feedback s bits h]
  constructor
  · intro hzero
    exact BitVec.xor_eq_zero_iff.mp (iterate_shift_eq_zero feedback hw _ hzero)
  · rintro rfl
    rw [BitVec.xor_self, iterate_shift_zero]

lemma eq_replicate_of_no_true (x : List Bool) (h : true ∉ x) : x = List.replicate x.length false := by
  rw [List.eq_replicate_iff]
  refine ⟨rfl, fun b hb => ?_⟩
  cases b with
  | false => rfl
  | true => exact (h hb).elim

/-- Errors within as many consecutive bits as the register has show in it. -/
theorem feed_burst_ne_zero (hw : feedback.getLsbD (w - 1) = true) (e : List Bool) (i : Nat)
    (hne : true ∈ e) (hin : ∀ k, e[k]? = some true → i ≤ k ∧ k < i + w) :
    feed feedback 0#w e ≠ 0#w := by
  have hsplit : e = e.take i ++ ((e.drop i).take w ++ (e.drop i).drop w) := by
    rw [List.take_append_drop, List.take_append_drop]
  have hbefore : true ∉ e.take i := by
    intro h
    obtain ⟨k, hk⟩ := List.mem_iff_getElem?.mp h
    rw [List.getElem?_take] at hk
    split at hk
    · have := hin k hk
      omega
    · cases hk
  have hafter : true ∉ (e.drop i).drop w := by
    intro h
    obtain ⟨k, hk⟩ := List.mem_iff_getElem?.mp h
    rw [List.drop_drop, List.getElem?_drop] at hk
    have := hin _ hk
    omega
  have hinside : true ∈ (e.drop i).take w := by
    rw [hsplit, List.mem_append, List.mem_append] at hne
    tauto
  rw [hsplit, eq_replicate_of_no_true _ hbefore, eq_replicate_of_no_true _ hafter, feed_append,
    feed_append, feed_replicate_false, feed_replicate_false, iterate_shift_zero,
    feed_eq_iterate feedback _ _ (List.length_take_le _ _)]
  intro hzero
  have hword := iterate_shift_eq_zero feedback hw _ (iterate_shift_eq_zero feedback hw _ hzero)
  rw [BitVec.zero_xor] at hword
  obtain ⟨k, hk⟩ := List.mem_iff_getElem?.mp hinside
  have hkw : k < w := by
    rw [List.getElem?_take] at hk
    split at hk
    · assumption
    · cases hk
  have hbit := getLsbD_ofBits ((e.drop i).take w) hkw
  rw [hword, List.getD_eq_getElem?_getD, hk] at hbit
  simp at hbit

/-! ### Parity -/

/-- The sum of the bits of a word. -/
def parity (s : BitVec w) : ZMod 2 :=
  ∑ i ∈ Finset.range w, if s.getLsbD i then 1 else 0

lemma parity_xor (a b : BitVec w) : parity (a ^^^ b) = parity a + parity b := by
  unfold parity
  rw [← Finset.sum_add_distrib]
  apply Finset.sum_congr rfl
  intro i _
  rw [BitVec.getLsbD_xor]
  cases a.getLsbD i <;> cases b.getLsbD i <;> decide

lemma parity_ushiftRight (s : BitVec w) :
    parity (s >>> 1) = parity s + if s.getLsbD 0 then 1 else 0 := by
  have hsum := Finset.sum_range_succ' (fun i => if s.getLsbD i then (1 : ZMod 2) else 0) w
  rw [Finset.sum_range_succ, BitVec.getLsbD_of_ge s w le_rfl, if_neg (by simp), add_zero] at hsum
  unfold parity
  rw [hsum]
  simp only [BitVec.getLsbD_ushiftRight, Nat.add_comm 1]
  rw [add_assoc, CharTwo.add_self_eq_zero, add_zero]

/-- A shift keeps the parity if the feedback has an odd number of ones. -/
lemma parity_shift (hodd : parity feedback = 1) (s : BitVec w) :
    parity (shift feedback s) = parity s := by
  unfold shift
  split
  · rename_i h
    rw [parity_xor, parity_ushiftRight, if_pos h, hodd, add_assoc, CharTwo.add_self_eq_zero, add_zero]
  · rename_i h
    rw [parity_ushiftRight, if_neg h, add_zero]

lemma parity_ofBool (hw : 0 < w) (b : Bool) :
    parity ((BitVec.ofBool b).setWidth w) = if b then 1 else 0 := by
  unfold parity
  rw [Finset.sum_eq_single 0]
  · simp [hw]
  · intro i _ hi
    have : ¬i < 1 := by omega
    simp [BitVec.getLsbD_of_ge (BitVec.ofBool b) i (by omega)]
  · intro h
    exact (h (Finset.mem_range.mpr hw)).elim

lemma parity_feed (hw : 0 < w) (hodd : parity feedback = 1) (s : BitVec w) (bits : List Bool) :
    parity (feed feedback s bits) = parity s + bits.count true := by
  induction bits generalizing s with
  | nil => simp [feed]
  | cons b bits ih =>
    rw [feed_cons, ih, parity_shift feedback hodd, parity_xor, parity_ofBool hw, List.count_cons]
    cases b
    · simp
    · simp [add_assoc, add_comm]

/-- An odd number of errors shows in the register. -/
theorem feed_odd_ne_zero (hw : 0 < w) (hodd : parity feedback = 1) (e : List Bool)
    (h : Odd (e.count true)) : feed feedback 0#w e ≠ 0#w := by
  intro hzero
  have hpar := parity_feed feedback hw hodd 0#w e
  rw [hzero, left_eq_add] at hpar
  have := (ZMod.natCast_eq_zero_iff_even).mp hpar
  exact (Nat.not_even_iff_odd.mpr h) this

/-! ### Two errors -/

lemma exists_split_true (e : List Bool) (n : Nat) (h : e.count true = n + 1) :
    ∃ k rest, e = List.replicate k false ++ true :: rest ∧ rest.count true = n := by
  induction e with
  | nil => simp at h
  | cons b e ih =>
    cases b with
    | false =>
      obtain ⟨k, rest, rfl, hrest⟩ := ih (by simpa using h)
      exact ⟨k + 1, rest, by simp [List.replicate_succ], hrest⟩
    | true => exact ⟨0, e, rfl, by simpa using h⟩

/-- The register avoids a word for `n` shifts, as a computation. -/
def avoids (target : BitVec w) : Nat → BitVec w → Bool
  | 0, _ => true
  | n + 1, s => s != target && avoids target n (shift feedback s)

lemma iterate_ne_of_avoids (target : BitVec w) (n : Nat) (s : BitVec w)
    (h : avoids feedback target n s = true) (k : Nat) (hk : k < n) : (shift feedback)^[k] s ≠ target := by
  induction n generalizing s k with
  | zero => omega
  | succ n ih =>
    rw [avoids, Bool.and_eq_true, bne_iff_ne] at h
    cases k with
    | zero => exact h.1
    | succ k => exact ih _ h.2 k (by omega)

/-- Two errors show in the register if they are closer than the register's period. -/
theorem feed_two_ne_zero (hw : feedback.getLsbD (w - 1) = true) (e : List Bool)
    (h : e.count true = 2)
    (hperiod : ∀ k, 0 < k → k < e.length → (shift feedback)^[k] 1#w ≠ 1#w) : feed feedback 0#w e ≠ 0#w := by
  obtain ⟨i, rest, rfl, hrest⟩ := exists_split_true e 1 h
  obtain ⟨k, last, rfl, hlast⟩ := exists_split_true rest 0 hrest
  have hlast' : true ∉ last := List.count_eq_zero.mp hlast
  have hone : (BitVec.ofBool true).setWidth w = 1#w := by
    apply BitVec.eq_of_toNat_eq
    simp
  have hk := hperiod (k + 1) (by omega) (by simp; omega)
  rw [feed_append, feed_replicate_false, iterate_shift_zero, feed_cons, feed_append,
    feed_replicate_false, feed_cons, eq_replicate_of_no_true _ hlast', feed_replicate_false, hone,
    BitVec.zero_xor, ← Function.iterate_succ_apply]
  intro hzero
  have hsum := shift_eq_zero feedback hw (iterate_shift_eq_zero feedback hw _ hzero)
  exact hk (BitVec.xor_eq_zero_iff.mp hsum)

end ShiftRegister
