import Mathlib.Tactic

/-!
# Regular expressions with backtracking

The expressions of scripting languages over strings of code points: greedy repetition, groups, and a look at
the character before or after a position. A search takes the first match in the order in which an engine
with backtracking tries them.
-/

/-- An expression without its anchoring. -/
inductive Regex where
  | skip
  | char (p : Nat → Bool)
  | seq (a b : Regex)
  | alt (a b : Regex)
  /-- Any number of characters of a class, as many as possible. -/
  | many (p : Nat → Bool)
  /-- A group whose text is captured. -/
  | group (a : Regex)
  /-- The character before is not of the class. -/
  | notBehind (p : Nat → Bool)
  /-- The character after is not of the class. -/
  | notAhead (p : Nat → Bool)
  /-- The end of the text, or the line feed that ends it. -/
  | atEnd

namespace Regex

/-- A match at a position: its text, the captured groups in the order of their opening brackets, and what
comes after it. -/
structure Match where
  text : List Nat
  groups : List (List Nat)
  rest : List Nat

/-- All matches at a position in the order in which they are tried. `behind` is the character before the
position. -/
def matchesAt : Regex → Option Nat → List Nat → List Match
  | .skip, _, s => [⟨[], [], s⟩]
  | .char p, _, s =>
    match s with
    | c :: rest => if p c then [⟨[c], [], rest⟩] else []
    | [] => []
  | .seq a b, behind, s =>
    (a.matchesAt behind s).flatMap (fun m =>
      (b.matchesAt (m.text.getLast?.or behind) m.rest).map (fun m' =>
        ⟨m.text ++ m'.text, m.groups ++ m'.groups, m'.rest⟩))
  | .alt a b, behind, s => a.matchesAt behind s ++ b.matchesAt behind s
  | .many p, _, s =>
    (List.range ((s.takeWhile p).length + 1)).reverse.map (fun n => ⟨s.take n, [], s.drop n⟩)
  | .group a, behind, s => (a.matchesAt behind s).map (fun m => ⟨m.text, m.text :: m.groups, m.rest⟩)
  | .notBehind p, behind, s => if behind.any p then [] else [⟨[], [], s⟩]
  | .notAhead p, _, s => if s.head?.any p then [] else [⟨[], [], s⟩]
  | .atEnd, _, s => if s = [] ∨ s = [10] then [⟨[], [], s⟩] else []

/-- One or more characters of a class. -/
def many1 (p : Nat → Bool) : Regex :=
  .seq (.char p) (.many p)

def opt (a : Regex) : Regex :=
  .alt a .skip

/-- At least `lo` and at most `hi` times. -/
def times (a : Regex) : Nat → Nat → Regex
  | _, 0 => .skip
  | 0, hi + 1 => opt (.seq a (times a 0 hi))
  | lo + 1, hi + 1 => .seq a (times a lo hi)

/-- One expression after the other. -/
def concat (parts : List Regex) : Regex :=
  parts.foldr .seq .skip

def oneOf : List Regex → Regex
  | [] => .char (fun _ => false)
  | [a] => a
  | a :: rest => .alt a (oneOf rest)

/-- The text itself, with characters compared by `same`. -/
def literal (same : Nat → Nat → Bool) (s : List Nat) : Regex :=
  concat (s.map (fun c => .char (same c)))

/-- The search from a position on for matches to replace, at most `fuel` steps. An empty match counts as
none. -/
def subFrom (a : Regex) (replace : Match → List Nat) : Nat → Option Nat → List Nat → List Nat
  | 0, _, s => s
  | _, _, [] => []
  | fuel + 1, behind, c :: s =>
    match (a.matchesAt behind (c :: s)).head? with
    | some m =>
      if m.text.isEmpty then c :: subFrom a replace fuel (some c) s
      else replace m ++ subFrom a replace fuel m.text.getLast? m.rest
    | none => c :: subFrom a replace fuel (some c) s

/-- The text with every match replaced, from the left and without overlap. -/
def sub (a : Regex) (replace : Match → List Nat) (s : List Nat) : List Nat :=
  a.subFrom replace s.length none s

/-! ### The characters of a match -/

/-- A match is the beginning of the text, and its groups are parts of it. -/
structure Match.Of (m : Match) (s : List Nat) : Prop where
  split : m.text ++ m.rest = s
  groups : ∀ g ∈ m.groups, ∀ c ∈ g, c ∈ m.text

lemma of_skip (s : List Nat) : Match.Of ⟨[], [], s⟩ s :=
  ⟨rfl, nofun⟩

/-- Every match that is tried is one. -/
theorem of_mem_matchesAt {a : Regex} {behind : Option Nat} {s : List Nat} {m : Match}
    (h : m ∈ a.matchesAt behind s) : m.Of s := by
  induction a generalizing behind s m with
  | skip =>
    rw [matchesAt, List.mem_singleton] at h
    exact h ▸ of_skip s
  | char p =>
    cases s with
    | nil => cases h
    | cons c rest =>
      rw [matchesAt] at h
      split at h
      · rw [List.mem_singleton.mp h]
        exact ⟨rfl, nofun⟩
      · cases h
  | seq a b iha ihb =>
    rw [matchesAt, List.mem_flatMap] at h
    obtain ⟨first, hfirst, h⟩ := h
    obtain ⟨second, hsecond, rfl⟩ := List.mem_map.mp h
    have ha := iha hfirst
    have hb := ihb hsecond
    refine ⟨?_, ?_⟩
    · rw [List.append_assoc, hb.split, ha.split]
    · intro g hg c hc
      rw [List.mem_append] at hg ⊢
      exact hg.imp (fun hg => ha.groups g hg c hc) (fun hg => hb.groups g hg c hc)
  | alt a b iha ihb =>
    rw [matchesAt, List.mem_append] at h
    exact h.elim iha ihb
  | many p =>
    rw [matchesAt, List.mem_map] at h
    obtain ⟨n, -, rfl⟩ := h
    exact ⟨List.take_append_drop n s, nofun⟩
  | group a ih =>
    rw [matchesAt, List.mem_map] at h
    obtain ⟨inner, hinner, rfl⟩ := h
    have hof := ih hinner
    refine ⟨hof.split, ?_⟩
    intro g hg c hc
    rcases List.mem_cons.mp hg with rfl | hg
    · exact hc
    · exact hof.groups g hg c hc
  | notBehind p =>
    rw [matchesAt] at h
    split at h
    · cases h
    · exact List.mem_singleton.mp h ▸ of_skip s
  | notAhead p =>
    rw [matchesAt] at h
    split at h
    · cases h
    · exact List.mem_singleton.mp h ▸ of_skip s
  | atEnd =>
    rw [matchesAt] at h
    split at h
    · exact List.mem_singleton.mp h ▸ of_skip s
    · cases h

/-- A replacement whose characters have a property if those of the match do. -/
def Keeps (P : Nat → Prop) (replace : Match → List Nat) : Prop :=
  ∀ m : Match, (∀ c ∈ m.text, P c) → (∀ g ∈ m.groups, ∀ c ∈ g, P c) → ∀ c ∈ replace m, P c

variable {P : Nat → Prop} {a : Regex} {replace : Match → List Nat}

lemma forall_mem_subFrom (hreplace : Keeps P replace) {fuel : Nat} {behind : Option Nat} {s : List Nat}
    (hs : ∀ c ∈ s, P c) : ∀ c ∈ a.subFrom replace fuel behind s, P c := by
  induction fuel generalizing behind s with
  | zero =>
    rw [subFrom]
    exact hs
  | succ fuel ih =>
    cases s with
    | nil => exact nofun
    | cons c s =>
      rw [List.forall_mem_cons] at hs
      have hstep : ∀ c' ∈ c :: a.subFrom replace fuel (some c) s, P c' := by
        rw [List.forall_mem_cons]
        exact ⟨hs.1, ih hs.2⟩
      rw [subFrom]
      split
      · rename_i m hm
        split
        · exact hstep
        · have hof := of_mem_matchesAt (List.mem_of_head? hm)
          have hall : ∀ c' ∈ m.text ++ m.rest, P c' := by
            rw [hof.split, List.forall_mem_cons]
            exact hs
          rw [List.forall_mem_append] at hall
          rw [List.forall_mem_append]
          exact ⟨hreplace m hall.1 (fun g hg c' hc' => hall.1 c' (hof.groups g hg c' hc')), ih hall.2⟩
      · exact hstep

/-- Replacing brings no characters but those of the text and of the replacements. -/
theorem forall_mem_sub (hreplace : Keeps P replace) {s : List Nat} (hs : ∀ c ∈ s, P c) :
    ∀ c ∈ a.sub replace s, P c :=
  forall_mem_subFrom hreplace hs

end Regex
