import Mathlib.Data.List.Basic
import Mathlib.Tactic

/-!
# Incremental scanning of a stream

A scanner looks at the front of the symbols it holds and decides: drop the first symbol, possibly
counting an error, cut a token off the front, or wait for more input. If a decision once made does
not change when more symbols arrive, cutting the stream into chunks changes nothing: the scan of a
whole stream is the scan of its chunks, one after the other, each resumed on what was left pending.
-/

namespace Scanning

/-- The decision taken at the front of a stream. -/
inductive Verdict (φ ε : Type) where
  | need
  | drop (error : Option ε)
  | emit (token : φ) (size : Nat)

/-- A scanner over the alphabet `α`, with tokens `φ` and errors `ε`. -/
structure Scanner (α φ ε : Type) where
  verdict : List α → Verdict φ ε
  verdict_nil : verdict [] = .need
  emit_size : ∀ {s f n}, verdict s = .emit f n → 0 < n ∧ n ≤ s.length
  stable : ∀ s t, verdict s ≠ .need → verdict (s ++ t) = verdict s

/-- What a scan yields: the tokens with the positions they start at, the errors, the position of
the first symbol not yet decided on, and the symbols from there on. -/
structure Outcome (α φ ε : Type) where
  tokens : List (Nat × φ)
  errors : List ε
  position : Nat
  pending : List α

variable {α φ ε : Type}

namespace Outcome

def values (o : Outcome α φ ε) : List φ :=
  o.tokens.map Prod.snd

def andThen (o o' : Outcome α φ ε) : Outcome α φ ε :=
  ⟨o.tokens ++ o'.tokens, o.errors ++ o'.errors, o'.position, o'.pending⟩

lemma andThen_assoc (o o' o'' : Outcome α φ ε) :
    (o.andThen o').andThen o'' = o.andThen (o'.andThen o'') := by
  simp only [andThen, List.append_assoc]

@[simp] lemma values_andThen (o o' : Outcome α φ ε) :
    (o.andThen o').values = o.values ++ o'.values := by
  simp [values, andThen]

end Outcome

namespace Scanner

variable (S : Scanner α φ ε)

lemma ne_nil_of_ne_need {s : List α} (h : S.verdict s ≠ .need) : s ≠ [] := by
  rintro rfl
  exact h S.verdict_nil

/-- The scan of a complete list of symbols, the first of which stands at position `pos`. -/
def scanFrom (pos : Nat) (s : List α) : Outcome α φ ε :=
  match h : S.verdict s with
  | .need => ⟨[], [], pos, s⟩
  | .drop e =>
    have : s.tail.length < s.length := by
      have := List.length_pos_iff.mpr (S.ne_nil_of_ne_need (s := s) (by simp [h]))
      simp only [List.length_tail]
      omega
    Outcome.andThen ⟨[], e.toList, pos + 1, []⟩ (scanFrom (pos + 1) s.tail)
  | .emit f n =>
    have : (s.drop n).length < s.length := by
      have := S.emit_size h
      simp only [List.length_drop]
      omega
    Outcome.andThen ⟨[(pos, f)], [], pos + n, []⟩ (scanFrom (pos + n) (s.drop n))
termination_by s.length
decreasing_by all_goals assumption

def scan (s : List α) : Outcome α φ ε :=
  S.scanFrom 0 s

lemma scanFrom_need {pos : Nat} {s : List α} (h : S.verdict s = .need) :
    S.scanFrom pos s = ⟨[], [], pos, s⟩ := by
  rw [scanFrom]
  split <;> simp_all

lemma scanFrom_drop {pos : Nat} {s : List α} {e : Option ε} (h : S.verdict s = .drop e) :
    S.scanFrom pos s =
      Outcome.andThen ⟨[], e.toList, pos + 1, []⟩ (S.scanFrom (pos + 1) s.tail) := by
  rw [scanFrom]
  split <;> simp_all

lemma scanFrom_emit {pos n : Nat} {s : List α} {f : φ} (h : S.verdict s = .emit f n) :
    S.scanFrom pos s =
      Outcome.andThen ⟨[(pos, f)], [], pos + n, []⟩ (S.scanFrom (pos + n) (s.drop n)) := by
  rw [scanFrom]
  split <;> simp_all

/-- What is left pending is undecided. -/
theorem verdict_pending (pos : Nat) (s : List α) :
    S.verdict (S.scanFrom pos s).pending = .need := by
  fun_induction scanFrom S pos s with
  | case1 pos s h => exact h
  | case2 pos s e h _ ih => exact ih
  | case3 pos s f n h _ ih => exact ih

/-- Scanning a stream in two pieces: the second scan starts with what the first one left. -/
theorem scanFrom_append (pos : Nat) (s t : List α) :
    S.scanFrom pos (s ++ t) = (S.scanFrom pos s).andThen
      (S.scanFrom (S.scanFrom pos s).position ((S.scanFrom pos s).pending ++ t)) := by
  induction hn : s.length using Nat.strong_induction_on generalizing pos s with
  | _ n ih =>
    cases h : S.verdict s with
    | need =>
      rw [S.scanFrom_need h]
      simp [Outcome.andThen]
    | drop e =>
      have hne := S.ne_nil_of_ne_need (s := s) (by simp [h])
      have hs : S.verdict (s ++ t) = .drop e := by rw [S.stable s t (by simp [h]), h]
      have htail : (s ++ t).tail = s.tail ++ t := List.tail_append_of_ne_nil hne
      have hlt : s.tail.length < n := by
        have := List.length_pos_iff.mpr hne
        simp only [List.length_tail]
        omega
      rw [S.scanFrom_drop hs, S.scanFrom_drop h, htail, ih _ hlt _ _ rfl, Outcome.andThen_assoc]
      rfl
    | emit f m =>
      have hm := S.emit_size h
      have hs : S.verdict (s ++ t) = .emit f m := by rw [S.stable s t (by simp [h]), h]
      have hdrop : (s ++ t).drop m = s.drop m ++ t := List.drop_append_of_le_length hm.2
      have hlt : (s.drop m).length < n := by
        simp only [List.length_drop]
        omega
      rw [S.scanFrom_emit hs, S.scanFrom_emit h, hdrop, ih _ hlt _ _ rfl, Outcome.andThen_assoc]
      rfl

/-- Positions only name where tokens stand: a shift of the start shifts them. -/
theorem scanFrom_values (pos pos' : Nat) (s : List α) :
    (S.scanFrom pos s).values = (S.scanFrom pos' s).values ∧
      (S.scanFrom pos s).errors = (S.scanFrom pos' s).errors ∧
      (S.scanFrom pos s).pending = (S.scanFrom pos' s).pending := by
  induction hn : s.length using Nat.strong_induction_on generalizing pos pos' s with
  | _ n ih =>
    cases h : S.verdict s with
    | need => simp [S.scanFrom_need h, Outcome.values]
    | drop e =>
      have hlt : s.tail.length < n := by
        have := List.length_pos_iff.mpr (S.ne_nil_of_ne_need (s := s) (by simp [h]))
        simp only [List.length_tail]
        omega
      obtain ⟨hv, he, hp⟩ := ih _ hlt (pos + 1) (pos' + 1) s.tail rfl
      rw [S.scanFrom_drop h, S.scanFrom_drop h]
      refine ⟨?_, ?_, hp⟩
      · rw [Outcome.values_andThen, Outcome.values_andThen, hv]
        rfl
      · simp only [Outcome.andThen, he]
    | emit f m =>
      have hlt : (s.drop m).length < n := by
        have := S.emit_size h
        simp only [List.length_drop]
        omega
      obtain ⟨hv, he, hp⟩ := ih _ hlt (pos + m) (pos' + m) (s.drop m) rfl
      rw [S.scanFrom_emit h, S.scanFrom_emit h]
      refine ⟨?_, ?_, hp⟩
      · rw [Outcome.values_andThen, Outcome.values_andThen, hv]
        rfl
      · simp only [Outcome.andThen, he]

/-- At the front of `y`, with `b` behind it, the scanner decides without reaching past `y`. -/
def StaysWithin (y b : List α) : Prop :=
  S.verdict (y ++ b) ≠ .need ∧ ∀ f n, S.verdict (y ++ b) = .emit f n → n ≤ y.length

/-- A boundary that no decision reaches across is a position of the scan: what comes before it
contributes its own tokens, and the scan goes on right at the boundary. -/
theorem scanFrom_boundary (pos : Nat) (a b : List α)
    (h : ∀ x y, a = x ++ y → y ≠ [] → S.StaysWithin y b) :
    ∃ toks errs, (∀ t ∈ toks, t.1 < pos + a.length) ∧
      S.scanFrom pos (a ++ b) =
        Outcome.andThen ⟨toks, errs, pos + a.length, []⟩ (S.scanFrom (pos + a.length) b) := by
  induction hn : a.length using Nat.strong_induction_on generalizing pos a with
  | _ n ih =>
    by_cases ha : a = []
    · subst ha
      subst hn
      exact ⟨[], [], by simp, by simp [Outcome.andThen]⟩
    have hpos := List.length_pos_iff.mpr ha
    obtain ⟨hneed, hemit⟩ := h [] a rfl ha
    -- the rest after one decision is a suffix of `a`, so the hypothesis carries over to it
    have hrest : ∀ k, 0 < k → k ≤ n →
        ∃ toks errs, (∀ t ∈ toks, t.1 < pos + n) ∧ S.scanFrom (pos + k) (a.drop k ++ b) =
          Outcome.andThen ⟨toks, errs, pos + n, []⟩ (S.scanFrom (pos + n) b) := by
      intro k hk hkn
      have hlen : (a.drop k).length = n - k := by rw [List.length_drop, hn]
      obtain ⟨toks, errs, hlt, heq⟩ := ih (n - k) (by omega) (pos + k) (a.drop k)
        (fun x y hxy hy => h (a.take k ++ x) y (by rw [List.append_assoc, ← hxy, List.take_append_drop]) hy)
        hlen
      have hsum : pos + k + (n - k) = pos + n := by omega
      rw [hsum] at hlt heq
      exact ⟨toks, errs, hlt, heq⟩
    cases hd : S.verdict (a ++ b) with
    | need => exact (hneed hd).elim
    | drop e =>
      obtain ⟨toks, errs, hlt, heq⟩ := hrest 1 (by omega) (by omega)
      refine ⟨toks, e.toList ++ errs, hlt, ?_⟩
      have htail : (a ++ b).tail = a.drop 1 ++ b := by
        rw [List.tail_append_of_ne_nil ha, List.drop_one]
      rw [S.scanFrom_drop hd, htail, heq, ← Outcome.andThen_assoc]
      rfl
    | emit f m =>
      have hm := hemit f m hd
      have hm0 := (S.emit_size hd).1
      obtain ⟨toks, errs, hlt, heq⟩ := hrest m hm0 (by omega)
      refine ⟨(pos, f) :: toks, errs, ?_, ?_⟩
      · rintro t (_ | ⟨_, ht⟩)
        · show pos < pos + n
          omega
        · exact hlt t ht
      · rw [S.scanFrom_emit hd, List.drop_append_of_le_length hm, heq, ← Outcome.andThen_assoc]
        rfl

end Scanner

end Scanning
