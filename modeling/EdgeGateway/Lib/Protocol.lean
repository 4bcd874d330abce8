import EdgeGateway.Lib.Threads

/-!
# Protocols

A protocol says, state by state, which calls are allowed and where a call with its answer leads. A program that
obeys it, checked call by call over the states of the protocol alone, makes only allowed calls in every run.
-/

namespace CallTree

variable {E : Signature} {L ρ σ : Type}

/-- Where a call with its answer leads, if it is allowed. -/
abbrev Protocol (E : Signature) (L : Type) :=
  L → Event E → Option L

/-- The state after some calls, if all of them were allowed. -/
def Protocol.after (next : Protocol E L) (l : L) (h : List (Event E)) : Option L :=
  h.foldlM next l

lemma Protocol.after_append {next : Protocol E L} {l l' : L} {h : List (Event E)} (hl : next.after l h = some l')
    (e : Event E) : next.after l (h ++ [e]) = next l' e := by
  unfold Protocol.after at hl ⊢
  rw [List.foldlM_append, hl]
  change (next l' e >>= pure) = next l' e
  rw [bind_pure]

/-- The last call was allowed after the ones before it. -/
lemma Protocol.exists_after {next : Protocol E L} {l l' : L} {h : List (Event E)} {e : Event E}
    (hafter : next.after l (h ++ [e]) = some l') : ∃ m, next.after l h = some m ∧ next m e = some l' := by
  unfold Protocol.after at hafter ⊢
  rw [List.foldlM_append, Option.bind_eq_bind, Option.bind_eq_some_iff] at hafter
  obtain ⟨m, hm, hlast⟩ := hafter
  refine ⟨m, hm, ?_⟩
  rw [← hlast]
  exact (bind_pure (next m e)).symm

/-- What one allowed call keeps, any number of them keeps. -/
lemma Protocol.after_invariant {next : Protocol E L} {I : List (Event E) → L → Prop}
    (hstep : ∀ h l e l', I h l → next l e = some l' → I (h ++ [e]) l') {l l' : L} (hl : I [] l) {h : List (Event E)}
    (hafter : next.after l h = some l') : I h l' := by
  induction h using List.reverseRecOn generalizing l' with
  | nil =>
    cases hafter
    exact hl
  | append_singleton h e ih =>
    obtain ⟨m, hm, hnext⟩ := Protocol.exists_after hafter
    exact hstep h m e l' (ih hm) hnext

/-- Every call is allowed, whatever possible answer it gets, and the program ends in `Q`. -/
def obeys (next : Protocol E L) (possible : L → (o : E.Op) → E.Ans o → Prop) : Prog E ρ → (ρ → L → Prop) → L → Prop
  | .ret r, Q, l => Q r l
  | .call o k, Q, l => ∀ x, possible l o x → ∃ l', next l ⟨o, x⟩ = some l' ∧ obeys next possible (k x) Q l'

section

variable {next : Protocol E L} {possible : L → (o : E.Op) → E.Ans o → Prop}

lemma obeys_mono {p : Prog E ρ} {Q Q' : ρ → L → Prop} {l : L} (h : obeys next possible p Q l)
    (hQ : ∀ r l', Q r l' → Q' r l') : obeys next possible p Q' l := by
  induction p generalizing l with
  | ret r => exact hQ r l h
  | call o k ih =>
    intro x hx
    obtain ⟨l', hnext, hrest⟩ := h x hx
    exact ⟨l', hnext, ih x hrest⟩

lemma obeys_bind {p : Prog E ρ} {f : ρ → Prog E σ} {Q : σ → L → Prop} {l : L}
    (h : obeys next possible p (fun r l' => obeys next possible (f r) Q l') l) : obeys next possible (p >>= f) Q l := by
  induction p generalizing l with
  | ret r => exact h
  | call o k ih =>
    intro x hx
    obtain ⟨l', hnext, hrest⟩ := h x hx
    exact ⟨l', hnext, ih x hrest⟩

/-- One call, and what comes after it. -/
lemma obeys_call {o : E.Op} {k : E.Ans o → Prog E ρ} {Q : ρ → L → Prop} {l : L} (l' : E.Ans o → L)
    (hnext : ∀ x, possible l o x → next l ⟨o, x⟩ = some (l' x))
    (hrest : ∀ x, possible l o x → obeys next possible (k x) Q (l' x)) :
    obeys next possible (Prog.perform o >>= k) Q l :=
  fun x hx => ⟨l' x, hnext x hx, hrest x hx⟩

/-- Calls that do not change the state. -/
lemma obeys_of_quiet {p : Prog E ρ} {bad : E.Op → Prop} (hp : p.Avoids bad) {l : L}
    (hquiet : ∀ o x, ¬bad o → next l ⟨o, x⟩ = some l) {Q : ρ → L → Prop} (hQ : ∀ r, Q r l) :
    obeys next possible p Q l := by
  induction p with
  | ret r => exact hQ r
  | call o k ih => exact fun x _ => ⟨l, hquiet o x hp.1, ih x (hp.2 x)⟩

/-- The answers that are possible after the calls so far. -/
def Admits (next : Protocol E L) (possible : L → (o : E.Op) → E.Ans o → Prop) (l₀ : L) (h : List (Event E))
    (o : E.Op) (x : E.Ans o) : Prop :=
  ∀ l, next.after l₀ h = some l → possible l o x

variable {l₀ : L}

/-- Whenever the program is interrupted, it has made only allowed calls. -/
theorem obeys_reaches {p : Prog E ρ} {Q : ρ → L → Prop} {l : L} {h h' : List (Event E)}
    (hp : obeys next possible p Q l) (hl : next.after l₀ h = some l)
    (hreach : Reaches (recording (Admits next possible l₀)) p h h') : ∃ l', next.after l₀ h' = some l' := by
  induction hreach generalizing l with
  | here => exact ⟨l, hl⟩
  | call hr _ ih =>
    obtain ⟨hadmits, rfl⟩ := hr
    obtain ⟨l', hnext, hrest⟩ := hp _ (hadmits l hl)
    exact ih hrest ((Protocol.after_append hl _).trans hnext)

/-- When the program has returned, it has made only allowed calls and ended in `Q`. -/
theorem obeys_exec {p : Prog E ρ} {Q : ρ → L → Prop} {l : L} {h h' : List (Event E)} {r : ρ}
    (hp : obeys next possible p Q l) (hl : next.after l₀ h = some l)
    (hexec : Exec (recording (Admits next possible l₀)) p h r h') : ∃ l', next.after l₀ h' = some l' ∧ Q r l' := by
  induction hexec generalizing l with
  | ret => exact ⟨l, hl, hp⟩
  | call hr _ ih =>
    obtain ⟨hadmits, rfl⟩ := hr
    obtain ⟨l', hnext, hrest⟩ := hp _ (hadmits l hl)
    exact ih hrest ((Protocol.after_append hl _).trans hnext)

/-- A program that obeys a protocol about its world, in a world that only the program changes. -/
lemma secure_of_obeys {R : Env E L}
    (hR : ∀ l o x l', R l o x l' → possible l o x ∧ ∀ l'', next l ⟨o, x⟩ = some l'' → l' = l'')
    {p : Prog E ρ} {Q : ρ → L → Prop} {l : L} (hp : obeys next possible p Q l) :
    secure R (fun l l' => l' = l) (fun l l' => ∃ e, next l e = some l') p Q l := by
  have hstill : ∀ {l l' : L}, Relation.ReflTransGen (fun l l' => l' = l) l l' → l' = l := by
    intro l l' hrely
    induction hrely with
    | refl => rfl
    | tail _ hstep ih => exact hstep.trans ih
  induction p generalizing l with
  | ret r =>
    intro l' hrely
    rw [hstill hrely]
    exact hp
  | call o k ih =>
    intro l₁ hrely x l₂ hr
    rw [hstill hrely] at hr ⊢
    obtain ⟨hpossible, hunique⟩ := hR l o x l₂ hr
    obtain ⟨l', hnext, hrest⟩ := hp x hpossible
    rw [hunique l' hnext]
    exact ⟨⟨_, hnext⟩, ih x hrest⟩

end

end CallTree
