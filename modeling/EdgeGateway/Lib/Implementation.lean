import EdgeGateway.Lib.Threads

/-!
# Implementations of calls

The calls of one signature carried out by programs over the calls of another, with a state of their own. A
program is guarded when it makes its calls only where they are legal. An implementation that simulates the
calls of an abstract world, call by call, simulates every guarded program over them, also where other threads
interfere with the concrete world.
-/

namespace CallTree

variable {E F : Signature} {ρ τ σ A W : Type}

/-- Programs for the calls of `E`, with a state `σ`. -/
abbrev Implementation (E F : Signature) (σ : Type) :=
  (o : E.Op) → σ → Prog F (E.Ans o × σ)

/-- A program with its calls carried out by an implementation. -/
def Prog.implement (f : Implementation E F σ) : Prog E ρ → σ → Prog F (ρ × σ)
  | .ret r, s => .ret (r, s)
  | .call o k, s => f o s >>= fun a => (k a.1).implement f a.2

/-- As `wp`, with every call legal in the world in which it is made. -/
def guarded (R : Env E A) (legal : A → E.Op → Prop) : Prog E ρ → (ρ → A → Prop) → A → Prop
  | .ret r, Q, a => Q r a
  | .call o k, Q, a => legal a o ∧ ∀ x a', R a o x a' → guarded R legal (k x) Q a'

section

variable {R : Env E A} {legal : A → E.Op → Prop}

lemma guarded_mono {p : Prog E ρ} {Q Q' : ρ → A → Prop} {a : A} (h : guarded R legal p Q a)
    (hQ : ∀ r a', Q r a' → Q' r a') : guarded R legal p Q' a := by
  induction p generalizing a with
  | ret r => exact hQ r a h
  | call o k ih => exact ⟨h.1, fun x a' hr => ih x (h.2 x a' hr)⟩

lemma guarded_bind {p : Prog E ρ} {f : ρ → Prog E τ} {Q : τ → A → Prop} {a : A}
    (h : guarded R legal p (fun r a' => guarded R legal (f r) Q a') a) : guarded R legal (p >>= f) Q a := by
  induction p generalizing a with
  | ret r => exact h
  | call o k ih => exact ⟨h.1, fun x a' hr => ih x (h.2 x a' hr)⟩

/-- Calls that are always legal and leave the world alone. -/
lemma guarded_of_quiet {p : Prog E ρ} {bad : E.Op → Prop} (hp : p.Avoids bad)
    (hquiet : ∀ a o, ¬bad o → legal a o ∧ ∀ x a', R a o x a' → a' = a) {Q : ρ → A → Prop} {a : A}
    (hQ : ∀ r, Q r a) : guarded R legal p Q a := by
  induction p with
  | ret r => exact hQ r
  | call o k ih =>
    have hcall := hquiet a o hp.1
    refine ⟨hcall.1, fun x a' hr => ?_⟩
    rw [hcall.2 x a' hr]
    exact ih x (hp.2 x)

/-- There are answers with which the program returns `r`. -/
inductive Prog.CanReturn : Prog E ρ → ρ → Prop where
  | ret (r : ρ) : CanReturn (.ret r) r
  | call {o : E.Op} {k : E.Ans o → Prog E ρ} (x : E.Ans o) {r : ρ} : CanReturn (k x) r → CanReturn (.call o k) r

/-- Whatever it is answered, the program returns something in `Q`. -/
structure Prog.Returns (Q : ρ → Prop) (p : Prog E ρ) : Prop where
  of_canReturn : ∀ {r}, p.CanReturn r → Q r

lemma Prog.returns_pure {Q : ρ → Prop} {r : ρ} (h : Q r) : (pure r : Prog E ρ).Returns Q := by
  constructor
  intro r' hreturn
  cases hreturn
  exact h

lemma Prog.returns_true (p : Prog E ρ) : p.Returns (fun _ => True) :=
  ⟨fun _ => trivial⟩

lemma Prog.canReturn_bind {p : Prog E ρ} {f : ρ → Prog E τ} {t : τ} (h : (p >>= f).CanReturn t) :
    ∃ r, p.CanReturn r ∧ (f r).CanReturn t := by
  induction p with
  | ret r => exact ⟨r, .ret r, h⟩
  | call o k ih =>
    cases h with
    | call x h =>
      obtain ⟨r, hr, ht⟩ := ih x h
      exact ⟨r, .call x hr, ht⟩

lemma Prog.returns_bind {p : Prog E ρ} {f : ρ → Prog E τ} {P : ρ → Prop} {Q : τ → Prop} (hp : p.Returns P)
    (hf : ∀ r, P r → (f r).Returns Q) : (p >>= f).Returns Q := by
  constructor
  intro t hreturn
  obtain ⟨r, hr, ht⟩ := Prog.canReturn_bind hreturn
  exact (hf r (hp.of_canReturn hr)).of_canReturn ht

lemma Prog.returns_embed {G : Signature} {op : E.Op → G.Op} {ans : (o : E.Op) → G.Ans (op o) → E.Ans o}
    {p : Prog E ρ} {Q : ρ → Prop} (h : p.Returns Q) : (p.embed op ans).Returns Q := by
  constructor
  intro r hreturn
  apply h.of_canReturn
  clear h
  induction p with
  | ret r' =>
    cases hreturn
    exact .ret r
  | call o k ih =>
    cases hreturn with
    | call x hreturn => exact .call _ (ih _ hreturn)

/-- As `guarded_of_quiet`, for a property of the world between any two calls. -/
lemma always_of_quiet {R : Env E W} {I : W → Prop} {p : Prog E ρ} {bad : E.Op → Prop} (hp : p.Avoids bad)
    (hquiet : ∀ w o x w', ¬bad o → R w o x w' → w' = w) {Q : ρ → Prop} (hreturns : p.Returns Q) {w : W} (hw : I w) :
    always R I p (fun r w' => Q r ∧ w' = w) w := by
  induction p with
  | ret r => exact ⟨hw, hreturns.of_canReturn (.ret r), rfl⟩
  | call o k ih =>
    refine ⟨hw, fun x w' hr => ?_⟩
    rw [hquiet w o x w' hp.1 hr]
    exact ih x (hp.2 x) ⟨fun hreturn => hreturns.of_canReturn (.call x hreturn)⟩

lemma guarded_embed {G : Signature} {R : Env G A} {legal : A → G.Op → Prop} {op : E.Op → G.Op}
    {ans : (o : E.Op) → G.Ans (op o) → E.Ans o} {R' : Env E A} {legal' : A → E.Op → Prop}
    (hlegal : ∀ a o, legal' a o → legal a (op o))
    (henv : ∀ a o x a', R a (op o) x a' → R' a o (ans o x) a') {p : Prog E ρ} {Q : ρ → A → Prop} {a : A}
    (h : guarded R' legal' p Q a) : guarded R legal (p.embed op ans) Q a := by
  induction p generalizing a with
  | ret r => exact h
  | call o k ih =>
    refine ⟨hlegal a o h.1, fun x a' hr => ?_⟩
    exact ih _ (h.2 _ a' (henv a o x a' hr))

lemma secure_embed {G : Signature} {R : Env G W} {rely guar : W → W → Prop} {op : E.Op → G.Op}
    {ans : (o : E.Op) → G.Ans (op o) → E.Ans o} {R' : Env E W}
    (henv : ∀ w o x w', R w (op o) x w' → R' w o (ans o x) w') {p : Prog E ρ} {Q : ρ → W → Prop} {w : W}
    (h : secure R' rely guar p Q w) : secure R rely guar (p.embed op ans) Q w := by
  induction p generalizing w with
  | ret r => exact h
  | call o k ih =>
    intro w' hrely x w'' hr
    have hcall := h w' hrely _ w'' (henv w' o x w'' hr)
    exact ⟨hcall.1, ih _ hcall.2⟩

/-- What one call of an implementation does, seen from the abstract world. -/
abbrev Simulated (R : Env E A) (Sim : A → σ → W → Prop) (a : A) (o : E.Op) (r : E.Ans o × σ) (w : W) : Prop :=
  ∃ a', R a o r.1 a' ∧ Sim a' r.2 w

/-- An implementation that simulates each legal call simulates every guarded program. -/
theorem secure_implement {R' : Env F W} {rely guar : W → W → Prop} {f : Implementation E F σ}
    {Sim : A → σ → W → Prop} (hstable : ∀ a s, Stable rely (Sim a s))
    (hcall : ∀ o a s w, legal a o → Sim a s w →
      secure R' rely guar (f o s) (Simulated R Sim a o) w)
    {p : Prog E ρ} {Q : ρ → A → Prop} {a : A} {s : σ} {w : W} (hp : guarded R legal p Q a) (hsim : Sim a s w) :
    secure R' rely guar (p.implement f s) (fun r w' => ∃ a', Q r.1 a' ∧ Sim a' r.2 w') w := by
  induction p generalizing a s w with
  | ret r => exact fun w' hrely => ⟨a, hp, (hstable a s).reflTransGen hrely hsim⟩
  | call o k ih =>
    apply secure_bind
    apply secure_mono (hcall o a s w hp.1 hsim)
    rintro ⟨x, s'⟩ w' ⟨a', hr, hsim'⟩
    exact ih x (hp.2 x a' hr) hsim'

end

end CallTree
