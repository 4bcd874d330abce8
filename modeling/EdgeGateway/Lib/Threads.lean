import EdgeGateway.Lib.CallTree

/-!
# Threads on a shared world

Threads take turns, call by call, on one world. Between two calls of its own a thread finds the world
changed by the others: it relies on what they can do, and it guarantees something of each of its own calls.
`secure` is the weakest precondition under such interference. Where every guarantee is among the things the
others rely on, what holds of each thread alone holds of all of them together.
-/

namespace CallTree

variable {E F : Signature} {ρ τ σ W ι : Type}

/-- A program in which each call is replaced by a program. -/
def Prog.interpret (f : (o : E.Op) → Prog F (E.Ans o)) : Prog E ρ → Prog F ρ
  | .ret r => .ret r
  | .call o k => f o >>= fun a => (k a).interpret f

lemma Prog.bind_assoc {E : Signature} (p : Prog E ρ) (f : ρ → Prog E τ) (g : τ → Prog E σ) :
    (p >>= f) >>= g = p >>= fun r => f r >>= g := by
  induction p with
  | ret r => rfl
  | call o k ih =>
    rw [Prog.call_bind, Prog.call_bind, Prog.call_bind]
    congr 1
    funext a
    exact ih a

/-- As `wp`, in a world that changes between any two calls as `rely` says, and with every call changing it
as `guar` says. -/
def secure (R : Env E W) (rely guar : W → W → Prop) : Prog E ρ → (ρ → W → Prop) → W → Prop
  | .ret r, Q, w => ∀ w', Relation.ReflTransGen rely w w' → Q r w'
  | .call o k, Q, w => ∀ w', Relation.ReflTransGen rely w w' → ∀ a w'', R w' o a w'' →
      guar w' w'' ∧ secure R rely guar (k a) Q w''

/-- What interference cannot change. -/
def Stable (rely : W → W → Prop) (P : W → Prop) : Prop :=
  ∀ w w', rely w w' → P w → P w'

section

variable {R : Env E W} {rely guar : W → W → Prop}

lemma Stable.reflTransGen {P : W → Prop} (h : Stable rely P) {w w' : W} (hrely : Relation.ReflTransGen rely w w')
    (hw : P w) : P w' := by
  induction hrely with
  | refl => exact hw
  | tail _ hstep ih => exact h _ _ hstep ih

lemma secure_interfere {p : Prog E ρ} {Q : ρ → W → Prop} {w w' : W} (h : secure R rely guar p Q w)
    (hrely : rely w w') : secure R rely guar p Q w' := by
  cases p with
  | ret r => exact fun w'' hrest => h w'' (.head hrely hrest)
  | call o k => exact fun w'' hrest => h w'' (.head hrely hrest)

lemma secure_mono {p : Prog E ρ} {Q Q' : ρ → W → Prop} {w : W} (h : secure R rely guar p Q w)
    (hQ : ∀ r w', Q r w' → Q' r w') : secure R rely guar p Q' w := by
  induction p generalizing w with
  | ret r => exact fun w' hrely => hQ r w' (h w' hrely)
  | call o k ih =>
    intro w' hrely a w'' hcall
    obtain ⟨hguar, hrest⟩ := h w' hrely a w'' hcall
    exact ⟨hguar, ih a hrest⟩

lemma secure_bind {p : Prog E ρ} {f : ρ → Prog E τ} {Q : τ → W → Prop} {w : W}
    (h : secure R rely guar p (fun r w' => secure R rely guar (f r) Q w') w) : secure R rely guar (p >>= f) Q w := by
  induction p generalizing w with
  | ret r => exact h w .refl
  | call o k ih =>
    intro w' hrely a w'' hcall
    obtain ⟨hguar, hrest⟩ := h w' hrely a w'' hcall
    exact ⟨hguar, ih a hrest⟩

lemma secure_ret {r : ρ} {Q : ρ → W → Prop} {w : W} (hstable : Stable rely (Q r)) (hw : Q r w) :
    secure R rely guar (.ret r) Q w :=
  fun _ hrely => hstable.reflTransGen hrely hw

/-- A call in a world of which something stable is known. -/
lemma secure_call {P : W → Prop} {o : E.Op} {k : E.Ans o → Prog E ρ} {Q : ρ → W → Prop} {w : W}
    (hstable : Stable rely P) (hw : P w)
    (hcall : ∀ w' a w'', P w' → R w' o a w'' → guar w' w'' ∧ secure R rely guar (k a) Q w'') :
    secure R rely guar (.call o k) Q w :=
  fun w' hrely a w'' hr => hcall w' a w'' (hstable.reflTransGen hrely hw) hr

/-- A single call, from something stable to something stable. -/
lemma secure_perform {P : W → Prop} {o : E.Op} {Q : E.Ans o → W → Prop} {w : W} (hP : Stable rely P)
    (hQ : ∀ a, Stable rely (Q a)) (hw : P w)
    (hcall : ∀ w' a w'', P w' → R w' o a w'' → guar w' w'' ∧ Q a w'') :
    secure R rely guar (Prog.perform o) Q w := by
  apply secure_call hP hw
  intro w' a w'' hw' hr
  obtain ⟨hguar, hafter⟩ := hcall w' a w'' hw' hr
  exact ⟨hguar, secure_ret (hQ a) hafter⟩

/-- A program made of programs that keep something stable keeps it. -/
lemma secure_interpret {P : W → Prop} (hstable : Stable rely P) {f : (o : F.Op) → Prog E (F.Ans o)}
    (hf : ∀ o w, P w → secure R rely guar (f o) (fun _ => P) w) (p : Prog F ρ) {w : W} (hw : P w) :
    secure R rely guar (p.interpret f) (fun _ => P) w := by
  induction p generalizing w with
  | ret r => exact secure_ret hstable hw
  | call o k ih => exact secure_bind (secure_mono (hf o w hw) (fun a w' hw' => ih a hw'))

end

/-- What belongs to one thread. -/
def ofThread [DecidableEq ι] (i : ι) (l : List (ι × τ)) : List τ :=
  (l.filter (fun e => e.1 = i)).map Prod.snd

lemma ofThread_append_self [DecidableEq ι] (i : ι) (l : List (ι × τ)) (a : τ) :
    ofThread i (l ++ [(i, a)]) = ofThread i l ++ [a] := by
  simp [ofThread]

lemma ofThread_append_of_ne [DecidableEq ι] {i j : ι} (hne : j ≠ i) (l : List (ι × τ)) (a : τ) :
    ofThread i (l ++ [(j, a)]) = ofThread i l := by
  simp [ofThread, hne]

/-- Threads that share a world. -/
structure Threads (ι : Type) (E : Signature) (σ W : Type) where
  thread : ι → Thread E σ
  world : W

namespace Threads

variable [DecidableEq ι] (R : ι → Env E W) (begins : ι → σ → W → Prog E σ → Prop) (other : W → W → Prop)

/-- `begins` says which programs a thread can begin, and `other` what happens outside of the threads. -/
inductive Step : Threads ι E σ W → Threads ι E σ W → Prop where
  | enter {T : Threads ι E σ W} (i : ι) {s : σ} {p : Prog E σ} : T.thread i = .between s →
      begins i s T.world p → Step T { T with thread := Function.update T.thread i (.inside p) }
  | perform {T : Threads ι E σ W} (i : ι) {o : E.Op} {k : E.Ans o → Prog E σ} {a : E.Ans o} {w' : W} :
      T.thread i = .inside (.call o k) → R i T.world o a w' →
      Step T ⟨Function.update T.thread i (.inside (k a)), w'⟩
  | leave {T : Threads ι E σ W} (i : ι) {s : σ} : T.thread i = .inside (.ret s) →
      Step T { T with thread := Function.update T.thread i (.between s) }
  | other {T : Threads ι E σ W} {w' : W} : other T.world w' → Step T { T with world := w' }

variable {R begins other} in
lemma Step.mono {begins' : ι → σ → W → Prog E σ → Prop} (hbegins : ∀ i s w p, begins i s w p → begins' i s w p)
    {T T' : Threads ι E σ W} (h : Step R begins other T T') : Step R begins' other T T' := by
  cases h with
  | enter i hi hbegin => exact .enter i hi (hbegins _ _ _ _ hbegin)
  | perform i hi hcall => exact .perform i hi hcall
  | leave i hi => exact .leave i hi
  | other hchange => exact .other hchange

/-- What is known of a thread: `rest` between its programs, and inside that the rest is secure. -/
def Knows (rely guar : W → W → Prop) (R : Env E W) (rest : σ → W → Prop) (w : W) : Thread E σ → Prop
  | .between s => rest s w
  | .inside p => secure R rely guar p rest w

/-- Threads that are secure one by one: each guarantee is relied on by the others, what is known between two
programs is stable, and every program that can begin is secure. -/
structure Secured (rely guar : ι → W → W → Prop) (rest : ι → σ → W → Prop) : Prop where
  relied : ∀ {i j}, i ≠ j → ∀ {w w'}, guar i w w' → rely j w w'
  outside : ∀ j {w w'}, other w w' → rely j w w'
  stable : ∀ i s, Stable (rely i) (rest i s)
  programs : ∀ {i s w p}, begins i s w p → rest i s w → secure (R i) (rely i) (guar i) p (rest i) w

variable {R begins other} {rely guar : ι → W → W → Prop} {rest : ι → σ → W → Prop} {T₀ T : Threads ι E σ W}

/-- Threads that are secure one by one are secure together. -/
theorem Secured.knows (h : Secured R begins other rely guar rest)
    (hstart : ∀ i, Knows (rely i) (guar i) (R i) (rest i) T₀.world (T₀.thread i))
    (hrun : Relation.ReflTransGen (Step R begins other) T₀ T) (i : ι) :
    Knows (rely i) (guar i) (R i) (rest i) T.world (T.thread i) := by
  have hinterfere : ∀ j {w w'} {t : Thread E σ}, rely j w w' → Knows (rely j) (guar j) (R j) (rest j) w t →
      Knows (rely j) (guar j) (R j) (rest j) w' t := by
    intro j w w' t hrely hknown
    cases t with
    | between s => exact h.stable j s w w' hrely hknown
    | inside p => exact secure_interfere hknown hrely
  induction hrun generalizing i with
  | refl => exact hstart i
  | @tail T T' _ hstep ih =>
    cases hstep with
    | @enter j s p hj hbegin =>
      by_cases hij : j = i
      · subst hij
        have hknown := ih j
        rw [hj] at hknown
        simp only [Function.update_self]
        exact h.programs hbegin hknown
      · simpa only [Function.update_of_ne (Ne.symm hij)] using ih i
    | @perform j o k a w' hj hcall =>
      have hknown := ih j
      rw [hj] at hknown
      obtain ⟨hchange, hrest⟩ := hknown T.world .refl a w' hcall
      by_cases hij : j = i
      · subst hij
        simp only [Function.update_self]
        exact hrest
      · simp only [Function.update_of_ne (Ne.symm hij)]
        exact hinterfere i (h.relied hij hchange) (ih i)
    | @leave j s hj =>
      by_cases hij : j = i
      · subst hij
        have hknown := ih j
        rw [hj] at hknown
        simp only [Function.update_self]
        exact hknown T.world .refl
      · simpa only [Function.update_of_ne (Ne.symm hij)] using ih i
    | other hchange => exact hinterfere i (h.outside i hchange) (ih i)

/-- A step changes the world as the thread that makes it guarantees, or from outside. -/
theorem Secured.change (h : Secured R begins other rely guar rest)
    (hstart : ∀ i, Knows (rely i) (guar i) (R i) (rest i) T₀.world (T₀.thread i))
    (hrun : Relation.ReflTransGen (Step R begins other) T₀ T) {T' : Threads ι E σ W}
    (hstep : Step R begins other T T') :
    T'.world = T.world ∨ (∃ i, guar i T.world T'.world) ∨ other T.world T'.world := by
  cases hstep with
  | enter => exact .inl rfl
  | @perform i o k a w' hi hcall =>
    have hknown := h.knows hstart hrun i
    rw [hi] at hknown
    exact .inr (.inl ⟨i, (hknown T.world .refl a w' hcall).1⟩)
  | leave => exact .inl rfl
  | other hchange => exact .inr (.inr hchange)

/-- What every guaranteed change keeps, and everything outside of the threads, holds in every state. -/
theorem Secured.invariant (h : Secured R begins other rely guar rest) {I : W → Prop}
    (hguar : ∀ {i w w'}, guar i w w' → I w → I w') (hother : ∀ {w w'}, other w w' → I w → I w')
    (hstart : ∀ i, Knows (rely i) (guar i) (R i) (rest i) T₀.world (T₀.thread i)) (h₀ : I T₀.world)
    (hrun : Relation.ReflTransGen (Step R begins other) T₀ T) : I T.world := by
  induction hrun with
  | refl => exact h₀
  | tail hrun hstep ih =>
    rcases h.change hstart hrun hstep with hsame | ⟨i, hchange⟩ | hchange
    · rw [hsame]
      exact ih
    · exact hguar hchange ih
    · exact hother hchange ih

/-- A thread that goes on alone. -/
lemma exists_run_of_reaches {T : Threads ι E σ W} (i : ι) {p : Prog E σ} {w' : W} (hi : T.thread i = .inside p)
    (hreach : Reaches (R i) p T.world w') :
    ∃ p', Relation.ReflTransGen (Step R begins other) T ⟨Function.update T.thread i (.inside p'), w'⟩ := by
  generalize hw : T.world = w at hreach
  induction hreach generalizing T with
  | @here p w =>
    refine ⟨p, ?_⟩
    rw [← hi, Function.update_eq_self, ← hw]
  | @call o k a w w₁ w' hr _ ih =>
    have hstep : Step R begins other T ⟨Function.update T.thread i (.inside (k a)), w₁⟩ :=
      .perform i hi (hw.symm ▸ hr)
    obtain ⟨p', hrun⟩ := ih (T := ⟨Function.update T.thread i (.inside (k a)), w₁⟩) (Function.update_self ..) rfl
    rw [Function.update_idem] at hrun
    exact ⟨p', .head hstep hrun⟩

lemma run_of_exec {T : Threads ι E σ W} (i : ι) {p : Prog E σ} {s : σ} {w' : W} (hi : T.thread i = .inside p)
    (hexec : Exec (R i) p T.world s w') :
    Relation.ReflTransGen (Step R begins other) T ⟨Function.update T.thread i (.between s), w'⟩ := by
  generalize hw : T.world = w at hexec
  induction hexec generalizing T with
  | ret =>
    rw [← hw]
    exact .single (.leave i hi)
  | @call o k a w w₁ w' s hr _ ih =>
    have hstep : Step R begins other T ⟨Function.update T.thread i (.inside (k a)), w₁⟩ :=
      .perform i hi (hw.symm ▸ hr)
    have hrun := ih (T := ⟨Function.update T.thread i (.inside (k a)), w₁⟩) (Function.update_self ..) rfl
    rw [Function.update_idem] at hrun
    exact .head hstep hrun

/-- A thread runs one of its programs while the others stand still. -/
lemma run_of_begins {T : Threads ι E σ W} (i : ι) {p : Prog E σ} {s s' : σ} {w' : W} (hi : T.thread i = .between s)
    (hbegin : begins i s T.world p) (hexec : Exec (R i) p T.world s' w') :
    Relation.ReflTransGen (Step R begins other) T ⟨Function.update T.thread i (.between s'), w'⟩ := by
  have hrun : Relation.ReflTransGen (Step R begins other) { T with thread := Function.update T.thread i (.inside p) }
      ⟨Function.update (Function.update T.thread i (.inside p)) i (.between s'), w'⟩ :=
    run_of_exec i (Function.update_self ..) hexec
  rw [Function.update_idem] at hrun
  exact .head (.enter i hi hbegin) hrun

/-- The next step of a thread, with its calls answered and its programs begun by functions. -/
def advance (answer : ι → W → (o : E.Op) → Option (E.Ans o × W)) (start : ι → σ → W → Option (Prog E σ))
    (T : Threads ι E σ W) (i : ι) : Option (Threads ι E σ W) :=
  match T.thread i with
  | .between s => (start i s T.world).map (fun p => { T with thread := Function.update T.thread i (.inside p) })
  | .inside (.ret s) => some { T with thread := Function.update T.thread i (.between s) }
  | .inside (.call o k) => (answer i T.world o).map (fun x => ⟨Function.update T.thread i (.inside (k x.1)), x.2⟩)

/-- The threads take turns as the schedule says. -/
def follow (answer : ι → W → (o : E.Op) → Option (E.Ans o × W)) (start : ι → σ → W → Option (Prog E σ)) :
    (schedule : List ι) → Threads ι E σ W → Option (Threads ι E σ W)
  | [], T => some T
  | i :: schedule, T => (advance answer start T i).bind (follow answer start schedule)

lemma run_of_follow {answer : ι → W → (o : E.Op) → Option (E.Ans o × W)} {start : ι → σ → W → Option (Prog E σ)}
    (hanswer : ∀ i w o a w', answer i w o = some (a, w') → R i w o a w')
    (hstart : ∀ i s w p, start i s w = some p → begins i s w p) {schedule : List ι} {T T' : Threads ι E σ W}
    (hrun : follow answer start schedule T = some T') : Relation.ReflTransGen (Step R begins other) T T' := by
  induction schedule generalizing T with
  | nil =>
    cases hrun
    exact .refl
  | cons i schedule ih =>
    obtain ⟨T₁, hnext, hrest⟩ := Option.bind_eq_some_iff.mp hrun
    refine .head ?_ (ih hrest)
    unfold advance at hnext
    split at hnext
    · rename_i s hi
      obtain ⟨p, hp, rfl⟩ := Option.map_eq_some_iff.mp hnext
      exact .enter i hi (hstart _ _ _ _ hp)
    · rename_i s hi
      rw [← Option.some.inj hnext]
      exact .leave i hi
    · rename_i o k hi
      obtain ⟨⟨a, w'⟩, ha, rfl⟩ := Option.map_eq_some_iff.mp hnext
      exact .perform i hi (hanswer _ _ _ _ _ ha)

end Threads

end CallTree
