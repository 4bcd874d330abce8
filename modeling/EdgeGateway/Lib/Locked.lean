import EdgeGateway.Lib.Threads

/-!
# Programs under a mutex

Threads that do all of their work on a resource while they hold one mutex. However they take turns, the resource is
what it would be if each of them had done the whole of its work at once, one after the other.
-/

namespace CallTree

variable {E : Signature} {ρ σ S ι : Type}

/-- Calls on the mutex, and calls that are made while it is held. -/
inductive LockOp (E : Signature) where
  | lock
  | unlock
  | inside (o : E.Op)

abbrev LockOp.Ans : LockOp E → Type
  | .lock => Unit
  | .unlock => Unit
  | .inside o => E.Ans o

abbrev lockSignature (E : Signature) : Signature :=
  ⟨LockOp E, LockOp.Ans⟩

/-- What is left of a program while the mutex is held. -/
def closing (p : Prog E ρ) : Prog (lockSignature E) ρ := do
  let r ← p.embed (F := lockSignature E) LockOp.inside (fun _ a => a)
  Prog.perform (E := lockSignature E) .unlock
  return r

/-- A program that holds the mutex from its beginning to its end. -/
def locked (p : Prog E ρ) : Prog (lockSignature E) ρ := do
  Prog.perform (E := lockSignature E) .lock
  closing p

lemma closing_ret (r : ρ) : closing (.ret r : Prog E ρ) = .call (E := lockSignature E) .unlock (fun _ => .ret r) := rfl

lemma closing_call (o : E.Op) (k : E.Ans o → Prog E ρ) :
    closing (.call o k) = .call (E := lockSignature E) (.inside o) (fun a => closing (k a)) := rfl

lemma closing_ne_ret (p : Prog E ρ) (r : ρ) : closing p ≠ .ret r := by
  cases p with
  | ret r' => exact fun h => nomatch h
  | call o k => exact fun h => nomatch h

lemma closing_map (p : Prog E ρ) (f : ρ → σ) :
    (closing p >>= fun r => .ret (f r)) = closing (p >>= fun r => .ret (f r)) := by
  unfold closing
  simp only [Prog.embed_bind, Prog.bind_assoc]
  rfl

lemma locked_map (p : Prog E ρ) (f : ρ → σ) :
    (locked p >>= fun r => .ret (f r)) = locked (p >>= fun r => .ret (f r)) := by
  unfold locked
  rw [Prog.bind_assoc]
  congr 1
  funext _
  exact closing_map p f

/-- A resource and the thread that holds its mutex. -/
structure Monitor (ι S : Type) where
  owner : Option ι
  resource : S

def lockEnv (R : Env E S) (i : ι) : Env (lockSignature E) (Monitor ι S) := fun w o =>
  match o with
  | .lock => fun _ w' => w.owner = none ∧ w' = ⟨some i, w.resource⟩
  | .unlock => fun _ w' => w' = ⟨none, w.resource⟩
  | .inside o => fun a w' => ∃ s', R w.resource o a s' ∧ w' = ⟨w.owner, s'⟩

lemma exec_closing {R : Env E S} (i : ι) {p : Prog E ρ} {r : ρ} {s s' : S} (h : Exec R p s r s') :
    Exec (lockEnv R i) (closing p) ⟨some i, s⟩ r ⟨none, s'⟩ := by
  induction h with
  | @ret r s =>
    have hunlock : lockEnv R i ⟨some i, s⟩ .unlock () ⟨none, s⟩ := rfl
    exact .call hunlock .ret
  | @call o k a s s₁ s' r hr _ ih =>
    have hinside : lockEnv R i ⟨some i, s⟩ (.inside o) a ⟨some i, s₁⟩ := ⟨s₁, hr, rfl⟩
    exact .call hinside ih

/-- A free mutex is taken and given back. -/
lemma exec_locked {R : Env E S} (i : ι) {p : Prog E ρ} {r : ρ} {s s' : S} (h : Exec R p s r s') :
    Exec (lockEnv R i) (locked p) ⟨none, s⟩ r ⟨none, s'⟩ := by
  have hlock : lockEnv R i ⟨none, s⟩ .lock () ⟨some i, s⟩ := ⟨rfl, rfl⟩
  exact .call hlock (exec_closing i h)

/-- Whoever holds the mutex can go on to the end and give it back. -/
lemma exists_closing {R : Env E S} (hanswer : ∀ s o, ∃ a s', R s o a s') (i : ι) (p : Prog E ρ) (w : Monitor ι S) :
    ∃ r w', Exec (lockEnv R i) (closing p) w r w' ∧ w'.owner = none := by
  induction p generalizing w with
  | ret r =>
    have hunlock : lockEnv R i w .unlock () ⟨none, w.resource⟩ := rfl
    rw [closing_ret]
    exact ⟨r, _, .call hunlock .ret, rfl⟩
  | call o k ih =>
    obtain ⟨a, s', hr⟩ := hanswer w.resource o
    obtain ⟨r, w', hexec, hfree⟩ := ih a ⟨w.owner, s'⟩
    have hinside : lockEnv R i w (.inside o) a ⟨w.owner, s'⟩ := ⟨s', hr, rfl⟩
    rw [closing_call]
    exact ⟨r, w', .call hinside hexec, hfree⟩

/-- The mutex, with the calls that are made while it is held answered by a function. -/
def lockAnswer (answer : S → (o : E.Op) → Option (E.Ans o × S)) (i : ι) (w : Monitor ι S) :
    (o : LockOp E) → Option (o.Ans × Monitor ι S)
  | .lock => if w.owner.isNone then some ((), ⟨some i, w.resource⟩) else none
  | .unlock => some ((), ⟨none, w.resource⟩)
  | .inside o => (answer w.resource o).map (fun x => (x.1, ⟨w.owner, x.2⟩))

lemma lockEnv_of_answer {R : Env E S} {answer : S → (o : E.Op) → Option (E.Ans o × S)}
    (h : ∀ s o a s', answer s o = some (a, s') → R s o a s') {i : ι} {w w' : Monitor ι S} {o : LockOp E} {a : o.Ans}
    (hanswer : lockAnswer answer i w o = some (a, w')) : lockEnv R i w o a w' := by
  cases o with
  | lock =>
    by_cases hfree : w.owner.isNone
    · rw [lockAnswer, if_pos hfree] at hanswer
      cases hanswer
      exact ⟨Option.isNone_iff_eq_none.mp hfree, rfl⟩
    · rw [lockAnswer, if_neg hfree] at hanswer
      cases hanswer
  | unlock =>
    cases hanswer
    exact rfl
  | inside o =>
    obtain ⟨⟨a, s'⟩, hinside, heq⟩ := Option.map_eq_some_iff.mp hanswer
    cases heq
    exact ⟨s', h _ _ _ _ hinside, rfl⟩

/-- Threads that do their work at once. -/
structure Atomic (ι σ S : Type) where
  thread : ι → σ
  resource : S

namespace Atomic

variable (R : Env E S) (works : ι → σ → Prog E σ → Prop) (skips : ι → σ → σ → Prop)

/-- A thread does the whole of its work on the resource, or something of its own. -/
inductive Step [DecidableEq ι] : Atomic ι σ S → Atomic ι σ S → Prop where
  | work {A : Atomic ι σ S} (i : ι) {p : Prog E σ} {s : σ} {r : S} : works i (A.thread i) p →
      Exec R p A.resource s r → Step A ⟨Function.update A.thread i s, r⟩
  | skip {A : Atomic ι σ S} (i : ι) {s : σ} : skips i (A.thread i) s →
      Step A ⟨Function.update A.thread i s, A.resource⟩

/-- What a thread can begin. -/
inductive Begins (i : ι) (s : σ) : Monitor ι S → Prog (lockSignature E) σ → Prop where
  | work {w : Monitor ι S} {p : Prog E σ} : works i s p → Begins i s w (locked p)
  | skip {w : Monitor ι S} {s' : σ} : skips i s s' → Begins i s w (.ret s')

/-- Where a thread stands, seen from the threads that work at once. -/
inductive Phase (A : Atomic ι σ S) (w : Monitor ι S) (i : ι) : Thread (lockSignature E) σ → Prop where
  | rests : w.owner ≠ some i → Phase A w i (.between (A.thread i))
  | waits {p : Prog E σ} : w.owner ≠ some i → works i (A.thread i) p → Phase A w i (.inside (locked p))
  | holds {p q : Prog E σ} : w.owner = some i → works i (A.thread i) p →
      (∀ s r, Exec R q w.resource s r → Exec R p A.resource s r) →
      (∀ r, Reaches R q w.resource r → Reaches R p A.resource r) → Phase A w i (.inside (closing q))
  | leaves : w.owner ≠ some i → Phase A w i (.inside (.ret (A.thread i)))

/-- The threads stand somewhere, and a resource that nobody holds is the one of the threads that work at once. -/
structure Mirrors (A : Atomic ι σ S) (T : Threads ι (lockSignature E) σ (Monitor ι S)) : Prop where
  phase : ∀ i, Phase R works A T.world i (T.thread i)
  free : T.world.owner = none → T.world.resource = A.resource

variable {R works skips}

lemma Phase.owner_ne {A A' : Atomic ι σ S} {w w' : Monitor ι S} {i : ι} {t : Thread (lockSignature E) σ}
    (h : Phase R works A w i t) (hthread : A'.thread i = A.thread i) (howner : w.owner ≠ some i)
    (howner' : w'.owner ≠ some i) : Phase R works A' w' i t := by
  cases h with
  | rests =>
    rw [← hthread]
    exact .rests howner'
  | waits _ hworks => exact .waits howner' (hthread ▸ hworks)
  | holds hholds => exact (howner hholds).elim
  | leaves =>
    rw [← hthread]
    exact .leaves howner'

lemma Phase.leaves_of_eq {A : Atomic ι σ S} {w : Monitor ι S} {i : ι} {s : σ} (hs : A.thread i = s)
    (howner : w.owner ≠ some i) : Phase R works A w i (.inside (.ret s)) := by
  rw [← hs]
  exact .leaves howner

lemma Phase.congr {A A' : Atomic ι σ S} {w : Monitor ι S} {i : ι} {t : Thread (lockSignature E) σ}
    (h : Phase R works A w i t) (hthread : A'.thread i = A.thread i) (hresource : A'.resource = A.resource) :
    Phase R works A' w i t := by
  cases h with
  | rests howner =>
    rw [← hthread]
    exact .rests howner
  | waits howner hworks => exact .waits howner (hthread ▸ hworks)
  | holds howner hworks hexec hreach =>
    exact .holds howner (hthread ▸ hworks) (hresource ▸ hexec) (hresource ▸ hreach)
  | leaves howner =>
    rw [← hthread]
    exact .leaves howner

/-- A run of threads under the mutex. -/
abbrev Run [DecidableEq ι] (R : Env E S) (works : ι → σ → Prog E σ → Prop) (skips : ι → σ → σ → Prop) :
    Threads ι (lockSignature E) σ (Monitor ι S) → Threads ι (lockSignature E) σ (Monitor ι S) → Prop :=
  Relation.ReflTransGen (Threads.Step (lockEnv R) (Begins works skips) (fun _ _ => False))

section

variable [DecidableEq ι] {A A' : Atomic ι σ S} {T : Threads ι (lockSignature E) σ (Monitor ι S)} {i : ι}

/-- Thread `i` does something of its own. -/
lemma Mirrors.alone (h : Mirrors R works A T) {t : Thread (lockSignature E) σ}
    (hthread : ∀ j, j ≠ i → A'.thread j = A.thread j) (hresource : A'.resource = A.resource)
    (ht : Phase R works A' T.world i t) : Mirrors R works A' { T with thread := Function.update T.thread i t } where
  phase := by
    intro j
    by_cases hji : j = i
    · subst hji
      simp only [Function.update_self]
      exact ht
    · simp only [Function.update_of_ne hji]
      exact (h.phase j).congr (hthread j hji) hresource
  free := fun hfree => (h.free hfree).trans hresource.symm

/-- Thread `i` does something with the mutex or the resource, and nobody else holds it. -/
lemma Mirrors.together (h : Mirrors R works A T) {t : Thread (lockSignature E) σ} {w : Monitor ι S}
    (hthread : ∀ j, j ≠ i → A'.thread j = A.thread j) (hbefore : ∀ j, j ≠ i → T.world.owner ≠ some j)
    (hafter : ∀ j, j ≠ i → w.owner ≠ some j) (ht : Phase R works A' w i t)
    (hfree : w.owner = none → w.resource = A'.resource) :
    Mirrors R works A' ⟨Function.update T.thread i t, w⟩ where
  phase := by
    intro j
    by_cases hji : j = i
    · subst hji
      simp only [Function.update_self]
      exact ht
    · simp only [Function.update_of_ne hji]
      exact (h.phase j).owner_ne (hthread j hji) (hbefore j hji) (hafter j hji)
  free := hfree

lemma Mirrors.enter (h : Mirrors R works A T) {s : σ} {p : Prog (lockSignature E) σ} (hi : T.thread i = .between s)
    (hbegins : Begins works skips i s T.world p) :
    ∃ A', Relation.ReflTransGen (Step R works skips) A A' ∧
      Mirrors R works A' { T with thread := Function.update T.thread i (.inside p) } := by
  have hphase := h.phase i
  rw [hi] at hphase
  cases hphase with
  | rests howner =>
    cases hbegins with
    | work hworks => exact ⟨A, .refl, h.alone (fun _ _ => rfl) rfl (.waits howner hworks)⟩
    | @skip s' hskips =>
      refine ⟨_, .single (.skip i hskips), h.alone (fun j hj => Function.update_of_ne hj _ _) rfl ?_⟩
      exact .leaves_of_eq (Function.update_self ..) howner

omit [DecidableEq ι] in
lemma Mirrors.between (h : Mirrors R works A T) {s : σ} (hi : T.thread i = .between s) : A.thread i = s := by
  have hphase := h.phase i
  rw [hi] at hphase
  cases hphase with
  | rests => rfl

lemma Mirrors.leave (h : Mirrors R works A T) {s : σ} (hi : T.thread i = .inside (.ret s)) :
    Mirrors R works A { T with thread := Function.update T.thread i (.between s) } := by
  have hphase := h.phase i
  rw [hi] at hphase
  generalize ht : Thread.inside (.ret s) = t at hphase
  apply h.alone (fun _ _ => rfl) rfl
  cases hphase with
  | rests => cases ht
  | waits => cases ht
  | holds => exact (closing_ne_ret _ _ (Thread.inside.inj ht).symm).elim
  | leaves howner =>
    cases ht
    exact .rests howner

/-- A call of thread `i`. Its work is done at once when it gives the mutex back. -/
lemma Mirrors.perform (h : Mirrors R works A T) {o : LockOp E} {k : o.Ans → Prog (lockSignature E) σ} {a : o.Ans}
    {w : Monitor ι S} (hi : T.thread i = .inside (.call o k)) (hcall : lockEnv R i T.world o a w) :
    ∃ A', Relation.ReflTransGen (Step R works skips) A A' ∧
      Mirrors R works A' ⟨Function.update T.thread i (.inside (k a)), w⟩ := by
  have hphase := h.phase i
  rw [hi] at hphase
  generalize ht : Thread.inside (Prog.call (E := lockSignature E) o k) = t at hphase
  have hother : ∀ {j}, j ≠ i → some i ≠ some j := fun hj heq => hj (Option.some.inj heq).symm
  have hnone : ∀ j : ι, none ≠ some j := fun _ heq => nomatch heq
  cases hphase with
  | rests => cases ht
  | leaves => cases ht
  | @waits p _ hworks =>
    cases ht
    obtain ⟨hfree, rfl⟩ := hcall
    refine ⟨A, .refl, ?_⟩
    apply h.together (fun _ _ => rfl) (fun j _ => hfree ▸ hnone j) (fun j hj => hother hj)
    · have hsame := h.free hfree
      exact .holds rfl hworks (fun s r hexec => hsame ▸ hexec) (fun r hreach => hsame ▸ hreach)
    · exact fun heq => nomatch heq
  | @holds p q hholds hworks hexec hreach =>
    have hbefore : ∀ j, j ≠ i → T.world.owner ≠ some j := fun j hj => hholds ▸ hother hj
    cases q with
    | ret s =>
      rw [closing_ret] at ht
      cases ht
      rw [show w = ⟨none, T.world.resource⟩ from hcall]
      refine ⟨_, .single (.work i hworks (hexec s T.world.resource .ret)), ?_⟩
      apply h.together (fun j hj => Function.update_of_ne hj _ _) hbefore (fun j _ => hnone j)
      · exact .leaves_of_eq (Function.update_self ..) (hnone i)
      · exact fun _ => rfl
    | call o' k' =>
      rw [closing_call] at ht
      cases ht
      obtain ⟨r, hr, rfl⟩ := hcall
      refine ⟨A, .refl, ?_⟩
      apply h.together (w := ⟨T.world.owner, r⟩) (fun _ _ => rfl) hbefore hbefore
      · exact .holds hholds hworks (fun s r' hrest => hexec s r' (.call hr hrest))
          (fun r' hrest => hreach r' (.call hr hrest))
      · exact fun hnone => nomatch hholds.symm.trans hnone

omit [DecidableEq ι] in
/-- The thread that holds the mutex is in the middle of its work. -/
lemma Mirrors.holder (h : Mirrors R works A T) (howner : T.world.owner = some i) :
    ∃ p q, works i (A.thread i) p ∧ T.thread i = .inside (closing q) ∧
      ∀ r, Reaches R q T.world.resource r → Reaches R p A.resource r := by
  have hphase := h.phase i
  generalize T.thread i = t at hphase
  cases hphase with
  | rests hne => exact (hne howner).elim
  | waits hne => exact (hne howner).elim
  | leaves hne => exact (hne howner).elim
  | @holds p q _ hworks _ hreach => exact ⟨p, q, hworks, rfl, hreach⟩

/-- A mutex that is held can be given back: nobody waits for it forever because of the others. -/
lemma Mirrors.exists_free (h : Mirrors R works A T) (hanswer : ∀ s o, ∃ a s', R s o a s')
    (begins : ι → σ → Monitor ι S → Prog (lockSignature E) σ → Prop) (other : Monitor ι S → Monitor ι S → Prop) :
    ∃ T', Relation.ReflTransGen (Threads.Step (lockEnv R) begins other) T T' ∧ T'.world.owner = none := by
  cases howner : T.world.owner with
  | none => exact ⟨T, .refl, howner⟩
  | some i =>
    obtain ⟨_, q, _, hi, _⟩ := h.holder howner
    obtain ⟨s, w', hexec, hfree⟩ := exists_closing hanswer i q T.world
    exact ⟨_, Threads.run_of_exec i hi hexec, hfree⟩

end

/-- However the threads take turns under the mutex, they mirror threads that work at once. -/
theorem exists_mirror [DecidableEq ι] (A₀ : Atomic ι σ S) {T : Threads ι (lockSignature E) σ (Monitor ι S)}
    (hrun : Run R works skips ⟨fun i => .between (A₀.thread i), ⟨none, A₀.resource⟩⟩ T) :
    ∃ A, Relation.ReflTransGen (Step R works skips) A₀ A ∧ Mirrors R works A T := by
  induction hrun with
  | refl => exact ⟨A₀, .refl, fun i => .rests (fun h => nomatch h), fun _ => rfl⟩
  | @tail T T' _ hstep ih =>
    obtain ⟨A, hreach, hmirrors⟩ := ih
    have hnext : ∃ A', Relation.ReflTransGen (Step R works skips) A A' ∧ Mirrors R works A' T' := by
      cases hstep with
      | enter i hi hbegins => exact hmirrors.enter hi hbegins
      | perform i hi hcall => exact hmirrors.perform hi hcall
      | leave i hi => exact ⟨A, .refl, hmirrors.leave hi⟩
      | other h => exact h.elim
    obtain ⟨A', hmore, hmirrors'⟩ := hnext
    exact ⟨A', hreach.trans hmore, hmirrors'⟩

end Atomic

end CallTree
