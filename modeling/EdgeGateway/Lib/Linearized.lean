import EdgeGateway.Lib.Locked

/-!
# Objects under a mutex

An object serves each request from its beginning to its end under one mutex. However threads call it, it has served
their requests one after the other in some order, and each thread has its results in the order of its own requests.
-/

namespace CallTree

variable {E : Signature} {Q ρ σ S V ι : Type}

lemma Exec.of_bind {R : Env E S} {p : Prog E ρ} {f : ρ → Prog E σ} {w w' : S} {s : σ} (h : Exec R (p >>= f) w s w') :
    ∃ r w₁, Exec R p w r w₁ ∧ Exec R (f r) w₁ s w' := by
  induction p generalizing w with
  | ret r => exact ⟨r, w, .ret, h⟩
  | call o k ih =>
    cases h with
    | call hr hrest =>
      obtain ⟨r, w₁, hexec, hf⟩ := ih _ hrest
      exact ⟨r, w₁, .call hr hexec, hf⟩

lemma Exec.of_map {R : Env E S} {f : ρ → σ} {p : Prog E ρ} {w w' : S} {s : σ}
    (h : Exec R (p >>= fun r => .ret (f r)) w s w') : ∃ r, Exec R p w r w' ∧ s = f r := by
  obtain ⟨r, w₁, hexec, hret⟩ := h.of_bind
  cases hret
  exact ⟨r, hexec, rfl⟩

lemma Reaches.of_map {R : Env E S} {f : ρ → σ} {p : Prog E ρ} {w w' : S}
    (h : Reaches R (p >>= fun r => .ret (f r)) w w') : Reaches R p w w' := by
  induction p generalizing w with
  | ret r =>
    cases h
    exact .here
  | call o k ih =>
    cases h with
    | here => exact .here
    | call hr hrest => exact .call hr (ih _ hrest)

/-- What a program does in a part of a world, it does in the world. -/
lemma Exec.lift {R : Env E S} {R' : Env E V} {f : S → V}
    (hf : ∀ w o a v, R' (f w) o a v → ∃ w', R w o a w' ∧ f w' = v) {p : Prog E ρ} {w : S} {r : ρ} {v : V}
    (h : Exec R' p (f w) r v) : ∃ w', Exec R p w r w' ∧ f w' = v := by
  generalize hw : f w = v₀ at h
  induction h generalizing w with
  | ret => exact ⟨w, .ret, hw⟩
  | call hr _ ih =>
    subst hw
    obtain ⟨w₁, hr₁, hw₁⟩ := hf _ _ _ _ hr
    obtain ⟨w', hexec, hw'⟩ := ih hw₁
    exact ⟨w', .call hr₁ hexec, hw'⟩

lemma Reaches.lift {R : Env E S} {R' : Env E V} {f : S → V}
    (hf : ∀ w o a v, R' (f w) o a v → ∃ w', R w o a w' ∧ f w' = v) {p : Prog E ρ} {w : S} {v : V}
    (h : Reaches R' p (f w) v) : ∃ w', Reaches R p w w' ∧ f w' = v := by
  generalize hw : f w = v₀ at h
  induction h generalizing w with
  | here => exact ⟨w, .here, hw⟩
  | call hr _ ih =>
    subst hw
    obtain ⟨w₁, hr₁, hw₁⟩ := hf _ _ _ _ hr
    obtain ⟨w', hreach, hw'⟩ := ih hw₁
    exact ⟨w', .call hr₁ hreach, hw'⟩

/-- What no call changes. -/
lemma Reaches.unchanged {R : Env E S} {f : S → V} (hf : ∀ w o a w', R w o a w' → f w' = f w) {p : Prog E ρ} {w w' : S}
    (h : Reaches R p w w') : f w' = f w := by
  induction h with
  | here => rfl
  | call hr _ ih => exact ih.trans (hf _ _ _ _ hr)

/-- A service in the middle of a request. -/
lemma Service.exists_run_of_reaches {s : Service E S} (q : s.Request) {p : Prog E s.Result} {w w' : S}
    (h : Reaches s.env p w w') : ∃ p', Relation.ReflTransGen s.Step (.busy q p w) (.busy q p' w') := by
  induction h with
  | @here p w => exact ⟨p, .refl⟩
  | call hr _ ih =>
    obtain ⟨p', hrun⟩ := ih
    exact ⟨p', .head (.perform hr) hrun⟩

/-- Requests and their results, one after the other. -/
inductive Served (R : Env E S) (handle : Q → Prog E ρ) (w : S) : List (Q × ρ) → S → Prop where
  | start : Served R handle w [] w
  | next {calls : List (Q × ρ)} {q : Q} {r : ρ} {w' w'' : S} : Served R handle w calls w' →
      Exec R (handle q) w' r w'' → Served R handle w (calls ++ [(q, r)]) w''

section

variable (R : Env E S) (handle : Q → Prog E ρ) (may : ι → Q → Prop)

/-- A thread calls the object. Its state is the list of its requests with their results. -/
def Calls (i : ι) (results : List (Q × ρ)) (_ : Monitor ι S) (p : Prog (lockSignature E) (List (Q × ρ))) : Prop :=
  ∃ q, may i q ∧ p = locked (handle q) >>= fun r => .ret (results ++ [(q, r)])

def Serves (i : ι) (results : List (Q × ρ)) (p : Prog E (List (Q × ρ))) : Prop :=
  ∃ q, may i q ∧ p = handle q >>= fun r => .ret (results ++ [(q, r)])

/-- Threads that call the object. -/
abbrev ObjectRun [DecidableEq ι] : Threads ι (lockSignature E) (List (Q × ρ)) (Monitor ι S) →
    Threads ι (lockSignature E) (List (Q × ρ)) (Monitor ι S) → Prop :=
  Relation.ReflTransGen (Threads.Step (lockEnv R) (Calls handle may) (fun _ _ => False))

/-- The calls that have been served, in their order, and the object in between two calls or inside of one. -/
structure Linearized [DecidableEq ι] (w₀ : S) (T : Threads ι (lockSignature E) (List (Q × ρ)) (Monitor ι S))
    (calls : List (ι × Q × ρ)) (w : S) : Prop where
  own : ∀ i results, T.thread i = .between results → ofThread i calls = results
  allowed : ∀ call ∈ calls, may call.1 call.2.1
  served : Served R handle w₀ (calls.map Prod.snd) w
  free : T.world.owner = none → T.world.resource = w
  inside : ∀ i, T.world.owner = some i → ∃ q, may i q ∧ Reaches R (handle q) w T.world.resource

variable {R handle may}

lemma Calls.begins {i : ι} {results : List (Q × ρ)} {w : Monitor ι S} {p : Prog (lockSignature E) (List (Q × ρ))}
    (h : Calls handle may i results w p) :
    Atomic.Begins (Serves handle may) (fun _ _ _ => False) i results w p := by
  obtain ⟨q, hmay, rfl⟩ := h
  rw [locked_map]
  exact .work ⟨q, hmay, rfl⟩

variable [DecidableEq ι] {A A' : Atomic ι (List (Q × ρ)) S} {w₀ : S}

/-- A thread calls the object while the others stand still. -/
lemma run_of_call {T : Threads ι (lockSignature E) (List (Q × ρ)) (Monitor ι S)} (i : ι) {results : List (Q × ρ)}
    (hi : T.thread i = .between results) {w w' : S} (hworld : T.world = ⟨none, w⟩) {q : Q} (hq : may i q) {r : ρ}
    (hexec : Exec R (handle q) w r w') :
    ObjectRun R handle may T
      ⟨Function.update T.thread i (.between (results ++ [(q, r)])), ⟨none, w'⟩⟩ := by
  apply Threads.run_of_begins i hi ⟨q, hq, rfl⟩
  rw [hworld]
  exact (exec_locked i hexec).bind .ret

/-- The threads have the results of the calls. -/
structure Recorded (R : Env E S) (handle : Q → Prog E ρ) (may : ι → Q → Prop) (w₀ : S)
    (A : Atomic ι (List (Q × ρ)) S) (calls : List (ι × Q × ρ)) : Prop where
  own : ∀ i, ofThread i calls = A.thread i
  allowed : ∀ call ∈ calls, may call.1 call.2.1
  served : Served R handle w₀ (calls.map Prod.snd) A.resource

lemma Recorded.step {calls : List (ι × Q × ρ)} (h : Recorded R handle may w₀ A calls)
    (hstep : Atomic.Step R (Serves handle may) (fun _ _ _ => False) A A') :
    ∃ calls', Recorded R handle may w₀ A' calls' := by
  cases hstep with
  | skip i hskips => exact hskips.elim
  | work i hserves hexec =>
    obtain ⟨q, hmay, rfl⟩ := hserves
    obtain ⟨r, hhandle, rfl⟩ := hexec.of_map
    refine ⟨calls ++ [(i, q, r)], ?_, List.forall_mem_append.mpr ⟨h.allowed, by simpa using hmay⟩, ?_⟩
    · intro j
      by_cases hji : j = i
      · subst hji
        simp [ofThread_append_self, h.own]
      · simp [ofThread_append_of_ne (Ne.symm hji), h.own, hji]
    · rw [List.map_append, List.map_singleton]
      exact h.served.next hhandle

lemma exists_recorded (hrun : Relation.ReflTransGen (Atomic.Step R (Serves handle may) (fun _ _ _ => False))
    ⟨fun _ => [], w₀⟩ A) : ∃ calls, Recorded R handle may w₀ A calls := by
  induction hrun with
  | refl => exact ⟨[], fun _ => rfl, (fun _ hcall => nomatch hcall), .start⟩
  | tail _ hstep ih =>
    obtain ⟨calls, hcalls⟩ := ih
    exact hcalls.step hstep

/-- Threads that call an object under its mutex are linearized. -/
theorem exists_linearized {T : Threads ι (lockSignature E) (List (Q × ρ)) (Monitor ι S)}
    (hrun : ObjectRun R handle may ⟨fun _ => .between [], ⟨none, w₀⟩⟩ T) :
    ∃ calls w, Linearized R handle may w₀ T calls w := by
  have hlocked := Relation.ReflTransGen.mono
    (fun _ _ hstep => Threads.Step.mono (fun _ _ _ _ => Calls.begins) hstep) _ _ hrun
  obtain ⟨A, hreach, hmirrors⟩ := Atomic.exists_mirror ⟨fun _ => [], w₀⟩ hlocked
  obtain ⟨calls, hcalls⟩ := exists_recorded hreach
  refine ⟨calls, A.resource, ?_, hcalls.allowed, hcalls.served, hmirrors.free, ?_⟩
  · intro i results hi
    rw [hcalls.own i, hmirrors.between hi]
  · intro i howner
    obtain ⟨_, _, ⟨q, hmay, rfl⟩, _, hreaches⟩ := hmirrors.holder howner
    exact ⟨q, hmay, (hreaches _ .here).of_map⟩

end

/-! ### Methods -/

/-- The calls of a method on the members of its object, and its other calls. A method that has not returned after
the passes that it is followed for goes on running. -/
inductive MemberOp (E : Signature) (M : Type) where
  | load
  | store (m : M)
  | running
  | outside (o : E.Op)

variable {M : Type}

abbrev MemberOp.Ans : MemberOp E M → Type
  | .load => M
  | .store _ => Unit
  | .running => Empty
  | .outside o => E.Ans o

abbrev memberSignature (E : Signature) (M : Type) : Signature :=
  ⟨MemberOp E M, MemberOp.Ans⟩

/-- The end of a method. -/
def leaveMethod (result : Option ρ) (m : M) : Prog (memberSignature E M) ρ :=
  match result with
  | some r => do
    Prog.perform (E := memberSignature E M) (.store m)
    return r
  | none => .call (E := memberSignature E M) .running Empty.elim

/-- A method, from its body over the values of the members. -/
def method (body : M → Prog E (Option ρ × M)) : Prog (memberSignature E M) ρ := do
  let m ← Prog.perform (E := memberSignature E M) .load
  let (result, m) ← (body m).embed (F := memberSignature E M) MemberOp.outside (fun _ a => a)
  leaveMethod result m

def memberEnv (R : Env E S) : Env (memberSignature E M) (M × S) := fun w o =>
  match o with
  | .load => fun m w' => m = w.1 ∧ w' = w
  | .store m => fun _ w' => w' = (m, w.2)
  | .running => fun _ _ => False
  | .outside o => fun a w' => ∃ s, R w.2 o a s ∧ w' = (w.1, s)

lemma Exec.of_outside {R : Env E S} {p : Prog E ρ} {w w' : M × S} {r : ρ}
    (h : Exec (memberEnv R) (p.embed (F := memberSignature E M) MemberOp.outside (fun _ a => a)) w r w') :
    Exec R p w.2 r w'.2 := by
  induction p generalizing w with
  | ret r' =>
    cases h
    exact .ret
  | call o k ih =>
    cases h with
    | call hr hrest =>
      obtain ⟨s, hcall, rfl⟩ := hr
      exact .call hcall (ih _ hrest)

/-- A method that returns has run its body and left what it says in the members. -/
lemma Exec.of_method {R : Env E S} {body : M → Prog E (Option ρ × M)} {w w' : M × S} {r : ρ}
    (h : Exec (memberEnv R) (method body) w r w') : Exec R (body w.1) w.2 (some r, w'.1) w'.2 := by
  unfold method at h
  obtain ⟨m, w₁, hload, hrest⟩ := h.of_bind
  cases hload with
  | call hr hret =>
    cases hret
    obtain ⟨rfl, rfl⟩ := hr
    obtain ⟨⟨result, m'⟩, w₂, hbody, hleave⟩ := hrest.of_bind
    cases result with
    | none =>
      cases hleave with
      | call hrunning => exact hrunning.elim
    | some r' =>
      cases hleave with
      | call hstore hret =>
        cases hret
        rw [show w' = (m', w₂.2) from hstore]
        exact hbody.of_outside

lemma exec_method {R : Env E S} {body : M → Prog E (Option ρ × M)} {m m' : M} {s s' : S} {r : ρ}
    (h : Exec R (body m) s (some r, m') s') : Exec (memberEnv R) (method body) (m, s) r (m', s') := by
  have houtside : ∀ {p : Prog E (Option ρ × M)} {s s' : S} {a : Option ρ × M}, Exec R p s a s' →
      Exec (memberEnv R) (p.embed (F := memberSignature E M) MemberOp.outside (fun _ a => a)) (m, s) a (m, s') := by
    intro p s s' a hexec
    induction hexec with
    | ret => exact .ret
    | @call o k a s s₁ _ _ hr _ ih =>
      have hcall : memberEnv R (m, s) (.outside o) a (m, s₁) := ⟨s₁, hr, rfl⟩
      exact .call hcall ih
  have hload : memberEnv R (m, s) .load m (m, s) := ⟨rfl, rfl⟩
  have hstore : memberEnv R (m, s') (.store m') () (m', s') := rfl
  exact (Exec.call hload .ret).bind ((houtside h).bind (.call hstore .ret))

end CallTree
