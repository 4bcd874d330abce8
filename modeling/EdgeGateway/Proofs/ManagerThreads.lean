import EdgeGateway.Proofs.WorkerProtocol

/-!
# The manager and its workers together

The thread that calls `start` and `stop` and the workers take turns in any order. What each of them
contributes to the history of all calls is justified by what happened before, and this alone gives the order
of the calls on every device.
-/

namespace EdgeGateway
open CallTree

/-- What happens to a manager with `n` devices. -/
inductive ManagerEvent (n : Nat) where
  | worker (i : Fin n) (e : Event runSignature)
  | exited (i : Fin n)
  | spawned (i : Fin n)
  | managerStop (i : Fin n)
  | stopped

structure ManagerWorld (n : Nat) where
  running : Bool := false
  workers : List (Fin n) := []
  trace : List (ManagerEvent n) := []

section

variable {n : Nat}

/-- The worker an event belongs to. The other events are those of the manager's own thread. -/
def ManagerEvent.thread : ManagerEvent n → Option (Fin n)
  | .worker i _ => some i
  | .exited i => some i
  | .spawned _ => none
  | .managerStop _ => none
  | .stopped => none

def ManagerWorld.note (w : ManagerWorld n) (e : ManagerEvent n) : ManagerWorld n :=
  { w with trace := w.trace ++ [e] }

/-- The steps of worker `i`. The devices and the handlers may do anything. -/
def workerEnv (i : Fin n) : Env (managerSignature n) (ManagerWorld n) := fun w o =>
  match o with
  | .worker .loadRunning => fun (running : Bool) w' =>
      running = w.running ∧ w' = w.note (.worker i ⟨.loadRunning, running⟩)
  | .worker o => fun a w' => w' = w.note (.worker i ⟨o, a⟩)
  | .exit => fun _ w' => w' = w.note (.exited i)
  | _ => fun _ _ => False

/-- The steps of `start` and `stop`. -/
def managerEnv : Env (managerSignature n) (ManagerWorld n) := fun w o =>
  match o with
  | .exchangeRunning value => fun (running : Bool) w' => running = w.running ∧ w' = { w with running := value }
  | .spawn i => fun (created : Bool) w' =>
      w' = if created then { w with workers := w.workers ++ [i] }.note (.spawned i) else w
  | .workers => fun (workers : List (Fin n)) w' => workers = w.workers ∧ w' = w
  | .clearWorkers => fun _ w' => w' = { w with workers := [] }
  | .stopDevice i => fun _ w' => w' = w.note (.managerStop i)
  | .join i => fun _ w' => .exited i ∈ w.trace ∧ w' = w
  | .stopped => fun _ w' => w' = w.note .stopped
  | _ => fun _ _ => False

def threadEnv : Option (Fin n) → Env (managerSignature n) (ManagerWorld n)
  | some i => workerEnv i
  | none => managerEnv

/-- What a thread can begin. A worker runs once it was created, and `stop` is called once, also where `start`
was not called. -/
inductive Begins (m : DeviceManager) :
    Option (Fin n) → Stage → ManagerWorld n → Prog (managerSignature n) Stage → Prop where
  | worker {w : ManagerWorld n} {i : Fin n} {started : Bool} : .spawned i ∈ w.trace →
      Begins m (some i) (.looping started) w (m.worker started)
  | start {w : ManagerWorld n} : Begins m none .constructed w DeviceManager.start
  | stop {w : ManagerWorld n} {s : Stage} : s = .constructed ∨ s = .running → Begins m none s w DeviceManager.stop

abbrev ManagerThreads (n : Nat) :=
  Threads (Option (Fin n)) (managerSignature n) Stage (ManagerWorld n)

/-- A manager as constructed, and the workers that it will create. -/
def managerStart (n : Nat) : ManagerThreads n where
  thread
    | some _ => .between (.looping false)
    | none => .between .constructed
  world := {}

abbrev ManagerStep (m : DeviceManager) : ManagerThreads n → ManagerThreads n → Prop :=
  Threads.Step threadEnv (Begins m) (fun _ _ => False)

/-! ### Histories -/

/-- What worker `i` did. -/
def workerEvents (i : Fin n) (trace : List (ManagerEvent n)) : RunHistory :=
  trace.filterMap (fun e => match e with
    | .worker j e => if j = i then some e else none
    | _ => none)

/-- The `start`, `read` or `stop` on device `i` that an event is, by its worker or by the manager. -/
def deviceCall (i : Fin n) : ManagerEvent n → Option InterfaceOp
  | .worker j ⟨.call .start, _⟩ => if j = i then some .start else none
  | .worker j ⟨.call (.read timeout), _⟩ => if j = i then some (.read timeout) else none
  | .worker j ⟨.call .stop, _⟩ => if j = i then some .stop else none
  | .managerStop j => if j = i then some .stop else none
  | _ => none

/-- The last of the `start`, `read` and `stop` calls on device `i`. -/
def lastCall (i : Fin n) (trace : List (ManagerEvent n)) : Option InterfaceOp :=
  (trace.filterMap (deviceCall i)).getLast?

/-- The end of a worker: its last call is `stop`, and everything was handed over. -/
structure Finished (m : DeviceManager) (h : RunHistory) : Prop where
  stop : ∃ before, h = before ++ [⟨.call .stop, ()⟩]
  balanced : (duty h).Balanced m

/-- What may happen after what has happened. -/
def Permitted (m : DeviceManager) (trace : List (ManagerEvent n)) : ManagerEvent n → Prop
  | .worker i e => .spawned i ∈ trace ∧ .exited i ∉ trace ∧ (duty (workerEvents i trace)).Allowed m e
  | .exited i => .spawned i ∈ trace ∧ .exited i ∉ trace ∧ Finished m (workerEvents i trace)
  | .spawned _ => .stopped ∉ trace
  | .managerStop _ => .stopped ∉ trace
  | .stopped => .stopped ∉ trace ∧ ∀ i, .spawned i ∈ trace → .exited i ∈ trace

section

variable {m : DeviceManager} {trace : List (ManagerEvent n)} {i : Fin n}

lemma ManagerEvent.eq_of_thread {e : ManagerEvent n} (h : e.thread = some i) :
    (∃ e', e = .worker i e') ∨ e = .exited i := by
  cases e with
  | worker j e' => exact .inl ⟨e', by rw [Option.some.inj h]⟩
  | exited j => exact .inr (by rw [Option.some.inj h])
  | spawned j => cases h
  | managerStop j => cases h
  | stopped => cases h

lemma workerEvents_append (e : ManagerEvent n) :
    workerEvents i (trace ++ [e]) = workerEvents i trace ++ workerEvents i [e] :=
  List.filterMap_append

@[simp] lemma workerEvents_worker (e : Event runSignature) :
    workerEvents i (trace ++ [.worker i e]) = workerEvents i trace ++ [e] := by
  rw [workerEvents_append]
  congr 1
  exact List.filterMap_cons_some (if_pos rfl)

lemma workerEvents_of_ne {e : ManagerEvent n} (hne : e.thread ≠ some i) :
    workerEvents i (trace ++ [e]) = workerEvents i trace := by
  have hnone : workerEvents i [e] = [] := by
    cases e with
    | worker j e =>
      have hji : j ≠ i := fun h => hne (congrArg some h)
      exact List.filterMap_cons_none (if_neg hji)
    | exited j => rfl
    | spawned j => rfl
    | managerStop j => rfl
    | stopped => rfl
  rw [workerEvents_append, hnone, List.append_nil]

@[simp] lemma workerEvents_exited (j : Fin n) : workerEvents i (trace ++ [.exited j]) = workerEvents i trace := by
  rw [workerEvents_append]
  exact List.append_nil _

/-- Each worker keeps to the protocol. -/
lemma lawful_workerEvents (h : Justified (Permitted m) trace) (i : Fin n) : Lawful m (workerEvents i trace) := by
  induction trace using List.reverseRecOn with
  | nil => exact Justified.nil
  | append_singleton trace e ih =>
    have hearlier := ih h.earlier
    by_cases hthread : e.thread = some i
    · rcases ManagerEvent.eq_of_thread hthread with ⟨e, rfl⟩ | rfl
      · rw [workerEvents_worker]
        exact hearlier.append h.last.2.2
      · rw [workerEvents_exited]
        exact hearlier
    · rw [workerEvents_of_ne hthread]
      exact hearlier

/-- A worker that has exited does nothing any more. -/
lemma finished_of_exited (h : Justified (Permitted m) trace) (hexited : .exited i ∈ trace) :
    Finished m (workerEvents i trace) := by
  induction trace using List.reverseRecOn with
  | nil => cases hexited
  | append_singleton trace e ih =>
    rw [List.mem_append, List.mem_singleton] at hexited
    rcases hexited with hearlier | rfl
    · have hthread : e.thread ≠ some i := by
        intro hthread
        rcases ManagerEvent.eq_of_thread hthread with ⟨e, rfl⟩ | rfl
        · exact h.last.2.1 hearlier
        · exact h.last.2.1 hearlier
      rw [workerEvents_of_ne hthread]
      exact ih h.earlier hearlier
    · rw [workerEvents_exited]
      exact h.last.2.2

/-- `stop` returns last. -/
lemma exited_of_stopped (h : Justified (Permitted m) trace) (hstopped : .stopped ∈ trace) :
    (∀ i, .spawned i ∈ trace → .exited i ∈ trace) ∧ ∀ e, ¬Permitted m trace e := by
  induction trace using List.reverseRecOn with
  | nil => cases hstopped
  | append_singleton trace e ih =>
    rw [List.mem_append, List.mem_singleton] at hstopped
    rcases hstopped with hearlier | rfl
    · exact absurd h.last ((ih h.earlier hearlier).2 e)
    · have hall : ∀ i, .spawned i ∈ trace ++ [.stopped] → .exited i ∈ trace ++ [.stopped] := by
        intro i hspawned
        simp only [List.mem_append, List.mem_singleton, reduceCtorEq, or_false] at hspawned ⊢
        exact h.last.2 i hspawned
      have hnow : .stopped ∈ trace ++ [.stopped] := List.mem_append_right _ List.mem_cons_self
      refine ⟨hall, fun e he => ?_⟩
      cases e with
      | worker i e => exact he.2.1 (hall i he.1)
      | exited i => exact he.2.1 (hall i he.1)
      | spawned i => exact he hnow
      | managerStop i => exact he hnow
      | stopped => exact he.1 hnow

lemma lastCall_of_none {e : ManagerEvent n} (he : deviceCall i e = none) :
    lastCall i (trace ++ [e]) = lastCall i trace := by
  unfold lastCall
  rw [List.filterMap_append, List.filterMap_cons_none he, List.filterMap_nil, List.append_nil]

lemma lastCall_of_some {e : ManagerEvent n} {o : InterfaceOp} (he : deviceCall i e = some o) :
    lastCall i (trace ++ [e]) = some o := by
  unfold lastCall
  rw [List.filterMap_append, List.filterMap_cons_some he, List.filterMap_nil, List.getLast?_concat]

/-- Nobody but its worker starts or reads a device. -/
lemma deviceCall_of_ne {e : ManagerEvent n} (hne : e.thread ≠ some i) :
    deviceCall i e = none ∨ deviceCall i e = some .stop := by
  cases e with
  | worker j e =>
    have hji : j ≠ i := fun h => hne (congrArg some h)
    obtain ⟨o, a⟩ := e
    match o with
    | .loadRunning => exact .inl rfl
    | .call .start => exact .inl (if_neg hji)
    | .call (.read _) => exact .inl (if_neg hji)
    | .call .stop => exact .inl (if_neg hji)
    | .call .getDeviceStatus => exact .inl rfl
    | .handleData _ _ => exact .inl rfl
    | .handleError _ _ _ _ => exact .inl rfl
    | .sleepFor _ => exact .inl rfl
  | exited j => exact .inl rfl
  | spawned j => exact .inl rfl
  | managerStop j =>
    by_cases hji : j = i
    · exact .inr (if_pos hji)
    · exact .inl (if_neg hji)
  | stopped => exact .inl rfl

lemma lastCall_of_finished (h : Finished m (workerEvents i trace)) : lastCall i trace = some .stop := by
  obtain ⟨before, hbefore⟩ := h.stop
  clear h
  induction trace using List.reverseRecOn generalizing before with
  | nil => simp [workerEvents] at hbefore
  | append_singleton trace e ih =>
    by_cases hthread : e.thread = some i
    · rcases ManagerEvent.eq_of_thread hthread with ⟨e, rfl⟩ | rfl
      · rw [workerEvents_worker] at hbefore
        obtain ⟨-, hlast⟩ := List.append_inj' hbefore rfl
        rw [(List.cons.inj hlast).1]
        exact lastCall_of_some (if_pos rfl)
      · rw [workerEvents_exited] at hbefore
        rw [lastCall_of_none rfl]
        exact ih before hbefore
    · rw [workerEvents_of_ne hthread] at hbefore
      rcases deviceCall_of_ne hthread with hnone | hstop
      · rw [lastCall_of_none hnone]
        exact ih before hbefore
      · exact lastCall_of_some hstop

end

/-! ### Rely and guarantee -/

section

variable {m : DeviceManager} {t : Option (Fin n)} {w w' : ManagerWorld n} {i : Fin n} {h : RunHistory}

/-- A thread adds at most one permitted event, and only the manager's own thread changes `running_` and
`workers_`. -/
structure ManagerGuar (m : DeviceManager) (t : Option (Fin n)) (w w' : ManagerWorld n) : Prop where
  trace : w'.trace = w.trace ∨ ∃ e, e.thread = t ∧ Permitted m w.trace e ∧ w'.trace = w.trace ++ [e]
  workers : t = none ∨ w'.workers = w.workers

/-- What the other threads do. -/
def managerRely (m : DeviceManager) (t : Option (Fin n)) (w w' : ManagerWorld n) : Prop :=
  ∃ t', t' ≠ t ∧ ManagerGuar m t' w w'

lemma managerGuar_note (e : ManagerEvent n) (he : Permitted m w.trace e) : ManagerGuar m e.thread w (w.note e) :=
  ⟨.inr ⟨e, rfl, he, rfl⟩, .inr rfl⟩

lemma ManagerGuar.justified (hguar : ManagerGuar m t w w') (hw : Justified (Permitted m) w.trace) :
    Justified (Permitted m) w'.trace := by
  rcases hguar.trace with hsame | ⟨e, -, he, htrace⟩
  · rw [hsame]
    exact hw
  · rw [htrace]
    exact hw.append he

/-- Worker `i` at work, after these steps. -/
structure Working (i : Fin n) (h : RunHistory) (w : ManagerWorld n) : Prop where
  spawned : .spawned i ∈ w.trace
  exited : .exited i ∉ w.trace
  events : workerEvents i w.trace = h

/-- The others leave the steps of a worker alone. -/
lemma workerEvents_interfere (hrely : managerRely m (some i) w w') :
    workerEvents i w'.trace = workerEvents i w.trace ∧ (.exited i ∈ w'.trace → .exited i ∈ w.trace) ∧
      (.spawned i ∈ w.trace → .spawned i ∈ w'.trace) := by
  obtain ⟨t', hne, hguar⟩ := hrely
  rcases hguar.trace with hsame | ⟨e, hthread, -, htrace⟩
  · rw [hsame]
    exact ⟨rfl, id, id⟩
  · rw [← hthread] at hne
    rw [htrace, workerEvents_of_ne hne, List.mem_append, List.mem_singleton]
    refine ⟨rfl, ?_, List.mem_append_left _⟩
    rintro (hearlier | rfl)
    · exact hearlier
    · exact absurd rfl hne

lemma stable_working : Stable (managerRely m (some i)) (Working i h) := by
  intro w w' hrely hw
  obtain ⟨hevents, hexited, hspawned⟩ := workerEvents_interfere hrely
  exact ⟨hspawned hw.spawned, fun h => hw.exited (hexited h), hevents.trans hw.events⟩

/-- The worker and the list of the created threads, as the manager knows them: `workers` are those that it
still has to wait for. -/
structure Covered (workers : List (Fin n)) (w : ManagerWorld n) : Prop where
  stopped : .stopped ∉ w.trace
  spawned : ∀ i, .spawned i ∈ w.trace → i ∈ workers ∨ .exited i ∈ w.trace

def Managing (w : ManagerWorld n) : Prop :=
  Covered w.workers w

lemma Covered.interfere {workers : List (Fin n)} (hrely : managerRely m none w w') (hw : Covered workers w) :
    Covered workers w' := by
  obtain ⟨t', hne, hguar⟩ := hrely
  rcases hguar.trace with hsame | ⟨e, hthread, -, htrace⟩
  · constructor
    · rw [hsame]
      exact hw.stopped
    · rw [hsame]
      exact hw.spawned
  · rw [← hthread] at hne
    constructor
    · rw [htrace, List.mem_append, List.mem_singleton]
      rintro (hstopped | rfl)
      · exact hw.stopped hstopped
      · exact hne rfl
    · intro i hspawned
      rw [htrace, List.mem_append, List.mem_singleton] at hspawned
      rw [htrace]
      rcases hspawned with hspawned | rfl
      · rcases hw.spawned i hspawned with hin | hexited
        · exact .inl hin
        · exact .inr (List.mem_append_left _ hexited)
      · exact absurd rfl hne

lemma stable_covered {workers : List (Fin n)} : Stable (managerRely m none) (Covered workers) :=
  fun _ _ hrely hw => hw.interfere hrely

lemma stable_managing : Stable (managerRely m none) (Managing (n := n)) := by
  intro w w' hrely hw
  have hworkers : w'.workers = w.workers := by
    obtain ⟨t', hne, hguar⟩ := hrely
    exact hguar.workers.resolve_left hne
  unfold Managing
  rw [hworkers]
  exact Covered.interfere hrely hw

/-! ### The threads one by one -/

abbrev threadSecure {α : Type} (m : DeviceManager) (t : Option (Fin n)) (p : DeviceManager.ManagerCall n α)
    (Q : α → ManagerWorld n → Prop) (w : ManagerWorld n) : Prop :=
  secure (threadEnv t) (managerRely m t) (ManagerGuar m t) p Q w

lemma threadSecure_step {α : Type} {P : ManagerWorld n → Prop} (o : ManagerOp n)
    {k : o.Ans → DeviceManager.ManagerCall n α} {Q : α → ManagerWorld n → Prop}
    (hstable : Stable (managerRely m t) P) (hw : P w)
    (hstep : ∀ w' a w'', P w' → threadEnv t w' o a w'' → ManagerGuar m t w' w'' ∧ threadSecure m t (k a) Q w'') :
    threadSecure m t (DeviceManager.perform o >>= k) Q w :=
  secure_call hstable hw hstep

lemma workerEnv_worker {o : RunOp} {a : o.Ans} (hstep : workerEnv i w (.worker o) a w') :
    w' = w.note (.worker i ⟨o, a⟩) := by
  cases o with
  | loadRunning => exact hstep.2
  | call o => exact hstep
  | handleData data protocol => exact hstep
  | handleError protocol code error stats => exact hstep
  | sleepFor seconds => exact hstep

lemma Working.note (hw : Working i h w) (e : Event runSignature) : Working i (h ++ [e]) (w.note (.worker i e)) where
  spawned := List.mem_append_left _ hw.spawned
  exited := by
    have hexited := hw.exited
    simpa [ManagerWorld.note] using hexited
  events := by
    change workerEvents i (w.trace ++ [_]) = _
    rw [workerEvents_worker, hw.events]

/-- A worker that keeps to the protocol when it is alone keeps to it among the others: they add nothing to
its own steps. -/
lemma secure_onWorker {α : Type} {p : DeviceManager.RunCall α} {Q : α → RunHistory → Prop}
    (hp : always runEnv (Lawful m) p Q h) (hw : Working i h w) :
    threadSecure m (some i) (DeviceManager.onWorker p) (fun r w' => ∃ h', Working i h' w' ∧ Q r h') w := by
  induction p generalizing h w with
  | ret r =>
    intro w' hrely
    exact ⟨h, stable_working.reflTransGen hrely hw, hp.2⟩
  | call o k ih =>
    apply secure_call stable_working hw
    intro w' a w'' hw' hstep
    obtain rfl := workerEnv_worker hstep
    have hnext := hp.2 a _ ⟨trivial, rfl⟩
    have hallowed := (always_here _ hnext).last
    rw [← hw'.events] at hallowed
    have hguar := managerGuar_note (.worker i ⟨o, a⟩) ⟨hw'.spawned, hw'.exited, hallowed⟩
    exact ⟨hguar, ih a hnext (hw'.note _)⟩

/-- What holds of a thread between its programs. -/
def threadRest (m : DeviceManager) : Option (Fin n) → Stage → ManagerWorld n → Prop
  | some i, .looping started, w => .exited i ∉ w.trace ∧ Lawful m (workerEvents i w.trace) ∧
      Rested m started (duty (workerEvents i w.trace))
  | none, .constructed, w => Managing w
  | none, .running, w => Managing w
  | _, _, _ => True

lemma Working.rest {started : Bool} (hw : Working i h w) (hlawful : Lawful m h) (hd : Rested m started (duty h)) :
    threadRest m (some i) (.looping started) w := by
  refine ⟨hw.exited, ?_, ?_⟩
  · rw [hw.events]
    exact hlawful
  · rw [hw.events]
    exact hd

lemma stable_rest (t : Option (Fin n)) (s : Stage) : Stable (managerRely m t) (threadRest m t s) := by
  intro w w' hrely hw
  match t, s with
  | some i, .looping started =>
    obtain ⟨hexited, hlawful, hd⟩ := hw
    obtain ⟨hevents, hearlier, -⟩ := workerEvents_interfere hrely
    rw [← hevents] at hlawful hd
    exact ⟨fun h => hexited (hearlier h), hlawful, hd⟩
  | none, .constructed => exact stable_managing _ _ hrely hw
  | none, .running => exact stable_managing _ _ hrely hw
  | some i, .exited => trivial
  | some i, .constructed => trivial
  | some i, .running => trivial
  | some i, .stopped => trivial
  | none, .looping _ => trivial
  | none, .exited => trivial
  | none, .stopped => trivial

lemma secure_worker {started : Bool} (hw : Working i h w) (hlawful : Lawful m h) (hd : Rested m started (duty h)) :
    threadSecure m (some i) (m.worker started) (threadRest m (some i)) w := by
  have hload := lawfully_perform (o := .loadRunning) (Q := fun _ => Rested m started) hlawful
    (fun _ => hd.balanced) (fun _ => hd)
  apply secure_bind
  apply secure_mono (secure_onWorker hload hw)
  rintro running w₁ ⟨h₁, hw₁, hlawful₁, hd₁⟩
  cases running with
  | true =>
    apply secure_bind
    apply secure_mono (secure_onWorker (lawfully_pass hlawful₁ hd₁) hw₁)
    rintro started w₂ ⟨h₂, hw₂, hlawful₂, hd₂⟩
    exact secure_ret (stable_rest _ _) (hw₂.rest hlawful₂ hd₂)
  | false =>
    have hfinished : Finished m (h₁ ++ [⟨.call .stop, ()⟩]) := by
      refine ⟨⟨h₁, rfl⟩, ?_⟩
      rw [duty_append]
      exact ⟨hd₁.balanced.data, hd₁.balanced.errors⟩
    have hstop : always runEnv (Lawful m) (DeviceManager.call .stop) (fun _ => Finished m) h₁ := by
      refine ⟨hlawful₁, ?_⟩
      rintro _ _ ⟨-, rfl⟩
      exact ⟨hlawful₁.append trivial, hfinished⟩
    apply secure_bind
    apply secure_mono (secure_onWorker hstop hw₁)
    rintro _ w₂ ⟨h₂, hw₂, hfinished₂⟩
    apply threadSecure_step .exit stable_working hw₂
    rintro w' _ w'' hw' rfl
    rw [← hw'.events] at hfinished₂
    have hguar := managerGuar_note (.exited i) ⟨hw'.spawned, hw'.exited, hfinished₂⟩
    exact ⟨hguar, secure_ret (stable_rest _ _) trivial⟩

/-- A step of the manager that happens in its own fields only. -/
lemma managerGuar_quiet (htrace : w'.trace = w.trace) : ManagerGuar m none w w' :=
  ⟨.inl htrace, .inl rfl⟩

lemma Covered.managerStop {workers : List (Fin n)} (hw : Covered workers w) (i : Fin n) :
    Covered workers (w.note (.managerStop i)) where
  stopped := by simpa [ManagerWorld.note] using hw.stopped
  spawned := by simpa [ManagerWorld.note] using hw.spawned

lemma Managing.spawn (hw : Managing w) (i : Fin n) :
    Managing ({ w with workers := w.workers ++ [i] }.note (.spawned i)) where
  stopped := by
    have hstopped := hw.stopped
    simpa [ManagerWorld.note] using hstopped
  spawned := by
    intro j hspawned
    change _ ∈ w.trace ++ [.spawned i] at hspawned
    change j ∈ w.workers ++ [i] ∨ .exited j ∈ w.trace ++ [.spawned i]
    simp only [List.mem_append, List.mem_singleton, ManagerEvent.spawned.injEq, reduceCtorEq, or_false] at hspawned ⊢
    rcases hspawned with hspawned | rfl
    · rcases hw.spawned j hspawned with hin | hexited
      · exact .inl (.inl hin)
      · exact .inr hexited
    · exact .inl (.inr rfl)

lemma Covered.join {workers : List (Fin n)} (hw : Covered (i :: workers) w) (hexited : .exited i ∈ w.trace) :
    Covered workers w where
  stopped := hw.stopped
  spawned := by
    intro j hspawned
    rcases hw.spawned j hspawned with hin | hexited'
    · rcases List.mem_cons.mp hin with rfl | hin
      · exact .inr hexited
      · exact .inl hin
    · exact .inr hexited'

lemma secure_spawnWorkers (devices : List (Fin n)) (hw : Managing w) :
    threadSecure m none (DeviceManager.spawnWorkers devices) (fun _ => Managing) w := by
  induction devices generalizing w with
  | nil => exact secure_ret stable_managing hw
  | cons i devices ih =>
    apply threadSecure_step (.spawn i) stable_managing hw
    intro w' (created : Bool) w'' hw' hstep
    cases created with
    | false =>
      obtain rfl : w'' = w' := hstep
      exact ⟨managerGuar_quiet rfl, secure_ret stable_managing hw'⟩
    | true =>
      obtain rfl : w'' = ManagerWorld.note { w' with workers := w'.workers ++ [i] } (.spawned i) := hstep
      exact ⟨⟨.inr ⟨.spawned i, rfl, hw'.stopped, rfl⟩, .inl rfl⟩, ih (hw'.spawn i)⟩

lemma secure_start (hw : Managing w) : threadSecure m none DeviceManager.start (threadRest m none) w := by
  apply threadSecure_step (.exchangeRunning true) stable_managing hw
  rintro w' wasRunning _ hw' ⟨-, rfl⟩
  refine ⟨managerGuar_quiet rfl, ?_⟩
  have hw'' : Managing { w' with running := true } := ⟨hw'.stopped, hw'.spawned⟩
  split
  · exact secure_ret (stable_rest _ _) hw''
  · apply secure_bind
    apply secure_mono (secure_spawnWorkers _ hw'')
    exact fun _ _ hw₁ => secure_ret (stable_rest _ _) hw₁

/-- A loop of `stop`, with what holds of the devices that are left. -/
lemma secure_forEach {o : Fin n → ManagerOp n} {P : List (Fin n) → ManagerWorld n → Prop}
    (hstable : ∀ l, Stable (managerRely m none) (P l))
    (hstep : ∀ i rest w a w', P (i :: rest) w → managerEnv w (o i) a w' → ManagerGuar m none w w' ∧ P rest w')
    (l : List (Fin n)) (hw : P l w) :
    threadSecure m none (DeviceManager.forEach o l) (fun _ => P []) w := by
  induction l generalizing w with
  | nil => exact secure_ret (hstable []) hw
  | cons i rest ih =>
    apply threadSecure_step (o i) (hstable _) hw
    intro w' a w'' hw' hr
    obtain ⟨hguar, hrest⟩ := hstep i rest w' a w'' hw' hr
    exact ⟨hguar, ih hrest⟩

/-- `stop` returns when there is no worker left. -/
lemma secure_stopped (hw : Covered [] w) :
    threadSecure m none (do DeviceManager.perform .stopped; return .stopped) (threadRest m none) w := by
  apply threadSecure_step .stopped stable_covered hw
  rintro w' _ _ hw' rfl
  have hall : ∀ i, .spawned i ∈ w'.trace → .exited i ∈ w'.trace := by
    intro i hspawned
    exact (hw'.spawned i hspawned).resolve_left List.not_mem_nil
  exact ⟨managerGuar_note .stopped ⟨hw'.stopped, hall⟩, secure_ret (stable_rest _ _) trivial⟩

lemma secure_stopWorkers (hw : Managing w) :
    threadSecure m none DeviceManager.stopWorkers (threadRest m none) w := by
  apply secure_bind
  apply secure_mono (secure_forEach (P := fun _ => Managing) (fun _ => stable_managing) _ _ hw)
  · intro _ w₁ hw₁
    apply threadSecure_step .workers stable_managing hw₁
    rintro w' workers _ hw' ⟨rfl, rfl⟩
    refine ⟨managerGuar_quiet rfl, ?_⟩
    apply secure_bind
    apply secure_mono (secure_forEach (P := Covered) (fun _ => stable_covered) _ _ hw')
    · intro _ w₂ hw₂
      apply threadSecure_step .clearWorkers stable_covered hw₂
      rintro w' _ _ hw' rfl
      exact ⟨managerGuar_quiet rfl, secure_stopped ⟨hw'.stopped, hw'.spawned⟩⟩
    · rintro i rest w _ _ hw ⟨hexited, rfl⟩
      exact ⟨managerGuar_quiet rfl, hw.join hexited⟩
  · rintro i rest w _ _ hw rfl
    exact ⟨managerGuar_note (.managerStop i) hw.stopped, Covered.managerStop hw i⟩

lemma secure_stop (hw : Managing w) : threadSecure m none DeviceManager.stop (threadRest m none) w := by
  apply threadSecure_step (.exchangeRunning false) stable_managing hw
  rintro w₁ wasRunning _ hw₁ ⟨-, rfl⟩
  refine ⟨managerGuar_quiet rfl, ?_⟩
  have hw₂ : Managing { w₁ with running := false } := ⟨hw₁.stopped, hw₁.spawned⟩
  apply threadSecure_step .workers stable_managing hw₂
  rintro w₃ workers w₄ hw₃ ⟨rfl, hsame⟩
  rw [hsame]
  refine ⟨managerGuar_quiet rfl, ?_⟩
  split
  · rename_i hnone
    have hempty : w₃.workers = [] := by
      rw [Bool.and_eq_true] at hnone
      exact List.isEmpty_iff.mp hnone.2
    unfold Managing at hw₃
    rw [hempty] at hw₃
    exact secure_stopped hw₃
  · exact secure_stopWorkers hw₃

end

lemma managerThreads_secured (m : DeviceManager) :
    Threads.Secured (threadEnv (n := n)) (Begins m) (fun _ _ => False) (managerRely m) (ManagerGuar m)
      (threadRest m) := by
  constructor
  · exact fun hne _ _ hguar => ⟨_, hne, hguar⟩
  · exact fun _ _ _ hother => hother.elim
  · exact stable_rest
  · intro t s w p hbegins hrest
    cases hbegins with
    | worker hspawned => exact secure_worker ⟨hspawned, hrest.1, rfl⟩ hrest.2.1 hrest.2.2
    | start => exact secure_start hrest
    | stop hstage =>
      rcases hstage with rfl | rfl
      · exact secure_stop hrest
      · exact secure_stop hrest

lemma managerStart_knows (m : DeviceManager) (t : Option (Fin n)) :
    Threads.Knows (managerRely m t) (ManagerGuar m t) (threadEnv t) (threadRest m t) (managerStart n).world
      ((managerStart n).thread t) := by
  cases t with
  | none => exact ⟨List.not_mem_nil, nofun⟩
  | some i => exact ⟨List.not_mem_nil, Justified.nil, rfl, rfl, fun _ => rfl, fun _ => ⟨rfl, rfl⟩⟩

lemma trace_justified {m : DeviceManager} {T : ManagerThreads n}
    (hrun : Relation.ReflTransGen (ManagerStep m) (managerStart n) T) : Justified (Permitted m) T.world.trace :=
  (managerThreads_secured m).invariant (I := fun w => Justified (Permitted m) w.trace)
    (fun hguar => hguar.justified) (fun hother => hother.elim) (managerStart_knows m) Justified.nil hrun

/-- After the return of `stop` nothing happens any more. -/
lemma trace_final {m : DeviceManager} {T T' : ManagerThreads n}
    (hrun : Relation.ReflTransGen (ManagerStep m) (managerStart n) T) (hstopped : .stopped ∈ T.world.trace)
    (hlater : Relation.ReflTransGen (ManagerStep m) T T') : T'.world.trace = T.world.trace := by
  induction hlater with
  | refl => rfl
  | @tail T₁ T₂ hbetween hstep ih =>
    have hrun₁ := hrun.trans hbetween
    have hnothing := (exited_of_stopped (trace_justified hrun₁) (ih ▸ hstopped)).2
    rcases (managerThreads_secured m).change (managerStart_knows m) hrun₁ hstep with hsame | ⟨t, hguar⟩ | hother
    · rw [hsame]
      exact ih
    · rcases hguar.trace with hsame | ⟨e, -, he, -⟩
      · rw [hsame]
        exact ih
      · exact absurd he (hnothing e)
    · exact hother.elim

end

/-- In every interleaving of `start`, the workers and `stop`, each worker keeps to the protocol. Once `stop`
has returned, the last call on the device of every worker is `stop`, everything was handed over, and nothing
happens any more. -/
theorem worker_protocol {n : Nat} (m : DeviceManager) {T : ManagerThreads n}
    (hrun : Relation.ReflTransGen (ManagerStep m) (managerStart n) T) :
    (∀ i, Lawful m (workerEvents i T.world.trace)) ∧
      (.stopped ∈ T.world.trace →
        (∀ i, .spawned i ∈ T.world.trace →
          lastCall i T.world.trace = some .stop ∧ (duty (workerEvents i T.world.trace)).Balanced m) ∧
        ∀ T', Relation.ReflTransGen (ManagerStep m) T T' → T'.world.trace = T.world.trace) := by
  have hjustified := trace_justified hrun
  refine ⟨lawful_workerEvents hjustified, fun hstopped => ⟨fun i hspawned => ?_, fun T' hlater => ?_⟩⟩
  · have hexited := (exited_of_stopped hjustified hstopped).1 i hspawned
    have hfinished := finished_of_exited hjustified hexited
    exact ⟨lastCall_of_finished hfinished, hfinished.balanced⟩
  · exact trace_final hrun hstopped hlater

/-! ### One worker, step by step -/

section

variable {m : DeviceManager} {w w' : ManagerWorld 1} {T : ManagerThreads 1} {s : Stage}

/-- The thread of the manager and the thread of its only worker. -/
def twoThreads (manager worker : Thread (managerSignature 1) Stage) :
    Option (Fin 1) → Thread (managerSignature 1) Stage
  | none => manager
  | some _ => worker

lemma update_manager (a b c : Thread (managerSignature 1) Stage) :
    Function.update (twoThreads a b) none c = twoThreads c b := by
  funext t
  cases t with
  | none => rfl
  | some i => rfl

lemma update_worker (a b c : Thread (managerSignature 1) Stage) :
    Function.update (twoThreads a b) (some 0) c = twoThreads a c := by
  funext t
  cases t with
  | none => rfl
  | some i =>
    obtain rfl : i = 0 := Subsingleton.elim i 0
    rfl

lemma run_manager (o : ManagerOp 1) {k : o.Ans → DeviceManager.ManagerCall 1 Stage}
    {t : Thread (managerSignature 1) Stage} (a : o.Ans) (hstep : managerEnv w o a w')
    (hrest : Relation.ReflTransGen (ManagerStep m) ⟨twoThreads (.inside (k a)) t, w'⟩ T) :
    Relation.ReflTransGen (ManagerStep m)
      ⟨twoThreads (.inside (.call (E := managerSignature 1) o k)) t, w⟩ T := by
  refine .head (.perform none rfl hstep) ?_
  rw [update_manager]
  exact hrest

lemma run_worker (o : ManagerOp 1) {k : o.Ans → DeviceManager.ManagerCall 1 Stage}
    {t : Thread (managerSignature 1) Stage} (a : o.Ans) (hstep : workerEnv 0 w o a w')
    (hrest : Relation.ReflTransGen (ManagerStep m) ⟨twoThreads t (.inside (k a)), w'⟩ T) :
    Relation.ReflTransGen (ManagerStep m)
      ⟨twoThreads t (.inside (.call (E := managerSignature 1) o k)), w⟩ T := by
  refine .head (.perform (some 0) rfl hstep) ?_
  rw [update_worker]
  exact hrest

lemma enter_manager {p : DeviceManager.ManagerCall 1 Stage} {t : Thread (managerSignature 1) Stage}
    (hbegins : Begins m none s w p)
    (hrest : Relation.ReflTransGen (ManagerStep m) ⟨twoThreads (.inside p) t, w⟩ T) :
    Relation.ReflTransGen (ManagerStep m) ⟨twoThreads (.between s) t, w⟩ T := by
  refine .head (.enter none rfl hbegins) ?_
  rw [update_manager]
  exact hrest

lemma enter_worker {started : Bool} {t : Thread (managerSignature 1) Stage} (hspawned : .spawned 0 ∈ w.trace)
    (hrest : Relation.ReflTransGen (ManagerStep m) ⟨twoThreads t (.inside (m.worker started)), w⟩ T) :
    Relation.ReflTransGen (ManagerStep m) ⟨twoThreads t (.between (.looping started)), w⟩ T := by
  refine .head (.enter (some 0) rfl (.worker hspawned)) ?_
  rw [update_worker]
  exact hrest

lemma leave_manager {t : Thread (managerSignature 1) Stage}
    (hrest : Relation.ReflTransGen (ManagerStep m) ⟨twoThreads (.between s) t, w⟩ T) :
    Relation.ReflTransGen (ManagerStep m) ⟨twoThreads (.inside (.ret s)) t, w⟩ T := by
  refine .head (.leave none rfl) ?_
  rw [update_manager]
  exact hrest

lemma leave_worker {t : Thread (managerSignature 1) Stage}
    (hrest : Relation.ReflTransGen (ManagerStep m) ⟨twoThreads t (.between s), w⟩ T) :
    Relation.ReflTransGen (ManagerStep m) ⟨twoThreads t (.inside (.ret s)), w⟩ T := by
  refine .head (.leave (some 0) rfl) ?_
  rw [update_worker]
  exact hrest

end

/-- The worker has found `running_` set and starts its device after the manager has stopped it. -/
theorem worker_protocol_reopened :
    ∃ T : ManagerThreads 1,
      Relation.ReflTransGen (ManagerStep ⟨5, some fun _ _ => .ret (), none⟩) (managerStart 1) T ∧
      T.world.trace.filterMap (deviceCall 0) = [.stop, .start, .read 250, .stop] ∧
      (duty (workerEvents 0 T.world.trace)).dataDue = [{}] ∧
      .stopped ∈ T.world.trace ∧ lastCall 0 T.world.trace = some .stop ∧
      (duty (workerEvents 0 T.world.trace)).Balanced ⟨5, some fun _ _ => .ret (), none⟩ := by
  have hrun : ∃ T : ManagerThreads 1,
      Relation.ReflTransGen (ManagerStep ⟨5, some fun _ _ => .ret (), none⟩) (managerStart 1) T ∧
      T.world.trace.filterMap (deviceCall 0) = [.stop, .start, .read 250, .stop] ∧
      (duty (workerEvents 0 T.world.trace)).dataDue = [{}] ∧
      .stopped ∈ T.world.trace ∧ .spawned 0 ∈ T.world.trace := by
    have hstart : (managerStart 1).thread = twoThreads (.between .constructed) (.between (.looping false)) := by
      funext t
      cases t with
      | none => rfl
      | some i => rfl
    have hpair : managerStart 1 = ⟨twoThreads (.between .constructed) (.between (.looping false)), {}⟩ := by
      rw [← hstart]
      rfl
    rw [hpair]
    apply Exists.intro
    apply And.intro
    · apply enter_manager .start
      apply run_manager (.exchangeRunning true) false
      · exact ⟨rfl, rfl⟩
      apply run_manager (.spawn 0) true
      · exact rfl
      apply leave_manager
      apply enter_worker
      · exact .head _
      apply run_worker (.worker .loadRunning) true
      · exact ⟨rfl, rfl⟩
      apply enter_manager (.stop (.inr rfl))
      apply run_manager (.exchangeRunning false) true
      · exact ⟨rfl, rfl⟩
      apply run_manager .workers [0]
      · exact ⟨rfl, rfl⟩
      apply run_manager (.stopDevice 0) ()
      · exact rfl
      apply run_worker (.worker (.call .start)) none
      · exact rfl
      apply run_worker (.worker (.call (.read 250))) ({ code := .data, data := some {} } : DeviceReadResult)
      · exact rfl
      apply run_worker (.worker (.call .getDeviceStatus)) ({} : DeviceStatus)
      · exact rfl
      apply run_worker (.worker (.handleData _ _)) ()
      · exact rfl
      apply leave_worker
      apply enter_worker
      · exact .head _
      apply run_worker (.worker .loadRunning) false
      · exact ⟨rfl, rfl⟩
      apply run_worker (.worker (.call .stop)) ()
      · exact rfl
      apply run_worker .exit ()
      · exact rfl
      apply run_manager .workers [0]
      · exact ⟨rfl, rfl⟩
      apply run_manager (.join 0) ()
      · refine ⟨?_, rfl⟩
        simp [ManagerWorld.note]
      apply run_manager .clearWorkers ()
      · exact rfl
      apply run_manager .stopped ()
      · exact rfl
      exact .refl
    · refine ⟨rfl, rfl, ?_, .head _⟩
      simp [ManagerWorld.note]
  obtain ⟨T, hrun, hcalls, hdata, hstopped, hspawned⟩ := hrun
  have hend := ((worker_protocol _ hrun).2 hstopped).1 0 hspawned
  exact ⟨T, hrun, hcalls, hdata, hstopped, hend.1, hend.2⟩

end EdgeGateway
