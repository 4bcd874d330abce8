import EdgeGateway.Model.HttpServer
import EdgeGateway.Proofs.StatusStores

/-!
# What the gateway shows while it runs

The main thread stores the status and the thread of the HTTP server loads it, call by call and in any order. What
`/ready` and `/health` answer is right about the inputs of the gateway at any moment, and apart from two answers at
most also consistent.
-/

namespace EdgeGateway
open CallTree

/-! ### The thread of the server -/

/-- The values that an answer to `/ready` is made of. -/
def RuntimeStatus.readyValues (statusFirst : Bool) : StatusCall (Bool × RuntimeStatus.Readiness) := do
  if statusFirst then
    let ready ← RuntimeStatus.ready
    let readiness ← RuntimeStatus.loadReadiness
    return (ready, readiness)
  else
    let readiness ← RuntimeStatus.loadReadiness
    let ready ← RuntimeStatus.ready
    return (ready, readiness)

section

variable {α β γ δ : Type} (p : StatusCall α) (q : StatusCall β) (print : β → γ) (f : α → γ → δ)

/-- Printing at once, or after all loads. -/
lemma status_print_second :
    (HttpCall.status p >>= fun a => HttpCall.status (q >>= fun b => pure (print b)) >>= fun c => pure (f a c)) =
      HttpCall.status (p >>= fun a => q >>= fun b => pure (a, b)) >>= fun v => pure (f v.1 (print v.2)) := by
  unfold HttpCall.status
  simp only [Prog.embed_bind, Prog.bind_assoc]
  rfl

lemma status_print_first :
    (HttpCall.status (q >>= fun b => pure (print b)) >>= fun c => HttpCall.status p >>= fun a => pure (f a c)) =
      HttpCall.status (q >>= fun b => p >>= fun a => pure (a, b)) >>= fun v => pure (f v.1 (print v.2)) := by
  unfold HttpCall.status
  simp only [Prog.embed_bind, Prog.bind_assoc]
  rfl

end

/-- The answer to `/ready` is made of `readyValues` alone, printed once they are loaded. -/
lemma HttpServer.readyResponse_eq (s : HttpServer) :
    s.readyResponse = HttpCall.status (RuntimeStatus.readyValues s.statusFirst) >>= fun values =>
      pure (buildResponse (if values.1 then 200 else 503) jsonType (s.runtimeStatus.printReadiness values.2)) := by
  let response (ready : Bool) (body : Text) : Text := buildResponse (if ready then 200 else 503) jsonType body
  unfold HttpServer.readyResponse RuntimeStatus.readyValues RuntimeStatus.readinessJson
  cases s.statusFirst with
  | true =>
    simp only [if_true]
    exact status_print_second RuntimeStatus.ready RuntimeStatus.loadReadiness s.runtimeStatus.printReadiness response
  | false =>
    simp only [Bool.false_eq_true, if_false]
    exact status_print_first RuntimeStatus.ready RuntimeStatus.loadReadiness s.runtimeStatus.printReadiness response

/-- What the server has answered. -/
inductive StatusAnswer where
  | ready (code : Bool) (readiness : RuntimeStatus.Readiness)
  | health (health : RuntimeStatus.Health)
deriving DecidableEq

namespace StatusAnswer

/-- What an answer says about the inputs is right, or it was given before they were known. -/
def Right (workers inputs : Nat) : StatusAnswer → Prop
  | .ready _ r =>
    (r.serialWorkers = 0 ∨ r.serialWorkers = workers) ∧ (r.inputDevices = 0 ∨ r.inputDevices = inputs) ∧
      (r.workersStarted = true ∨ r.isReady = true → r.serialWorkers = workers ∧ r.inputDevices = inputs)
  | .health h =>
    (h.serialWorkers = 0 ∨ h.serialWorkers = workers) ∧ (h.inputDevices = 0 ∨ h.inputDevices = inputs) ∧
      (h.devices = [] ∨ h.devices.length = inputs ∧ h.inputDevices = inputs)

/-- The status code, `ready` and the checks do not go together. -/
def contradicts : StatusAnswer → Bool
  | .ready code r => code != r.isReady || r.isReady != (r.configLoaded && r.cacheReady && r.workersStarted)
  | .health _ => false

/-- Whether the status code is 200. -/
def code? : StatusAnswer → Option Bool
  | .ready code _ => some code
  | .health _ => none

end StatusAnswer

/-- Answers that were given until the flag of the serial workers had been stored `t` times. -/
structure Consistent (workers inputs t : Nat) (answers : List StatusAnswer) : Prop where
  right : ∀ answer ∈ answers, answer.Right workers inputs
  contradictions : answers.countP StatusAnswer.contradicts ≤ t
  codes : ∃ before up after, answers.filterMap StatusAnswer.code? =
    List.replicate before false ++ List.replicate up true ++ List.replicate after false ∧
      (t < 1 → up = 0) ∧ (t < 2 → after = 0)

lemma consistent_nil (workers inputs t : Nat) : Consistent workers inputs t [] :=
  ⟨fun _ h => (List.not_mem_nil h).elim, Nat.zero_le t, 0, 0, 0, rfl, fun _ => rfl, fun _ => rfl⟩

section

variable {workers inputs t t' : Nat} {answers : List StatusAnswer}

lemma Consistent.health (h : Consistent workers inputs t answers) (ht : t ≤ t') {values : RuntimeStatus.Health}
    (hright : (StatusAnswer.health values).Right workers inputs) :
    Consistent workers inputs t' (answers ++ [.health values]) := by
  refine ⟨?_, ?_, ?_⟩
  · intro answer hanswer
    rcases List.mem_append.mp hanswer with hbefore | hlast
    · exact h.right answer hbefore
    · rw [List.mem_singleton.mp hlast]
      exact hright
  · rw [List.countP_append]
    exact h.contradictions.trans ht
  · obtain ⟨before, up, after, hcodes, hup, hafter⟩ := h.codes
    refine ⟨before, up, after, ?_, fun hlt => hup (by omega), fun hlt => hafter (by omega)⟩
    rw [List.filterMap_append, hcodes]
    exact List.append_nil _

/-- The code was loaded at `tcode`, and an answer that contradicts itself was given while the flag changed. -/
lemma Consistent.ready (h : Consistent workers inputs t answers) {tcode : Nat} (hcode : t ≤ tcode) (hle : tcode ≤ t')
    (hbound : tcode ≤ 2) {r : RuntimeStatus.Readiness}
    (hright : (StatusAnswer.ready (decide (tcode = 1)) r).Right workers inputs)
    (hcontradicts : t = t' → (StatusAnswer.ready (decide (tcode = 1)) r).contradicts = false) :
    Consistent workers inputs t' (answers ++ [.ready (decide (tcode = 1)) r]) := by
  refine ⟨?_, ?_, ?_⟩
  · intro answer hanswer
    rcases List.mem_append.mp hanswer with hbefore | hlast
    · exact h.right answer hbefore
    · rw [List.mem_singleton.mp hlast]
      exact hright
  · rw [List.countP_append, List.countP_singleton]
    have hbefore := h.contradictions
    by_cases ht : t = t'
    · rw [hcontradicts ht]
      exact hbefore.trans ht.le
    · split_ifs <;> omega
  · obtain ⟨before, up, after, hcodes, hup, hafter⟩ := h.codes
    rw [List.filterMap_append, hcodes]
    obtain rfl | rfl | rfl : tcode = 0 ∨ tcode = 1 ∨ tcode = 2 := by omega
    · obtain rfl : up = 0 := hup (by omega)
      obtain rfl : after = 0 := hafter (by omega)
      refine ⟨before + 1, 0, 0, ?_, fun _ => rfl, fun _ => rfl⟩
      rw [List.replicate_succ']
      simp [StatusAnswer.code?]
    · obtain rfl : after = 0 := hafter (by omega)
      refine ⟨before, up + 1, 0, ?_, fun _ => by omega, fun _ => rfl⟩
      rw [List.replicate_succ']
      simp [StatusAnswer.code?]
    · refine ⟨before, up, after + 1, ?_, fun _ => by omega, fun _ => by omega⟩
      rw [List.replicate_succ']
      simp [StatusAnswer.code?]

end

/-! ### Loads while the main thread stores -/

section

variable {workers inputs : Nat}

lemma Board.apply_mono (w : Board) (e : Event mainSignature) :
    w.changes ≤ (w.apply e).changes ∧ (w.serving = true → (w.apply e).serving = true) := by
  unfold Board.apply
  split
  · exact ⟨Nat.le_succ _, id⟩
  · exact ⟨le_rfl, id⟩
  · exact ⟨le_rfl, id⟩
  · exact ⟨le_rfl, id⟩
  · exact ⟨le_rfl, fun _ => rfl⟩
  · exact ⟨le_rfl, id⟩
  · exact ⟨le_rfl, id⟩

/-- What the thread of the server relies on. -/
abbrev Board.rely (workers inputs : Nat) (w w' : Board) : Prop :=
  ∃ e, w.next workers inputs e = some w'

/-- The server has been started, and the flag of the serial workers has been stored `t` times at least. -/
structure Board.Reached (workers inputs t : Nat) (w : Board) : Prop where
  sound : w.Sound workers inputs
  serving : w.serving = true
  changes : t ≤ w.changes

lemma Board.stable_reached (t : Nat) : Stable (Board.rely workers inputs) (Board.Reached workers inputs t) := by
  intro w w' hrely hw
  obtain ⟨e, hnext⟩ := hrely
  have hsound := hw.sound.next hnext
  obtain ⟨_, rfl⟩ := Board.next_eq_some_iff.mp hnext
  obtain ⟨hchanges, hserving⟩ := w.apply_mono e
  exact ⟨hsound, hserving hw.serving, hw.changes.trans hchanges⟩

/-- Loads of the thread of the server. -/
abbrev Loads {α : Type} (workers inputs : Nat) (p : StatusCall α) (Q : α → Board → Prop) (w : Board) : Prop :=
  secure Board.env (Board.rely workers inputs) (fun w w' => w' = w) (MainCall.status p) Q w

variable {α : Type} {t : Nat} {Q : α → Board → Prop} {w : Board}

/-- A load, in a world of which something is known that the main thread keeps. -/
lemma loads_call_of_stable {P : Board → Prop} (hstable : Stable (Board.rely workers inputs) P) {o : StatusOp}
    {f : o.Ans → StatusCall α} (hkeeps : ∀ w x, Board.apply w ⟨.status o, x⟩ = w) (hw : P w)
    (hrest : ∀ w' x, P w' → w'.possible (.status o) x → Loads workers inputs (f x) Q w') :
    Loads workers inputs (StatusCall.perform o >>= f) Q w := by
  apply secure_call hstable hw
  intro w' x w'' hw' hr
  obtain ⟨hpossible, rfl⟩ := hr
  rw [hkeeps]
  exact ⟨rfl, hrest w' x hw' hpossible⟩

lemma loads_call {o : StatusOp} {f : o.Ans → StatusCall α} (hkeeps : ∀ w x, Board.apply w ⟨.status o, x⟩ = w)
    (hw : w.Reached workers inputs t)
    (hrest : ∀ w' x, w'.Reached workers inputs t → w'.possible (.status o) x → Loads workers inputs (f x) Q w') :
    Loads workers inputs (StatusCall.perform o >>= f) Q w :=
  loads_call_of_stable (Board.stable_reached t) hkeeps hw hrest

lemma loads_bind {β : Type} {p : StatusCall β} {f : β → StatusCall α}
    (h : Loads workers inputs p (fun r w' => Loads workers inputs (f r) Q w') w) :
    Loads workers inputs (p >>= f) Q w := by
  unfold Loads MainCall.status
  rw [Prog.embed_bind]
  exact secure_bind h

/-- The main thread does not undo what was reached when the last value was loaded. -/
lemma loads_pure {P : α → Nat → Prop} {a : α} (ha : P a t) (hw : w.Reached workers inputs t) :
    Loads workers inputs (pure a) (fun a w' => ∃ t, P a t ∧ w'.Reached workers inputs t) w :=
  fun _ hrely => ⟨t, ha, (Board.stable_reached t).reflTransGen hrely hw⟩

/-- `ready` is what the flag of the serial workers is when it is loaded. -/
lemma loads_ready (hw : w.Reached workers inputs t) :
    Loads workers inputs RuntimeStatus.ready
      (fun ready w' => ∃ t', (t ≤ t' ∧ t' ≤ 2 ∧ ready = decide (t' = 1)) ∧ w'.Reached workers inputs t') w := by
  apply loads_call (o := .loadFlag .configLoaded) (fun _ _ => rfl) hw
  intro w₁ config hw₁ (hconfig : config = w₁.flags .configLoaded)
  rw [(hw₁.sound.serving hw₁.serving).1] at hconfig
  rw [hconfig]
  apply loads_call (o := .loadFlag .cacheReady) (fun _ _ => rfl) hw₁
  intro w₂ cache hw₂ (hcache : cache = w₂.flags .cacheReady)
  rw [(hw₂.sound.serving hw₂.serving).2] at hcache
  rw [hcache]
  apply loads_call (o := .loadFlag .serialWorkersStarted) (f := pure) (fun _ _ => rfl) hw₂
  intro w₃ started hw₃ (hstarted : started = w₃.flags .serialWorkersStarted)
  rw [hw₃.sound.started] at hstarted
  have hnow : w₃.Reached workers inputs w₃.changes := ⟨hw₃.sound, hw₃.serving, le_rfl⟩
  exact loads_pure ⟨hw₃.changes, hw₃.sound.changes_le, hstarted⟩ hnow

/-- What `readiness_json` loads, from `t` to `t'` stores of the flag. -/
structure RuntimeStatus.Readiness.Told (workers inputs t t' : Nat) (r : RuntimeStatus.Readiness) : Prop where
  forward : t ≤ t'
  right : ∀ code, (StatusAnswer.ready code r).Right workers inputs
  ready : r.isReady = decide (t' = 1)
  checks : t = t' → (r.configLoaded && r.cacheReady && r.workersStarted) = decide (t = 1)

lemma loads_loadReadiness (hw : w.Reached workers inputs t) :
    Loads workers inputs RuntimeStatus.loadReadiness
      (fun r w' => ∃ t', r.Told workers inputs t t' ∧ w'.Reached workers inputs t') w := by
  apply loads_call (o := .loadFlag .configLoaded) (fun _ _ => rfl) hw
  intro w₁ config hw₁ (hconfig : config = w₁.flags .configLoaded)
  rw [(hw₁.sound.serving hw₁.serving).1] at hconfig
  apply loads_call (o := .loadFlag .cacheReady) (fun _ _ => rfl) hw₁
  intro w₂ cache hw₂ (hcache : cache = w₂.flags .cacheReady)
  rw [(hw₂.sound.serving hw₂.serving).2] at hcache
  apply loads_call (o := .loadFlag .serialWorkersStarted) (fun _ _ => rfl) hw₂
  intro w₃ started hw₃ (hstarted : started = w₃.flags .serialWorkersStarted)
  rw [hw₃.sound.started] at hstarted
  have hnow : w₃.Reached workers inputs w₃.changes := ⟨hw₃.sound, hw₃.serving, le_rfl⟩
  apply loads_bind (p := RuntimeStatus.ready)
  apply secure_mono (loads_ready hnow)
  intro ready w₄ hready
  obtain ⟨t', ⟨ht', _, hready⟩, hw₄⟩ := hready
  apply loads_call (o := .loadCount .serialWorkers) (fun _ _ => rfl) hw₄
  intro w₅ serial hw₅ (hserial : serial = w₅.counts .serialWorkers)
  apply loads_call (o := .loadCount .inputDevices) (fun _ _ => rfl) hw₅
  intro w₆ input hw₆ (hinput : input = w₆.counts .inputDevices)
  refine loads_pure ⟨hw₃.changes.trans ht', ?_, hready, ?_⟩ hw₆
  · intro code
    refine ⟨hserial ▸ hw₅.sound.serial, hinput ▸ hw₆.sound.input, ?_⟩
    intro hup
    have hchanged : 1 ≤ t' := by
      rcases hup with h | h
      · have := of_decide_eq_true (hstarted.symm.trans h)
        omega
      · have := of_decide_eq_true (hready.symm.trans h)
        omega
    exact ⟨hserial.trans (hw₅.sound.shown (hchanged.trans hw₅.changes)).1,
      hinput.trans (hw₆.sound.shown (hchanged.trans hw₆.changes)).2⟩
  · intro ht
    have hsame : w₃.changes = t := by
      have := hw₃.changes
      omega
    change (config && cache && started) = _
    rw [hconfig, hcache, hstarted, hsame]
    rfl

/-- An answer to `/ready`. -/
lemma loads_readyValues (statusFirst : Bool) {answers : List StatusAnswer} (hw : w.Reached workers inputs t)
    (hanswers : Consistent workers inputs t answers) :
    Loads workers inputs (RuntimeStatus.readyValues statusFirst)
      (fun values w' => ∃ t', Consistent workers inputs t' (answers ++ [.ready values.1 values.2]) ∧
        w'.Reached workers inputs t') w := by
  cases statusFirst with
  | true =>
    apply loads_bind (p := RuntimeStatus.ready)
    apply secure_mono (loads_ready hw)
    intro code w₁ hcode
    obtain ⟨tcode, ⟨htcode, hbound, rfl⟩, hw₁⟩ := hcode
    apply loads_bind (p := RuntimeStatus.loadReadiness)
    apply secure_mono (loads_loadReadiness hw₁)
    intro r w₂ hr
    obtain ⟨t', hr, hw₂⟩ := hr
    refine loads_pure (hanswers.ready htcode hr.forward hbound (hr.right _) ?_) hw₂
    intro ht
    have hsame : tcode = t' := by
      have := hr.forward
      omega
    simp [StatusAnswer.contradicts, hr.ready, hr.checks hsame, hsame]
  | false =>
    apply loads_bind (p := RuntimeStatus.loadReadiness)
    apply secure_mono (loads_loadReadiness hw)
    intro r w₁ hr
    obtain ⟨t₁, hr, hw₁⟩ := hr
    apply loads_bind (p := RuntimeStatus.ready)
    apply secure_mono (loads_ready hw₁)
    intro code w₂ hcode
    obtain ⟨tcode, ⟨htcode, hbound, rfl⟩, hw₂⟩ := hcode
    refine loads_pure (hanswers.ready (hr.forward.trans htcode) le_rfl hbound (hr.right _) ?_) hw₂
    intro ht
    have hfirst : t = t₁ := by
      have := hr.forward
      omega
    have hsecond : t₁ = tcode := by omega
    simp [StatusAnswer.contradicts, hr.ready, hr.checks hfirst, hfirst, hsecond]

lemma Board.stable_input : Stable (Board.rely workers inputs) (fun w => w.counts .inputDevices = inputs) := by
  intro w w' hrely hw
  obtain ⟨e, hnext⟩ := hrely
  obtain ⟨hallows, rfl⟩ := Board.next_eq_some_iff.mp hnext
  unfold Board.apply
  split
  case h_3 count value _ =>
    cases count with
    | inputDevices => exact of_decide_eq_true hallows
    | serialWorkers => exact hw
    | devicesOnline => exact hw
    | devicesOffline => exact hw
  all_goals exact hw

/-- The devices are copied before their number is loaded, and they are stored after it. -/
lemma loads_loadHealth (startedAtSeconds : UInt64) {answers : List StatusAnswer} (hw : w.Reached workers inputs t)
    (hanswers : Consistent workers inputs t answers) :
    Loads workers inputs (RuntimeStatus.loadHealth startedAtSeconds)
      (fun values w' => ∃ t', Consistent workers inputs t' (answers ++ [.health values]) ∧
        w'.Reached workers inputs t') w := by
  apply loads_call (o := .copyDeviceStatuses) (fun _ _ => rfl) hw
  intro w₁ devices hw₁ (hdevices : devices = w₁.devices)
  have hshown := hw₁.sound.devices
  rw [← hdevices] at hshown
  have hstable : Stable (Board.rely workers inputs) (fun w =>
      w.Reached workers inputs t ∧ (devices = [] ∨ devices.length = inputs ∧ w.counts .inputDevices = inputs)) := by
    intro w w' hrely hw
    refine ⟨Board.stable_reached t w w' hrely hw.1, ?_⟩
    exact hw.2.imp_right (fun h => ⟨h.1, Board.stable_input w w' hrely h.2⟩)
  apply loads_call_of_stable hstable (o := .monotonicSeconds) (fun _ _ => rfl) ⟨hw₁, hshown⟩
  intro w₂ seconds hw₂ _
  apply loads_call_of_stable hstable (o := .loadCount .serialWorkers) (fun _ _ => rfl) hw₂
  intro w₃ serial hw₃ (hserial : serial = w₃.counts .serialWorkers)
  apply loads_call_of_stable hstable (o := .loadCount .inputDevices) (fun _ _ => rfl) hw₃
  intro w₄ input hw₄ (hinput : input = w₄.counts .inputDevices)
  apply loads_call (o := .loadCount .devicesOnline) (fun _ _ => rfl) hw₄.1
  intro w₅ online hw₅ _
  apply loads_call (o := .loadCount .devicesOffline) (fun _ _ => rfl) hw₅
  intro w₆ offline hw₆ _
  have hright : (StatusAnswer.health ⟨devices, seconds - startedAtSeconds, serial, input, online, offline⟩).Right
      workers inputs := by
    refine ⟨hserial ▸ hw₃.1.sound.serial, hinput ▸ hw₄.1.sound.input, ?_⟩
    exact hw₄.2.imp_right (fun h => ⟨h.1, hinput.trans h.2⟩)
  exact loads_pure (hanswers.health le_rfl hright) hw₆

end

/-! ### Both threads -/

inductive GatewayThread where
  | main
  | http
deriving DecidableEq

/-- The requests that the server answers once it has been started, one after the other. -/
inductive Requests (server : HttpServer) :
    GatewayThread → List StatusAnswer → Board → MainCall (List StatusAnswer) → Prop where
  | ready {answers : List StatusAnswer} {w : Board} : w.serving = true → Requests server .http answers w
      (MainCall.status (RuntimeStatus.readyValues server.statusFirst) >>= fun values =>
        pure (answers ++ [.ready values.1 values.2]))
  | health {answers : List StatusAnswer} {w : Board} : w.serving = true → Requests server .http answers w
      (MainCall.status (RuntimeStatus.loadHealth server.startedAtSeconds) >>= fun values =>
        pure (answers ++ [.health values]))

/-- The main thread after the configuration has been loaded, and the server. -/
abbrev gatewayThreads (version : Text) (argv : List Text) (c : Config.GatewayConfig) (inner passes : Nat) :
    Threads GatewayThread mainSignature (List StatusAnswer) Board where
  thread
    | .main => .inside (Gateway.runConfigured version argv c inner passes >>= fun _ => pure [])
    | .http => .between []
  world := {}

/-- A state of both threads in a run. -/
abbrev GatewayRun (server : HttpServer) (version : Text) (argv : List Text) (c : Config.GatewayConfig)
    (inner passes : Nat) (T : Threads GatewayThread mainSignature (List StatusAnswer) Board) : Prop :=
  Relation.ReflTransGen (Threads.Step (fun _ => Board.env) (Requests server) (fun _ _ => False))
    (gatewayThreads version argv c inner passes) T

/-- What is known of the answers between two requests. -/
def AnswersKnown (workers inputs : Nat) (answers : List StatusAnswer) (w : Board) : Prop :=
  w.Sound workers inputs ∧ ∃ t, Consistent workers inputs t answers ∧ t ≤ w.changes

section

variable {workers inputs : Nat}

lemma stable_answersKnown (answers : List StatusAnswer) :
    Stable (Board.rely workers inputs) (AnswersKnown workers inputs answers) := by
  intro w w' hrely hw
  obtain ⟨e, hnext⟩ := hrely
  obtain ⟨hsound, t, hconsistent, ht⟩ := hw
  refine ⟨hsound.next hnext, t, hconsistent, ht.trans ?_⟩
  obtain ⟨_, rfl⟩ := Board.next_eq_some_iff.mp hnext
  exact (w.apply_mono e).1

lemma secure_request {α : Type} {p : StatusCall α} {answers : List StatusAnswer} {w : Board}
    {answer : α → StatusAnswer} (hserving : w.serving = true) (hw : AnswersKnown workers inputs answers w)
    (hp : ∀ t, w.Reached workers inputs t → Consistent workers inputs t answers →
      Loads workers inputs p (fun values w' => ∃ t', Consistent workers inputs t' (answers ++ [answer values]) ∧
        w'.Reached workers inputs t') w) :
    secure Board.env (Board.rely workers inputs) (fun w w' => w' = w)
      (MainCall.status p >>= fun values => pure (answers ++ [answer values])) (AnswersKnown workers inputs) w := by
  obtain ⟨hsound, t, hconsistent, ht⟩ := hw
  apply secure_bind
  apply secure_mono (hp t ⟨hsound, hserving, ht⟩ hconsistent)
  intro values w' hafter
  obtain ⟨t', hanswers, hreached⟩ := hafter
  exact secure_ret (stable_answersKnown _) ⟨hreached.sound, t', hanswers, hreached.changes⟩

namespace GatewayThread

/-- The server changes nothing. -/
def rely (workers inputs : Nat) : GatewayThread → Board → Board → Prop
  | .main => fun w w' => w' = w
  | .http => Board.rely workers inputs

def guar (workers inputs : Nat) : GatewayThread → Board → Board → Prop
  | .main => Board.rely workers inputs
  | .http => fun w w' => w' = w

def rest (workers inputs : Nat) : GatewayThread → List StatusAnswer → Board → Prop
  | .main => fun _ _ => True
  | .http => AnswersKnown workers inputs

end GatewayThread

/-- Each thread keeps what the other relies on. -/
lemma threads_secured (server : HttpServer) :
    Threads.Secured (fun _ => Board.env) (Requests server) (fun _ _ => False) (GatewayThread.rely workers inputs)
      (GatewayThread.guar workers inputs) (GatewayThread.rest workers inputs) where
  relied := by
    intro i j hij w w' hguar
    cases i with
    | main =>
      cases j with
      | main => exact (hij rfl).elim
      | http => exact hguar
    | http =>
      cases j with
      | main => exact hguar
      | http => exact (hij rfl).elim
  outside := fun _ _ _ h => h.elim
  stable := by
    intro i answers
    cases i with
    | main => exact fun _ _ _ _ => trivial
    | http => exact stable_answersKnown answers
  programs := by
    intro i answers w p hbegin hw
    cases hbegin with
    | ready hserving =>
      exact secure_request hserving hw (fun _ hreached hconsistent => loads_readyValues _ hreached hconsistent)
    | health hserving =>
      exact secure_request hserving hw (fun _ hreached hconsistent => loads_loadHealth _ hreached hconsistent)

lemma Board.env_follows (w : Board) (o : MainOp) (x : o.Ans) (w' : Board) (hr : Board.env w o x w') :
    w.possible o x ∧ ∀ w'', w.next workers inputs ⟨o, x⟩ = some w'' → w' = w'' :=
  ⟨hr.1, fun _ hnext => hr.2.trans (Board.next_eq_some_iff.mp hnext).2.symm⟩

end

abbrev serialCount (argv : List Text) (c : Config.GatewayConfig) : Nat :=
  (Gateway.serialDevices argv c).length

abbrev inputCount (argv : List Text) (c : Config.GatewayConfig) : Nat :=
  (Gateway.inputs c (Gateway.serialDevices argv c)).length

/-- Before the first call nothing has been stored or answered. -/
lemma threads_start (version : Text) (argv : List Text) (c : Config.GatewayConfig) (inner passes : Nat)
    (i : GatewayThread) :
    Threads.Knows (GatewayThread.rely (serialCount argv c) (inputCount argv c) i)
      (GatewayThread.guar (serialCount argv c) (inputCount argv c) i) Board.env
      (GatewayThread.rest (serialCount argv c) (inputCount argv c) i) {}
      ((gatewayThreads version argv c inner passes).thread i) := by
  cases i with
  | main =>
    apply secure_bind
    apply secure_mono (secure_of_obeys Board.env_follows (shows_runConfigured version argv inner passes))
    intro _ w _
    exact secure_ret (fun _ _ _ _ => trivial) trivial
  | http => exact ⟨Board.sound_start, 0, consistent_nil _ _ 0, le_rfl⟩

/-- Whatever the parts of the gateway answer, and however the two threads take turns: each answer is right about the
inputs, at most two contradict themselves, and the codes of `/ready` are 503, then 200, then 503 again. -/
theorem answers_consistent (server : HttpServer) (version : Text) (argv : List Text) (c : Config.GatewayConfig)
    (inner passes : Nat) {T : Threads GatewayThread mainSignature (List StatusAnswer) Board}
    (hrun : GatewayRun server version argv c inner passes T) {answers : List StatusAnswer}
    (hanswers : T.thread .http = .between answers) :
    (∀ answer ∈ answers, answer.Right (serialCount argv c) (inputCount argv c)) ∧
    answers.countP StatusAnswer.contradicts ≤ 2 ∧
    ∃ before up after, answers.filterMap StatusAnswer.code? =
      List.replicate before false ++ List.replicate up true ++ List.replicate after false := by
  have hknown := (threads_secured server).knows (threads_start version argv c inner passes) hrun .http
  rw [hanswers] at hknown
  obtain ⟨hsound, t, hconsistent, ht⟩ := hknown
  obtain ⟨before, up, after, hcodes, _, _⟩ := hconsistent.codes
  exact ⟨hconsistent.right, hconsistent.contradictions.trans (ht.trans hsound.changes_le), before, up, after, hcodes⟩

/-- A configuration with the server, a serial device and a CAN device. -/
def serverConfig : Config.GatewayConfig where
  serial := { devices := [ascii "/dev/ttyUSB0"] }
  can := { enabled := true }
  http := { enabled := true }

def someServer : HttpServer :=
  ⟨⟨ascii "1.0", ascii "sqlite", true, true⟩, 0, true⟩

/-- Every part starts, every device is online, and the shutdown is requested when the main loop begins. -/
def boardAnswer (w : Board) : (o : MainOp) → Option o.Ans
  | .status (.loadFlag flag) => some (w.flags flag)
  | .status (.storeFlag _ _) => some ()
  | .status (.loadCount count) => some (w.counts count)
  | .status (.storeCount _ _) => some ()
  | .status .copyDeviceStatuses => some w.devices
  | .status (.replaceDeviceStatuses _) => some ()
  | .status (.storeGauge _ _) => some ()
  | .status .monotonicSeconds => some 12
  | .deviceStatuses => some (DeviceManager.statuses 5 0 1700000012
      ((List.range w.registered).map (fun k =>
        { protocol := if k = 0 then .uart else .socketCan, online := true, lastUpdateUnixSeconds := 1700000010 })))
  | .sigaction _ => some none
  | .openSqlite _ => some none
  | .startHttp _ _ => some none
  | .steadyNow => some (0 : Int)
  | .loadShutdown => some true
  | .log _ _ _ => some ()
  | .clearShutdown => some ()
  | .sleepFor _ => some ()
  | .createMqttClient _ => some ()
  | .stopHttp => some ()
  | .flushCache => some ()
  | .startDevices _ => some ()
  | .stopDevices => some ()
  | .disconnectTcp => some ()
  | .destroy _ => some ()
  | _ => none

lemma possible_of_boardAnswer {w : Board} {o : MainOp} {x : o.Ans} (h : boardAnswer w o = some x) :
    w.possible o x := by
  cases o with
  | status o =>
    cases o with
    | loadFlag | loadCount | copyDeviceStatuses =>
      cases h
      exact rfl
    | storeFlag | storeCount | replaceDeviceStatuses | loadCounter | loadGauge | storeGauge | monotonicSeconds =>
      trivial
  | deviceStatuses =>
    cases h
    exact Board.possible_statuses ((List.length_map _).trans List.length_range) 5 0 1700000012
  | log | printOut | printError | loadFile | clearShutdown | sigaction | loadShutdown | steadyNow | sleepFor |
    createMqttClient | openSqlite | openFile | startHttp | stopHttp | flushCache | startDevices | stopDevices |
    disconnectTcp | destroy | spin => trivial

/-- Five requests to `/ready`, with one to `/health` among them. -/
def nextRequest (i : GatewayThread) (answers : List StatusAnswer) (w : Board) : Option (MainCall (List StatusAnswer)) :=
  if i = .http ∧ w.serving = true then
    if answers.length = 2 then
      some (MainCall.status (RuntimeStatus.loadHealth someServer.startedAtSeconds) >>= fun values =>
        pure (answers ++ [.health values]))
    else
      some (MainCall.status (RuntimeStatus.readyValues someServer.statusFirst) >>= fun values =>
        pure (answers ++ [.ready values.1 values.2]))
  else
    none

def shownRun (schedule : List GatewayThread) : Option (Threads GatewayThread mainSignature (List StatusAnswer) Board) :=
  Threads.follow (fun _ w o => (boardAnswer w o).map (fun x => (x, w.apply ⟨o, x⟩))) nextRequest schedule
    (gatewayThreads [] [] serverConfig 10 10)

/-- The second and the last but one of the answers to `/ready` are loaded around a store of the flag. -/
def shownSchedule : List GatewayThread :=
  List.replicate 12 .main ++ List.replicate 13 .http ++
  List.replicate 16 .main ++ List.replicate 4 .http ++ [.main] ++ List.replicate 30 .http ++
  List.replicate 4 .main ++ List.replicate 4 .http ++ [.main] ++ List.replicate 22 .http

/-- The answers before, while and after the workers are started and stopped. -/
def shownAnswers : List StatusAnswer :=
  [ .ready false ⟨true, true, false, false, 0, 0⟩,
    .ready false ⟨true, true, true, true, 1, 2⟩,
    .health ⟨[⟨0, ascii "UART", true, 1700000010, 0⟩, ⟨0, ascii "SOCKETCAN", true, 1700000010, 0⟩], 12, 1, 2, 2, 0⟩,
    .ready true ⟨true, true, true, true, 1, 2⟩,
    .ready true ⟨true, true, false, false, 1, 2⟩,
    .ready false ⟨true, true, false, false, 1, 2⟩ ]

/-- Two of the answers contradict themselves. -/
theorem answers_consistent_stopped :
    (∃ T, GatewayRun someServer [] [] serverConfig 10 10 T ∧ T.thread .http = .between shownAnswers) ∧
    shownAnswers.countP StatusAnswer.contradicts = 2 ∧
    (∀ answer ∈ shownAnswers, answer.Right 1 2) ∧ shownAnswers.countP StatusAnswer.contradicts ≤ 2 ∧
    ∃ before up after, shownAnswers.filterMap StatusAnswer.code? =
      List.replicate before false ++ List.replicate up true ++ List.replicate after false := by
  have hresult : (shownRun shownSchedule).bind (fun T => (T.thread .http).rest?) = some shownAnswers := by
    decide +kernel
  obtain ⟨T, hfollow, hrest⟩ := Option.bind_eq_some_iff.mp hresult
  have hbetween := Thread.eq_between hrest
  have hrun : GatewayRun someServer [] [] serverConfig 10 10 T := by
    apply Threads.run_of_follow _ _ hfollow
    · intro i w o x w' hanswer
      obtain ⟨x, hx, heq⟩ := Option.map_eq_some_iff.mp hanswer
      cases heq
      exact ⟨possible_of_boardAnswer hx, rfl⟩
    · intro i answers w p hp
      unfold nextRequest at hp
      split_ifs at hp with hserving
      · cases hp
        obtain ⟨rfl, hserving⟩ := hserving
        exact .health hserving
      · cases hp
        obtain ⟨rfl, hserving⟩ := hserving
        exact .ready hserving
  exact ⟨⟨T, hrun, hbetween⟩, by decide +kernel, answers_consistent someServer [] [] serverConfig 10 10 hrun hbetween⟩

end EdgeGateway
