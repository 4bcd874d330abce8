import EdgeGateway.Lib.Protocol
import EdgeGateway.Model.GatewayMain

/-!
# What the main thread stores

The status between two calls, what the main thread may store in it, and what holds of it whenever another thread
looks. Every run of the gateway stores only what is right about its inputs.
-/

namespace EdgeGateway
open CallTree

/-! ### The status between two calls -/

/-- `registered` are the inputs of the device manager, `changes` the stores to the flag of the serial workers. -/
structure Board where
  flags : StatusFlag → Bool := fun _ => false
  counts : StatusCount → Nat := fun _ => 0
  devices : List DeviceHealthStatus := []
  registered : Nat := 0
  serving : Bool := false
  changes : Nat := 0

namespace Board

/-- What a call changes. -/
def apply (w : Board) : Event mainSignature → Board
  | ⟨.status (.storeFlag .serialWorkersStarted value), _⟩ =>
    { w with flags := Function.update w.flags .serialWorkersStarted value, changes := w.changes + 1 }
  | ⟨.status (.storeFlag flag value), _⟩ => { w with flags := Function.update w.flags flag value }
  | ⟨.status (.storeCount count value), _⟩ => { w with counts := Function.update w.counts count value }
  | ⟨.status (.replaceDeviceStatuses statuses), _⟩ => { w with devices := statuses }
  | ⟨.startHttp _ _, none⟩ => { w with serving := true }
  | ⟨.startDevices inputs, _⟩ => { w with registered := inputs.length }
  | _ => w

/-- The loads answer with what is stored, and the device manager with one status for each input. -/
def possible (w : Board) (o : MainOp) : o.Ans → Prop :=
  match o with
  | .status (.loadFlag flag) => fun (value : Bool) => value = w.flags flag
  | .status (.loadCount count) => fun (value : Nat) => value = w.counts count
  | .status .copyDeviceStatuses => fun (statuses : List DeviceHealthStatus) => statuses = w.devices
  | .deviceStatuses => fun (statuses : List DeviceStatus) => statuses.length = w.registered
  | _ => fun _ => True

/-- What `statuses()` returns for the inputs of the device manager is possible. -/
lemma possible_statuses {w : Board} {devices : List DeviceStatus} (hdevices : devices.length = w.registered)
    (heartbeatTimeout : Int) (startedAt now : Nat) :
    w.possible .deviceStatuses (DeviceManager.statuses heartbeatTimeout startedAt now devices) :=
  (List.length_map _).trans hdevices

/-- Any other part may answer anything. -/
def env : Env mainSignature Board := fun w o x w' =>
  w.possible o x ∧ w' = w.apply ⟨o, x⟩

/-- What the main thread may store, with `workers` serial workers among `inputs` inputs. -/
def allows (workers inputs : Nat) (w : Board) : Event mainSignature → Bool
  | ⟨.status (.storeFlag .serialWorkersStarted value), _⟩ =>
    w.changes = (if value then 0 else 1) && w.counts .serialWorkers = workers && w.counts .inputDevices = inputs
  | ⟨.status (.storeFlag _ value), _⟩ => value
  | ⟨.status (.storeCount .serialWorkers value), _⟩ => value = workers
  | ⟨.status (.storeCount .inputDevices value), _⟩ => value = inputs
  | ⟨.status (.replaceDeviceStatuses statuses), _⟩ => statuses.length = inputs && w.counts .inputDevices = inputs
  | ⟨.startHttp _ _, none⟩ => w.flags .configLoaded && w.flags .cacheReady
  | _ => true

def next (workers inputs : Nat) (w : Board) (e : Event mainSignature) : Option Board :=
  if w.allows workers inputs e then some (w.apply e) else none

end Board

/-- What holds between any two calls. -/
structure Board.Sound (workers inputs : Nat) (w : Board) : Prop where
  changes_le : w.changes ≤ 2
  started : w.flags .serialWorkersStarted = decide (w.changes = 1)
  serving : w.serving = true → w.flags .configLoaded = true ∧ w.flags .cacheReady = true
  serial : w.counts .serialWorkers = 0 ∨ w.counts .serialWorkers = workers
  input : w.counts .inputDevices = 0 ∨ w.counts .inputDevices = inputs
  shown : 1 ≤ w.changes → w.counts .serialWorkers = workers ∧ w.counts .inputDevices = inputs
  devices : w.devices = [] ∨ w.devices.length = inputs ∧ w.counts .inputDevices = inputs

section

variable {workers inputs : Nat}

lemma Board.next_eq_some_iff {w w' : Board} {e : Event mainSignature} :
    w.next workers inputs e = some w' ↔ w.allows workers inputs e = true ∧ w' = w.apply e := by
  unfold Board.next
  split_ifs with hallows
  · rw [Option.some.injEq, eq_comm]
    exact ⟨fun h => ⟨hallows, h⟩, fun h => h.2⟩
  · exact ⟨fun h => h.elim, fun h => (hallows h.1).elim⟩

lemma Board.sound_start : ({} : Board).Sound workers inputs where
  changes_le := Nat.zero_le 2
  started := rfl
  serving := fun h => (Bool.false_ne_true h).elim
  serial := .inl rfl
  input := .inl rfl
  shown := fun h => (Nat.not_succ_le_zero 0 h).elim
  devices := .inl rfl

lemma Board.Sound.storeFlag {w : Board} (h : w.Sound workers inputs) {flag : StatusFlag} {value : Bool} {x : Unit}
    (hallows : w.allows workers inputs ⟨.status (.storeFlag flag value), x⟩ = true) :
    (w.apply ⟨.status (.storeFlag flag value), x⟩).Sound workers inputs := by
  have hset : ∀ other, other ≠ .serialWorkersStarted → value = true →
      ({ w with flags := Function.update w.flags other value } : Board).Sound workers inputs := by
    intro other hother hvalue
    refine { h with started := ?_, serving := ?_ }
    · rw [← h.started]
      exact Function.update_of_ne (Ne.symm hother) value w.flags
    · intro hserving
      obtain ⟨hconfig, hcache⟩ := h.serving hserving
      cases other with
      | configLoaded => exact ⟨hvalue, hcache⟩
      | cacheReady => exact ⟨hconfig, hvalue⟩
      | serialWorkersStarted => exact (hother rfl).elim
  cases flag with
  | configLoaded => exact hset .configLoaded (fun h => nomatch h) hallows
  | cacheReady => exact hset .cacheReady (fun h => nomatch h) hallows
  | serialWorkersStarted =>
    simp only [Board.allows, Bool.and_eq_true, decide_eq_true_eq] at hallows
    obtain ⟨⟨hchanges, hserial⟩, hinput⟩ := hallows
    refine { h with changes_le := ?_, started := ?_, shown := fun _ => ⟨hserial, hinput⟩ }
    · change w.changes + 1 ≤ 2
      split_ifs at hchanges <;> omega
    · change value = decide (w.changes + 1 = 1)
      rw [hchanges]
      cases value <;> rfl

lemma Board.Sound.storeCount {w : Board} (h : w.Sound workers inputs) {count : StatusCount} {value : Nat} {x : Unit}
    (hallows : w.allows workers inputs ⟨.status (.storeCount count value), x⟩ = true) :
    (w.apply ⟨.status (.storeCount count value), x⟩).Sound workers inputs := by
  cases count with
  | serialWorkers =>
    have hvalue : value = workers := of_decide_eq_true hallows
    exact { h with serial := .inr hvalue, shown := fun hchanges => ⟨hvalue, (h.shown hchanges).2⟩ }
  | inputDevices =>
    have hvalue : value = inputs := of_decide_eq_true hallows
    exact { h with
      input := .inr hvalue
      shown := fun hchanges => ⟨(h.shown hchanges).1, hvalue⟩
      devices := h.devices.imp_right (fun hdevices => ⟨hdevices.1, hvalue⟩) }
  | devicesOnline => exact { h with }
  | devicesOffline => exact { h with }

lemma Board.Sound.next {w w' : Board} {e : Event mainSignature} (h : w.Sound workers inputs)
    (hnext : w.next workers inputs e = some w') : w'.Sound workers inputs := by
  obtain ⟨hallows, rfl⟩ := Board.next_eq_some_iff.mp hnext
  obtain ⟨o, x⟩ := e
  cases o with
  | status o =>
    cases o with
    | storeFlag flag value => exact h.storeFlag hallows
    | storeCount count value => exact h.storeCount hallows
    | replaceDeviceStatuses statuses =>
      simp only [Board.allows, Bool.and_eq_true, decide_eq_true_eq] at hallows
      exact { h with devices := .inr hallows }
    | loadFlag | loadCount | copyDeviceStatuses | loadCounter | loadGauge | storeGauge | monotonicSeconds => exact h
  | startHttp host port =>
    cases x with
    | some error => exact h
    | none =>
      simp only [Board.allows, Bool.and_eq_true] at hallows
      exact { h with serving := fun _ => hallows }
  | startDevices => exact { h with }
  | log | printOut | printError | loadFile | clearShutdown | sigaction | loadShutdown | steadyNow | sleepFor |
    createMqttClient | openSqlite | openFile | stopHttp | flushCache | deviceStatuses | stopDevices | disconnectTcp |
    destroy | spin => exact h

/-! ### The main thread -/

/-- A part of the main thread that stores what is right. -/
abbrev Shows {α : Type} (workers inputs : Nat) (p : MainCall α) (Q : α → Board → Prop) (w : Board) : Prop :=
  obeys (Board.next workers inputs) Board.possible p Q w

lemma shows_call {α : Type} {o : MainOp} {k : o.Ans → MainCall α} {Q : α → Board → Prop} {w : Board}
    (hallows : ∀ x, w.allows workers inputs ⟨o, x⟩ = true)
    (hrest : ∀ x, Shows workers inputs (k x) Q (w.apply ⟨o, x⟩)) :
    Shows workers inputs (MainCall.perform o >>= k) Q w :=
  obeys_call (fun x => w.apply ⟨o, x⟩) (fun x _ => if_pos (hallows x)) (fun x _ => hrest x)

/-- The calls that change the status. -/
def Board.Touched : MainOp → Prop
  | .status _ => True
  | .startHttp _ _ => True
  | .startDevices _ => True
  | _ => False

lemma shows_of_quiet {α : Type} {p : MainCall α} (hp : p.Avoids Board.Touched) {Q : α → Board → Prop} {w : Board}
    (hQ : ∀ r, Q r w) : Shows workers inputs p Q w := by
  apply obeys_of_quiet hp _ hQ
  intro o x ho
  cases o with
  | status | startHttp | startDevices => exact absurd trivial ho
  | log | printOut | printError | loadFile | clearShutdown | sigaction | loadShutdown | steadyNow | sleepFor |
    createMqttClient | openSqlite | openFile | stopHttp | flushCache | deviceStatuses | stopDevices | disconnectTcp |
    destroy | spin => rfl

lemma shows_bind_of_quiet {α β : Type} {p : MainCall α} (hp : p.Avoids Board.Touched) {f : α → MainCall β}
    {Q : β → Board → Prop} {w : Board} (hrest : ∀ r, Shows workers inputs (f r) Q w) :
    Shows workers inputs (p >>= f) Q w :=
  obeys_bind (shows_of_quiet hp hrest)

lemma perform_untouched {o : MainOp} (ho : ¬Board.Touched o) : (MainCall.perform o).Avoids Board.Touched :=
  ⟨ho, fun _ => trivial⟩

lemma optional_untouched {b : Prop} [Decidable b] {p : MainCall Unit} (hp : p.Avoids Board.Touched) :
    (if b then p else pure ()).Avoids Board.Touched := by
  split_ifs
  · exact hp
  · trivial

lemma awaitDeadline_untouched (deadline : Int) (passes : Nat) :
    (Gateway.awaitDeadline deadline passes).Avoids Board.Touched := by
  induction passes with
  | zero => exact ⟨id, fun x => x.elim⟩
  | succ passes ih =>
    refine ⟨id, fun (shutdown : Bool) => ?_⟩
    cases shutdown with
    | true => trivial
    | false =>
      refine ⟨id, fun (now : Int) => ?_⟩
      change Prog.Avoids _ (ite _ _ _)
      split_ifs
      · trivial
      · exact ⟨id, fun _ => ih⟩

lemma waitForShutdown_untouched (timeout : Int) (passes : Nat) :
    (Gateway.waitForShutdown timeout passes).Avoids Board.Touched := by
  refine ⟨id, fun (now : Int) => ?_⟩
  apply Prog.avoids_bind (p := Gateway.awaitDeadline _ passes) (awaitDeadline_untouched _ passes)
  exact fun _ => ⟨id, fun _ => trivial⟩

lemma logOpened_untouched (count : Nat) : (Gateway.logOpened count).Avoids Board.Touched := by
  induction count with
  | zero => trivial
  | succ count ih => exact ⟨id, fun _ => ih⟩

lemma awaitSerial_untouched (devices attempts : Nat) : (Gateway.awaitSerial devices attempts).Avoids Board.Touched := by
  induction attempts with
  | zero => trivial
  | succ attempts ih =>
    refine ⟨id, fun statuses => ?_⟩
    change Prog.Avoids _ (ite _ _ _)
    split_ifs
    · exact Prog.avoids_bind (logOpened_untouched _) (fun _ => ⟨id, fun _ => trivial⟩)
    · exact ⟨id, fun _ => ih⟩

/-- What an update of the devices leaves behind. -/
structure Board.Updated (inputs changes serial : Nat) (w : Board) : Prop where
  registered : w.registered = inputs
  changes : w.changes = changes
  serial : w.counts .serialWorkers = serial
  input : w.counts .inputDevices = inputs

lemma Board.allows_replace {w : Board} {statuses : List DeviceHealthStatus} (hlength : statuses.length = inputs)
    (hinput : w.counts .inputDevices = inputs) {x : Unit} :
    w.allows workers inputs ⟨.status (.replaceDeviceStatuses statuses), x⟩ = true :=
  Bool.and_eq_true_iff.mpr ⟨decide_eq_true hlength, decide_eq_true hinput⟩

lemma Board.allows_started {w : Board} {value : Bool} (hchanges : w.changes = if value then 0 else 1)
    (hserial : w.counts .serialWorkers = workers) (hinput : w.counts .inputDevices = inputs) {x : Unit} :
    w.allows workers inputs ⟨.status (.storeFlag .serialWorkersStarted value), x⟩ = true := by
  simp only [Board.allows, Bool.and_eq_true, decide_eq_true_eq]
  exact ⟨⟨hchanges, hserial⟩, hinput⟩

lemma shows_updateDeviceObservability {w : Board} (hregistered : w.registered = inputs) :
    Shows workers inputs Gateway.updateDeviceObservability
      (fun _ w' => w'.Updated inputs w.changes (w.counts .serialWorkers)) w := by
  intro (statuses : List DeviceStatus) (hlength : statuses.length = w.registered)
  refine ⟨w, rfl, ?_⟩
  have hcount := List.countP_le_length (p := fun status : DeviceStatus => status.online) (l := statuses)
  have hinputs : statuses.countP (fun status => status.online) +
      (statuses.length - statuses.countP (fun status => status.online)) = inputs := by omega
  apply shows_call (o := .status (.storeGauge _ _)) (fun _ => rfl)
  intro _
  apply shows_call (o := .status (.storeGauge _ _)) (fun _ => rfl)
  intro _
  apply shows_call (o := .status (.storeCount .devicesOnline _)) (fun _ => rfl)
  intro _
  apply shows_call (o := .status (.storeCount .devicesOffline _)) (fun _ => rfl)
  intro _
  apply shows_call (o := .status (.storeCount .inputDevices _)) (fun _ => decide_eq_true hinputs)
  intro _
  apply shows_call (o := .status (.replaceDeviceStatuses _))
  · intro _
    exact Board.allows_replace ((List.length_map _).trans (hlength.trans hregistered)) hinputs
  · intro _
    exact ⟨hregistered, rfl, rfl, hinputs⟩

/-- The stores of the main loop. -/
lemma shows_retryLoop (timeout : Int) (inner passes : Nat) {w : Board} (hw : w.Updated inputs 1 workers) :
    Shows workers inputs (Gateway.retryLoop timeout inner passes) (fun _ w' => w'.Updated inputs 1 workers) w := by
  induction passes generalizing w with
  | zero => exact fun x => x.elim
  | succ passes ih =>
    apply obeys_bind
    apply shows_of_quiet (waitForShutdown_untouched timeout inner)
    intro shutdown
    cases shutdown with
    | true => exact hw
    | false =>
      apply shows_call (o := .flushCache) (fun _ => rfl)
      intro _
      apply obeys_bind
      apply obeys_mono (shows_updateDeviceObservability hw.registered)
      intro _ w' hw'
      rw [hw.changes, hw.serial] at hw'
      exact ih hw'

end

section

variable {c : Config.GatewayConfig} {devices : List Text}

/-- The main thread, with the serial devices and all inputs. -/
abbrev ShowsInputs {α : Type} (c : Config.GatewayConfig) (devices : List Text) (p : MainCall α)
    (Q : α → Board → Prop) (w : Board) : Prop :=
  Shows devices.length (Gateway.inputs c devices).length p Q w

lemma shows_startInputs {w : Board} (hw : w.changes = 0) :
    ShowsInputs c devices (Gateway.startInputs c devices)
      (fun _ w' => w'.Updated (Gateway.inputs c devices).length 1 devices.length) w := by
  apply shows_call (o := .startDevices _) (fun _ => rfl)
  intro _
  apply shows_bind_of_quiet (optional_untouched (awaitSerial_untouched devices.length 20))
  intro _
  apply shows_call (o := .log _ _ _) (fun _ => rfl)
  intro _
  apply shows_call (o := .log _ _ _) (fun _ => rfl)
  intro _
  apply obeys_bind
  apply obeys_mono (shows_updateDeviceObservability rfl)
  intro _ w' hw'
  apply shows_call (o := .status (.storeGauge _ _)) (fun _ => rfl)
  intro _
  apply shows_call (o := .status (.storeCount .serialWorkers _)) (fun _ => decide_eq_true rfl)
  intro _
  apply shows_call (o := .status (.storeFlag .serialWorkersStarted true))
  · intro _
    apply Board.allows_started
    · exact hw'.changes.trans hw
    · rfl
    · exact hw'.input
  · intro _
    exact ⟨hw'.registered, congrArg (· + 1) (hw'.changes.trans hw), rfl, hw'.input⟩

lemma shows_stopInputs {w : Board} (hw : w.Updated (Gateway.inputs c devices).length 1 devices.length) :
    ShowsInputs c devices (Gateway.stopInputs c devices) (fun _ _ => True) w := by
  apply shows_call (o := .status (.storeCount .serialWorkers _)) (fun _ => decide_eq_true rfl)
  intro _
  apply shows_call (o := .status (.storeFlag .serialWorkersStarted false))
  · intro _
    apply Board.allows_started
    · exact hw.changes
    · rfl
    · exact hw.input
  · intro _
    apply shows_bind_of_quiet (optional_untouched (perform_untouched (o := .stopHttp) id))
    intro _
    apply shows_call (o := .stopDevices) (fun _ => rfl)
    intro _
    apply shows_call (o := .disconnectTcp) (fun _ => rfl)
    intro _
    apply shows_call (o := .destroy .deviceManager) (fun _ => rfl)
    exact fun _ => trivial

lemma shows_runDevices (inner passes : Nat) {w : Board} (hw : w.changes = 0) :
    ShowsInputs c devices (Gateway.runDevices c devices inner passes) (fun _ _ => True) w := by
  apply obeys_bind
  apply obeys_mono (shows_startInputs hw)
  intro _ w₁ hw₁
  apply obeys_bind
  apply obeys_mono (shows_retryLoop _ inner passes hw₁)
  intro _ w₂ hw₂
  exact shows_stopInputs hw₂

/-- The server is started when the configuration is loaded and the cache is ready. -/
lemma shows_runPublishers (inner passes : Nat) {w : Board} (hconfig : w.flags .configLoaded = true)
    (hcache : w.flags .cacheReady = true) (hw : w.changes = 0) :
    ShowsInputs c devices (Gateway.runPublishers c devices inner passes) (fun _ _ => True) w := by
  have hserved : ∀ {w' : Board}, w'.changes = 0 → ShowsInputs c devices (do
      MainCall.perform (.log .info (ascii "cache") (ascii "checking cached mqtt messages"))
      MainCall.perform .flushCache
      Gateway.runDevices c devices inner passes
      (if c.http.enabled then MainCall.perform (.destroy .httpServer) else return ())
      return (0 : Int)) (fun _ _ => True) w' := by
    intro w' hw'
    apply shows_call (o := .log _ _ _) (fun _ => rfl)
    intro _
    apply shows_call (o := .flushCache) (fun _ => rfl)
    intro _
    apply obeys_bind
    apply obeys_mono (shows_runDevices inner passes hw')
    intro _ w'' _
    apply shows_bind_of_quiet (optional_untouched (perform_untouched (o := .destroy .httpServer) id))
    exact fun _ => trivial
  apply shows_call (o := .log _ _ _) (fun _ => rfl)
  intro _
  apply obeys_bind
  by_cases hhttp : c.http.enabled
  · rw [if_pos hhttp]
    intro error _
    cases error with
    | some error =>
      refine ⟨w, rfl, ?_⟩
      apply shows_call (o := .destroy .httpServer) (fun _ => rfl)
      exact fun _ => trivial
    | none => exact ⟨_, if_pos (Bool.and_eq_true_iff.mpr ⟨hconfig, hcache⟩), hserved hw⟩
  · rw [if_neg hhttp]
    exact hserved hw

lemma shows_runGateway (inner passes : Nat) {w : Board} (hconfig : w.flags .configLoaded = true)
    (hw : w.changes = 0) :
    ShowsInputs c devices (Gateway.runGateway c devices inner passes) (fun _ _ => True) w := by
  have hopen : (Gateway.openCache c.cache).Avoids Board.Touched := by
    unfold Gateway.openCache
    split_ifs
    · exact ⟨id, fun _ => trivial⟩
    · exact ⟨id, fun _ => trivial⟩
  apply shows_call (o := .createMqttClient _) (fun _ => rfl)
  intro _
  apply obeys_bind
  apply shows_of_quiet hopen
  intro error
  cases error with
  | some error =>
    apply shows_call (o := .log _ _ _) (fun _ => rfl)
    intro _
    apply shows_call (o := .destroy .messageCache) (fun _ => rfl)
    intro _
    apply shows_call (o := .destroy .mqttClient) (fun _ => rfl)
    exact fun _ => trivial
  | none =>
    apply shows_call (o := .status (.storeFlag .cacheReady true)) (fun _ => rfl)
    intro _
    apply shows_call (o := .log _ _ _) (fun _ => rfl)
    intro _
    apply obeys_bind
    have hpublishers : ShowsInputs c devices (Gateway.runPublishers c devices inner passes) (fun _ _ => True)
        (w.apply ⟨.status (.storeFlag .cacheReady true), ()⟩) := shows_runPublishers inner passes hconfig rfl hw
    apply obeys_mono hpublishers
    intro code w' _
    apply shows_call (o := .destroy .tcpClient) (fun _ => rfl)
    intro _
    apply shows_call (o := .destroy .messageCache) (fun _ => rfl)
    intro _
    apply shows_call (o := .destroy .mqttClient) (fun _ => rfl)
    exact fun _ => trivial

lemma shows_runConfigured (version : Text) (argv : List Text) (inner passes : Nat) :
    ShowsInputs c (Gateway.serialDevices argv c) (Gateway.runConfigured version argv c inner passes) (fun _ _ => True)
      {} := by
  have hinstall : Gateway.installShutdownSignalHandlers.Avoids Board.Touched := by
    refine ⟨id, fun _ => ⟨id, fun error => ?_⟩⟩
    cases error with
    | some error => trivial
    | none =>
      refine ⟨id, fun error => ?_⟩
      cases error with
      | some error => trivial
      | none => trivial
  apply shows_call (o := .status (.storeFlag .configLoaded true)) (fun _ => rfl)
  intro _
  apply obeys_bind
  apply shows_of_quiet hinstall
  intro error
  cases error with
  | some error =>
    apply shows_call (o := .log _ _ _) (fun _ => rfl)
    exact fun _ => trivial
  | none =>
    apply shows_call (o := .log _ _ _) (fun _ => rfl)
    intro _
    apply obeys_bind
    apply obeys_mono (shows_runGateway inner passes rfl rfl)
    intro result w _
    apply shows_call (o := .loadShutdown) (fun _ => rfl)
    intro _
    apply shows_bind_of_quiet (optional_untouched (perform_untouched (o := .log _ _ _) id))
    intro _
    apply shows_bind_of_quiet (optional_untouched (perform_untouched (o := .log _ _ _) id))
    exact fun _ => trivial

end

end EdgeGateway
