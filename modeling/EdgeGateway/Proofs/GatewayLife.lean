import EdgeGateway.Lib.Protocol
import EdgeGateway.Model.GatewayMain

/-!
# The life cycle of the gateway

The stages of the process, and which calls belong to which of them. Every run of `main` keeps to them, whatever
its parts answer.
-/

namespace EdgeGateway
open CallTree

/-! ### The stages -/

inductive LifeStage where
  | fresh
  | refused
  | loaded
  | configured (installed : List Signal)
  | created
  | cacheOpen
  | cacheReady
  | serving
  | flushed
  | starting (shown : Bool)
  | running
  | stopping
  | withdrawn
  | httpDown
  | devicesDown
  | closing (code : Int) (parts : List GatewayPart)
deriving DecidableEq

/-- A stage, and the configuration once it is loaded. -/
structure GatewayLife where
  config : Config.GatewayConfig := {}
  stage : LifeStage := .fresh

namespace GatewayLife

def enter (l : GatewayLife) (stage : LifeStage) : Option GatewayLife :=
  some { l with stage := stage }

/-- What is still to be destroyed when the devices are down. -/
def parts (c : Config.GatewayConfig) : List GatewayPart :=
  [.deviceManager] ++ (if c.http.enabled then [.httpServer] else []) ++ [.tcpClient, .messageCache, .mqttClient]

/-- Loads and stores of the status other than those of its flags. -/
def keepsFlags : StatusOp → Bool
  | .storeFlag _ _ => false
  | _ => true

/-- The calls of each stage. -/
def next (library : ConfigLibrary) (l : GatewayLife) (e : Event mainSignature) : Option GatewayLife :=
  match l.stage, e with
  | .fresh, ⟨.printOut _, _⟩ => l.enter (.closing 0 [])
  | .fresh, ⟨.loadFile _, file⟩ =>
    match Config.loadGatewayConfig library file {} with
    | .error _ => l.enter .refused
    | .ok c => some ⟨c, .loaded⟩
  | .refused, ⟨.printError _, _⟩ => l.enter (.closing 1 [])
  | .loaded, ⟨.status (.storeFlag .configLoaded true), _⟩ => l.enter (.configured [])
  | .configured [], ⟨.clearShutdown, _⟩ => some l
  | .configured [], ⟨.sigaction .sigint, none⟩ => l.enter (.configured [.sigint])
  | .configured [], ⟨.sigaction .sigint, some _⟩ => l.enter (.closing 1 [])
  | .configured [.sigint], ⟨.sigaction .sigterm, none⟩ => l.enter (.configured [.sigint, .sigterm])
  | .configured [.sigint], ⟨.sigaction .sigterm, some _⟩ => l.enter (.closing 1 [])
  | .configured [.sigint, .sigterm], ⟨.log _ _ _, _⟩ => some l
  | .configured [.sigint, .sigterm], ⟨.createMqttClient _, _⟩ => l.enter .created
  | .created, ⟨.openSqlite _, none⟩ => l.enter .cacheOpen
  | .created, ⟨.openSqlite _, some _⟩ => l.enter (.closing 1 [.messageCache, .mqttClient])
  | .created, ⟨.openFile _, _⟩ => l.enter .cacheOpen
  | .cacheOpen, ⟨.status (.storeFlag .cacheReady true), _⟩ => l.enter .cacheReady
  | .cacheReady, ⟨.log _ _ _, _⟩ => some l
  | .cacheReady, ⟨.startHttp _ _, none⟩ => if l.config.http.enabled then l.enter .serving else none
  | .cacheReady, ⟨.startHttp _ _, some _⟩ =>
    if l.config.http.enabled then l.enter (.closing 1 [.httpServer, .tcpClient, .messageCache, .mqttClient]) else none
  | .cacheReady, ⟨.flushCache, _⟩ => if l.config.http.enabled then none else l.enter .flushed
  | .serving, ⟨.log _ _ _, _⟩ => some l
  | .serving, ⟨.flushCache, _⟩ => l.enter .flushed
  | .flushed, ⟨.startDevices _, _⟩ => l.enter (.starting false)
  | .starting _, ⟨.status (.replaceDeviceStatuses _), _⟩ => l.enter (.starting true)
  | .starting true, ⟨.status (.storeFlag .serialWorkersStarted true), _⟩ => l.enter .running
  | .starting _, ⟨.status o, _⟩ => if keepsFlags o then some l else none
  | .starting _, ⟨.deviceStatuses, _⟩ => some l
  | .starting _, ⟨.sleepFor _, _⟩ => some l
  | .starting _, ⟨.log _ _ _, _⟩ => some l
  | .running, ⟨.steadyNow, _⟩ => some l
  | .running, ⟨.sleepFor milliseconds, _⟩ => if 0 ≤ milliseconds ∧ milliseconds ≤ 50 then some l else none
  | .running, ⟨.loadShutdown, false⟩ => some l
  | .running, ⟨.loadShutdown, true⟩ => l.enter .stopping
  | .running, ⟨.flushCache, _⟩ => some l
  | .running, ⟨.deviceStatuses, _⟩ => some l
  | .running, ⟨.status o, _⟩ => if keepsFlags o then some l else none
  | .stopping, ⟨.loadShutdown, _⟩ => some l
  | .stopping, ⟨.status (.storeCount _ _), _⟩ => some l
  | .stopping, ⟨.status (.storeFlag .serialWorkersStarted false), _⟩ => l.enter .withdrawn
  | .withdrawn, ⟨.stopHttp, _⟩ => if l.config.http.enabled then l.enter .httpDown else none
  | .withdrawn, ⟨.stopDevices, _⟩ => if l.config.http.enabled then none else l.enter .devicesDown
  | .httpDown, ⟨.stopDevices, _⟩ => l.enter .devicesDown
  | .devicesDown, ⟨.disconnectTcp, _⟩ => l.enter (.closing 0 (parts l.config))
  | .closing code (part :: rest), ⟨.destroy part', _⟩ => if part' = part then l.enter (.closing code rest) else none
  | .closing _ _, ⟨.log _ _ _, _⟩ => some l
  | .closing _ _, ⟨.loadShutdown, _⟩ => some l
  | _, _ => none

/-- The handlers only ever set the flag. -/
def possible (l : GatewayLife) (o : MainOp) : o.Ans → Prop :=
  match o with
  | .loadShutdown => fun (shutdown : Bool) => l.stage = .stopping → shutdown = true
  | _ => fun _ => True

end GatewayLife

/-! ### One call -/

section

variable {library : ConfigLibrary} {c : Config.GatewayConfig} {α : Type}

/-- A part of `main` that keeps to the stages. -/
abbrev Lives (library : ConfigLibrary) (p : MainCall α) (Q : α → GatewayLife → Prop) (l : GatewayLife) : Prop :=
  obeys (GatewayLife.next library) GatewayLife.possible p Q l

lemma lives_call {o : MainOp} {k : o.Ans → MainCall α} {Q : α → GatewayLife → Prop} {l : GatewayLife} (l' : GatewayLife)
    (hnext : ∀ x, GatewayLife.next library l ⟨o, x⟩ = some l') (hrest : ∀ x, Lives library (k x) Q l') :
    Lives library (MainCall.perform o >>= k) Q l :=
  obeys_call (fun _ => l') (fun x _ => hnext x) (fun x _ => hrest x)

/-! ### The main loop -/

lemma lives_updateDeviceObservability {stage stage' : LifeStage}
    (hask : ∀ x, GatewayLife.next library ⟨c, stage⟩ ⟨.deviceStatuses, x⟩ = some ⟨c, stage⟩)
    (hgauge : ∀ gauge value x,
      GatewayLife.next library ⟨c, stage⟩ ⟨.status (.storeGauge gauge value), x⟩ = some ⟨c, stage⟩)
    (hcount : ∀ count value x,
      GatewayLife.next library ⟨c, stage⟩ ⟨.status (.storeCount count value), x⟩ = some ⟨c, stage⟩)
    (hdevices : ∀ statuses x,
      GatewayLife.next library ⟨c, stage⟩ ⟨.status (.replaceDeviceStatuses statuses), x⟩ = some ⟨c, stage'⟩) :
    Lives library Gateway.updateDeviceObservability (fun _ l => l = ⟨c, stage'⟩) ⟨c, stage⟩ := by
  apply lives_call _ hask
  intro statuses
  apply lives_call (o := .status (.storeGauge _ _)) _ (hgauge _ _)
  intro _
  apply lives_call (o := .status (.storeGauge _ _)) _ (hgauge _ _)
  intro _
  apply lives_call (o := .status (.storeCount _ _)) _ (hcount _ _)
  intro _
  apply lives_call (o := .status (.storeCount _ _)) _ (hcount _ _)
  intro _
  apply lives_call (o := .status (.storeCount _ _)) _ (hcount _ _)
  intro _
  apply lives_call (o := .status (.replaceDeviceStatuses _)) _ (hdevices _)
  intro _
  exact rfl

lemma lives_awaitDeadline (deadline : Int) (passes : Nat) :
    Lives library (Gateway.awaitDeadline deadline passes)
      (fun _ l => l = ⟨c, .running⟩ ∨ l = ⟨c, .stopping⟩) ⟨c, .running⟩ := by
  induction passes with
  | zero => exact fun x => x.elim
  | succ passes ih =>
    intro shutdown _
    cases shutdown with
    | true => exact ⟨⟨c, .stopping⟩, rfl, .inr rfl⟩
    | false =>
      refine ⟨⟨c, .running⟩, rfl, ?_⟩
      apply lives_call (o := .steadyNow) ⟨c, .running⟩ (fun _ => rfl)
      intro (now : Int)
      split_ifs with hover
      · exact .inl rfl
      · have hwait : 0 ≤ min (durationCastMilliseconds (deadline - now)) 50 ∧
            min (durationCastMilliseconds (deadline - now)) 50 ≤ 50 := by
          have hleft : 0 ≤ durationCastMilliseconds (deadline - now) :=
            Int.tdiv_nonneg (sub_nonneg.mpr (not_le.mp hover).le) (by decide)
          omega
        have hsleep : ∀ x, GatewayLife.next library ⟨c, .running⟩
            ⟨.sleepFor (min (durationCastMilliseconds (deadline - now)) 50), x⟩ = some ⟨c, .running⟩ :=
          fun _ => if_pos hwait
        apply lives_call _ hsleep
        intro _
        exact ih

/-- Either a shutdown was requested, or the gateway goes on running. -/
lemma lives_waitForShutdown (timeout : Int) (passes : Nat) :
    Lives library (Gateway.waitForShutdown timeout passes)
      (fun shutdown l => l = ⟨c, if shutdown then .stopping else .running⟩) ⟨c, .running⟩ := by
  apply lives_call (o := .steadyNow) ⟨c, .running⟩ (fun _ => rfl)
  intro now
  apply obeys_bind
  apply obeys_mono (lives_awaitDeadline _ passes)
  intro _ l hl shutdown hpossible
  rcases hl with rfl | rfl
  · cases shutdown with
    | true => exact ⟨_, rfl, rfl⟩
    | false => exact ⟨_, rfl, rfl⟩
  · rw [show shutdown = true from hpossible rfl]
    exact ⟨_, rfl, rfl⟩

lemma lives_retryLoop (cacheRetryInterval : Int) (inner passes : Nat) :
    Lives library (Gateway.retryLoop cacheRetryInterval inner passes)
      (fun _ l => l = ⟨c, .stopping⟩) ⟨c, .running⟩ := by
  induction passes with
  | zero => exact fun x => x.elim
  | succ passes ih =>
    apply obeys_bind
    apply obeys_mono (lives_waitForShutdown cacheRetryInterval inner)
    intro shutdown l hl
    cases shutdown with
    | true => exact hl
    | false =>
      rw [hl]
      apply lives_call (o := .flushCache) ⟨c, .running⟩ (fun _ => rfl)
      intro _
      apply obeys_bind
      apply obeys_mono (lives_updateDeviceObservability (fun _ => rfl) (fun _ _ _ => rfl) (fun _ _ _ => rfl)
        (fun _ _ => rfl))
      intro _ l hl
      rw [hl]
      exact ih

/-! ### From the start to the end -/

/-- The calls of the wait for the serial devices. -/
def BeyondStarting : MainOp → Prop
  | .deviceStatuses => False
  | .sleepFor _ => False
  | .log _ _ _ => False
  | _ => True

lemma logOpened_avoids (count : Nat) : (Gateway.logOpened count).Avoids BeyondStarting := by
  induction count with
  | zero => trivial
  | succ count ih => exact ⟨id, fun _ => ih⟩

lemma awaitSerial_avoids (devices attempts : Nat) : (Gateway.awaitSerial devices attempts).Avoids BeyondStarting := by
  induction attempts with
  | zero => trivial
  | succ attempts ih =>
    refine ⟨id, fun statuses => ?_⟩
    change Prog.Avoids _ (ite _ _ _)
    split_ifs
    · exact Prog.avoids_bind (logOpened_avoids _) (fun _ => ⟨id, fun _ => trivial⟩)
    · exact ⟨id, fun _ => ih⟩

lemma lives_starting {p : MainCall α} (hp : p.Avoids BeyondStarting) {shown : Bool} {Q : α → GatewayLife → Prop}
    (hQ : ∀ r, Q r ⟨c, .starting shown⟩) : Lives library p Q ⟨c, .starting shown⟩ := by
  apply obeys_of_quiet hp _ hQ
  intro o x hquiet
  cases o with
  | deviceStatuses => cases shown <;> rfl
  | sleepFor => cases shown <;> rfl
  | log => cases shown <;> rfl
  | status | printOut | printError | loadFile | clearShutdown | sigaction | loadShutdown | steadyNow |
    createMqttClient | openSqlite | openFile | startHttp | stopHttp | flushCache | startDevices | stopDevices |
    disconnectTcp | destroy | spin => exact absurd trivial hquiet

lemma lives_startInputs (devices : List Text) :
    Lives library (Gateway.startInputs c devices) (fun _ l => l = ⟨c, .running⟩) ⟨c, .flushed⟩ := by
  have hserial : (if devices.length ≠ 0 then Gateway.awaitSerial devices.length 20 else pure ()).Avoids
      BeyondStarting := by
    split_ifs
    · exact awaitSerial_avoids _ _
    · trivial
  apply lives_call (o := .startDevices _) ⟨c, .starting false⟩ (fun _ => rfl)
  intro _
  apply obeys_bind
  apply lives_starting hserial
  intro _
  apply lives_call (o := .log _ _ _) ⟨c, .starting false⟩ (fun _ => rfl)
  intro _
  apply lives_call (o := .log _ _ _) ⟨c, .starting false⟩ (fun _ => rfl)
  intro _
  apply obeys_bind
  apply obeys_mono (lives_updateDeviceObservability (fun _ => rfl) (fun _ _ _ => rfl) (fun _ _ _ => rfl)
    (fun _ _ => rfl))
  intro _ l hl
  rw [hl]
  apply lives_call (o := .status (.storeGauge _ _)) ⟨c, .starting true⟩ (fun _ => rfl)
  intro _
  apply lives_call (o := .status (.storeCount _ _)) ⟨c, .starting true⟩ (fun _ => rfl)
  intro _
  apply lives_call (o := .status (.storeFlag .serialWorkersStarted true)) ⟨c, .running⟩ (fun _ => rfl)
  intro _
  exact rfl

/-- What is left to destroy when the publishers have gone. -/
def publisherParts : List GatewayPart :=
  [.tcpClient, .messageCache, .mqttClient]

/-- What is left to destroy after the device manager. -/
def laterParts (c : Config.GatewayConfig) : List GatewayPart :=
  (if c.http.enabled then [.httpServer] else []) ++ publisherParts

lemma lives_stopInputs (devices : List Text) :
    Lives library (Gateway.stopInputs c devices) (fun _ l => l = ⟨c, .closing 0 (laterParts c)⟩) ⟨c, .stopping⟩ := by
  apply lives_call (o := .status (.storeCount _ _)) ⟨c, .stopping⟩ (fun _ => rfl)
  intro _
  apply lives_call (o := .status (.storeFlag .serialWorkersStarted false)) ⟨c, .withdrawn⟩ (fun _ => rfl)
  intro _
  have hstop : ∀ {stage}, (∀ x, GatewayLife.next library ⟨c, stage⟩ ⟨.stopDevices, x⟩ = some ⟨c, .devicesDown⟩) →
      Lives library (do
        MainCall.perform .stopDevices
        MainCall.perform .disconnectTcp
        MainCall.perform (.destroy .deviceManager)) (fun _ l => l = ⟨c, .closing 0 (laterParts c)⟩) ⟨c, stage⟩ := by
    intro stage hnext
    apply lives_call _ hnext
    intro _
    apply lives_call (o := .disconnectTcp) ⟨c, .closing 0 (GatewayLife.parts c)⟩ (fun _ => rfl)
    intro _
    apply lives_call (o := .destroy .deviceManager) ⟨c, .closing 0 (laterParts c)⟩ (fun _ => rfl)
    intro _
    exact rfl
  apply obeys_bind
  cases hhttp : c.http.enabled with
  | true =>
    have hdown : ∀ x, GatewayLife.next library ⟨c, .withdrawn⟩ ⟨.stopHttp, x⟩ = some ⟨c, .httpDown⟩ :=
      fun _ => if_pos hhttp
    apply lives_call _ hdown
    intro _
    exact hstop (fun _ => rfl)
  | false =>
    have hdown : ∀ x, GatewayLife.next library ⟨c, .withdrawn⟩ ⟨.stopDevices, x⟩ = some ⟨c, .devicesDown⟩ :=
      fun _ => if_neg (Bool.eq_false_iff.mp hhttp)
    exact hstop hdown

lemma lives_runDevices (devices : List Text) (inner passes : Nat) :
    Lives library (Gateway.runDevices c devices inner passes) (fun _ l => l = ⟨c, .closing 0 (laterParts c)⟩)
      ⟨c, .flushed⟩ := by
  apply obeys_bind
  apply obeys_mono (lives_startInputs devices)
  intro _ l hl
  rw [hl]
  apply obeys_bind
  apply obeys_mono (lives_retryLoop _ inner passes)
  intro _ l hl
  rw [hl]
  exact lives_stopInputs devices

lemma lives_served (devices : List Text) (inner passes : Nat) {stage : LifeStage}
    (hlog : ∀ level component message x,
      GatewayLife.next library ⟨c, stage⟩ ⟨.log level component message, x⟩ = some ⟨c, stage⟩)
    (hflush : ∀ x, GatewayLife.next library ⟨c, stage⟩ ⟨.flushCache, x⟩ = some ⟨c, .flushed⟩) :
    Lives library (do
        MainCall.perform (.log .info (ascii "cache") (ascii "checking cached mqtt messages"))
        MainCall.perform .flushCache
        Gateway.runDevices c devices inner passes
        (if c.http.enabled then MainCall.perform (.destroy .httpServer) else return ())
        return 0)
      (fun (code : Int) l => l = ⟨c, .closing code publisherParts⟩) ⟨c, stage⟩ := by
  apply lives_call _ (hlog _ _ _)
  intro _
  apply lives_call _ hflush
  intro _
  apply obeys_bind
  apply obeys_mono (lives_runDevices devices inner passes)
  intro _ l hl
  rw [hl]
  unfold laterParts
  apply obeys_bind
  cases hhttp : c.http.enabled with
  | true =>
    apply lives_call (o := .destroy .httpServer) ⟨c, .closing 0 publisherParts⟩ (fun _ => rfl)
    intro _
    exact rfl
  | false => exact rfl

lemma lives_runPublishers (devices : List Text) (inner passes : Nat) :
    Lives library (Gateway.runPublishers c devices inner passes)
      (fun code l => l = ⟨c, .closing code publisherParts⟩) ⟨c, .cacheReady⟩ := by
  apply lives_call (o := .log _ _ _) ⟨c, .cacheReady⟩ (fun _ => rfl)
  intro _
  apply obeys_bind
  by_cases hhttp : c.http.enabled
  · rw [if_pos hhttp]
    intro error _
    cases error with
    | some error =>
      refine ⟨⟨c, .closing 1 (.httpServer :: publisherParts)⟩, if_pos hhttp, ?_⟩
      apply lives_call (o := .destroy .httpServer) ⟨c, .closing 1 publisherParts⟩ (fun _ => rfl)
      intro _
      exact rfl
    | none =>
      refine ⟨⟨c, .serving⟩, if_pos hhttp, ?_⟩
      exact lives_served devices inner passes (fun _ _ _ _ => rfl) (fun _ => rfl)
  · rw [if_neg hhttp]
    have hflush : ∀ x, GatewayLife.next library ⟨c, .cacheReady⟩ ⟨.flushCache, x⟩ = some ⟨c, .flushed⟩ :=
      fun _ => if_neg hhttp
    exact lives_served devices inner passes (fun _ _ _ _ => rfl) hflush

lemma lives_openCache :
    Lives library (Gateway.openCache c.cache)
      (fun error l => l = ⟨c, if error.isNone then .cacheOpen else .closing 1 [.messageCache, .mqttClient]⟩)
      ⟨c, .created⟩ := by
  unfold Gateway.openCache
  split_ifs
  · intro error _
    cases error with
    | some error => exact ⟨_, rfl, rfl⟩
    | none => exact ⟨_, rfl, rfl⟩
  · apply lives_call (o := .openFile _) ⟨c, .cacheOpen⟩ (fun _ => rfl)
    intro _
    exact rfl

lemma lives_runGateway (devices : List Text) (inner passes : Nat) :
    Lives library (Gateway.runGateway c devices inner passes) (fun code l => l = ⟨c, .closing code []⟩)
      ⟨c, .configured [.sigint, .sigterm]⟩ := by
  apply lives_call (o := .createMqttClient _) ⟨c, .created⟩ (fun _ => rfl)
  intro _
  apply obeys_bind
  apply obeys_mono lives_openCache
  intro error l hl
  rw [hl]
  cases error with
  | some error =>
    apply lives_call (o := .log _ _ _) ⟨c, .closing 1 [.messageCache, .mqttClient]⟩ (fun _ => rfl)
    intro _
    apply lives_call (o := .destroy .messageCache) ⟨c, .closing 1 [.mqttClient]⟩ (fun _ => rfl)
    intro _
    apply lives_call (o := .destroy .mqttClient) ⟨c, .closing 1 []⟩ (fun _ => rfl)
    intro _
    exact rfl
  | none =>
    apply lives_call (o := .status (.storeFlag .cacheReady true)) ⟨c, .cacheReady⟩ (fun _ => rfl)
    intro _
    apply lives_call (o := .log _ _ _) ⟨c, .cacheReady⟩ (fun _ => rfl)
    intro _
    apply obeys_bind
    apply obeys_mono (lives_runPublishers devices inner passes)
    intro code l hl
    rw [hl]
    apply lives_call (o := .destroy .tcpClient) ⟨c, .closing code [.messageCache, .mqttClient]⟩ (fun _ => rfl)
    intro _
    apply lives_call (o := .destroy .messageCache) ⟨c, .closing code [.mqttClient]⟩ (fun _ => rfl)
    intro _
    apply lives_call (o := .destroy .mqttClient) ⟨c, .closing code []⟩ (fun _ => rfl)
    intro _
    exact rfl

lemma lives_installShutdownSignalHandlers :
    Lives library Gateway.installShutdownSignalHandlers
      (fun error l => l = ⟨c, if error.isNone then .configured [.sigint, .sigterm] else .closing 1 []⟩)
      ⟨c, .configured []⟩ := by
  apply lives_call (o := .clearShutdown) ⟨c, .configured []⟩ (fun _ => rfl)
  intro _ error _
  cases error with
  | some error => exact ⟨_, rfl, rfl⟩
  | none =>
    refine ⟨⟨c, .configured [.sigint]⟩, rfl, ?_⟩
    intro error _
    cases error with
    | some error => exact ⟨_, rfl, rfl⟩
    | none => exact ⟨_, rfl, rfl⟩

lemma lives_runConfigured (version : Text) (argv : List Text) (inner passes : Nat) :
    Lives library (Gateway.runConfigured version argv c inner passes) (fun code l => l = ⟨c, .closing code []⟩)
      ⟨c, .loaded⟩ := by
  apply lives_call (o := .status (.storeFlag .configLoaded true)) ⟨c, .configured []⟩ (fun _ => rfl)
  intro _
  apply obeys_bind
  apply obeys_mono lives_installShutdownSignalHandlers
  intro error l hl
  rw [hl]
  cases error with
  | some error =>
    apply lives_call (o := .log _ _ _) ⟨c, .closing 1 []⟩ (fun _ => rfl)
    intro _
    exact rfl
  | none =>
    apply lives_call (o := .log _ _ _) ⟨c, .configured [.sigint, .sigterm]⟩ (fun _ => rfl)
    intro _
    apply obeys_bind
    apply obeys_mono (lives_runGateway _ inner passes)
    intro code l hl
    rw [hl]
    apply lives_call (o := .loadShutdown) ⟨c, .closing code []⟩ (fun _ => rfl)
    intro shutdown
    have hlog : ∀ {b : Prop} [Decidable b] (message : Text) {p : MainCall Int},
        Lives library p (fun code l => l = ⟨c, .closing code []⟩) ⟨c, .closing code []⟩ →
        Lives library ((if b then MainCall.perform (.log .info (ascii "app") message) else return ()) >>= fun _ => p)
          (fun code l => l = ⟨c, .closing code []⟩) ⟨c, .closing code []⟩ := by
      intro b _ message p hp
      split_ifs
      · apply lives_call (o := .log _ _ _) ⟨c, .closing code []⟩ (fun _ => rfl)
        intro _
        exact hp
      · exact hp
    apply hlog
    apply hlog
    exact rfl

lemma lives_main (version : Text) (argv : List Text) (inner passes : Nat) :
    Lives library (Gateway.main library version argv inner passes) (fun code l => l.stage = .closing code [])
      {} := by
  have hrun : ∀ path, Lives library (Gateway.main.run library version argv inner passes path)
      (fun code l => l.stage = .closing code []) {} := by
    intro path file _
    cases hload : Config.loadGatewayConfig library file {} with
    | error error =>
      have hnext : GatewayLife.next library {} ⟨.loadFile path, file⟩ = some ⟨{}, .refused⟩ := by
        change (match Config.loadGatewayConfig library file {} with
          | .error _ => GatewayLife.enter {} .refused
          | .ok c => some ⟨c, .loaded⟩) = _
        rw [hload]
        rfl
      refine ⟨_, hnext, ?_⟩
      dsimp only [Prog.bind]
      rw [hload]
      apply lives_call (o := .printError _) ⟨{}, .closing 1 []⟩ (fun _ => rfl)
      intro _
      exact rfl
    | ok c =>
      have hnext : GatewayLife.next library {} ⟨.loadFile path, file⟩ = some ⟨c, .loaded⟩ := by
        change (match Config.loadGatewayConfig library file {} with
          | .error _ => GatewayLife.enter {} .refused
          | .ok c => some ⟨c, .loaded⟩) = _
        rw [hload]
      refine ⟨_, hnext, ?_⟩
      dsimp only [Prog.bind]
      rw [hload]
      apply obeys_mono (lives_runConfigured version argv inner passes)
      intro code l hl
      rw [hl]
  unfold Gateway.main
  split
  · split_ifs
    · apply lives_call (o := .printOut _) ⟨{}, .closing 0 []⟩ (fun _ => rfl)
      intro _
      exact rfl
    · exact hrun _
  · exact hrun _
  · exact hrun _

end

/-! ### The whole life -/

/-- What the stages of a life are told apart by. -/
inductive Milestone where
  | handled (signal : Signal)
  | built (part : GatewayPart)
  | httpStopped
  | devicesStopped
  | tcpDisconnected
  | destroyed (part : GatewayPart)
deriving DecidableEq

/-- The TCP client is built right after the cache is shown as ready. -/
def milestone : Event mainSignature → List Milestone
  | ⟨.sigaction signal, none⟩ => [.handled signal]
  | ⟨.createMqttClient _, _⟩ => [.built .mqttClient]
  | ⟨.openSqlite _, _⟩ => [.built .messageCache]
  | ⟨.openFile _, _⟩ => [.built .messageCache]
  | ⟨.status (.storeFlag .cacheReady true), _⟩ => [.built .tcpClient]
  | ⟨.startHttp _ _, _⟩ => [.built .httpServer]
  | ⟨.startDevices _, _⟩ => [.built .deviceManager]
  | ⟨.stopHttp, _⟩ => [.httpStopped]
  | ⟨.stopDevices, _⟩ => [.devicesStopped]
  | ⟨.disconnectTcp, _⟩ => [.tcpDisconnected]
  | ⟨.destroy part, _⟩ => [.destroyed part]
  | _ => []

def milestones (h : List (Event mainSignature)) : List Milestone :=
  h.flatMap milestone

def Milestone.built? : Milestone → Option GatewayPart
  | .built part => some part
  | _ => none

namespace GatewayLife

/-- Everything on the way up. -/
def rise (c : Config.GatewayConfig) : List Milestone :=
  [.handled .sigint, .handled .sigterm, .built .mqttClient, .built .messageCache, .built .tcpClient] ++
  (if c.http.enabled then [.built .httpServer] else []) ++ [.built .deviceManager]

/-- What is stopped before anything is destroyed. -/
def halt (c : Config.GatewayConfig) : List Milestone :=
  (if c.http.enabled then [.httpStopped] else []) ++ [.devicesStopped, .tcpDisconnected]

/-- A life that goes up this far, and down in the reverse order. -/
def course (c : Config.GatewayConfig) (up : List Milestone) : List Milestone :=
  up ++ (if up = rise c then halt c else []) ++ (up.filterMap Milestone.built?).reverse.map .destroyed

/-- The milestones so far, before anything has been destroyed. -/
def soFar (c : Config.GatewayConfig) : LifeStage → List Milestone
  | .fresh | .refused | .loaded | .configured _ | .closing _ _ => []
  | .created => (rise c).take 3
  | .cacheOpen => (rise c).take 4
  | .cacheReady => (rise c).take 5
  | .serving | .flushed => (rise c).take 5 ++ (if c.http.enabled then [.built .httpServer] else [])
  | .starting _ | .running | .stopping | .withdrawn => rise c
  | .httpDown => rise c ++ (if c.http.enabled then [.httpStopped] else [])
  | .devicesDown => rise c ++ (if c.http.enabled then [.httpStopped] else []) ++ [.devicesStopped]

/-- What the milestones are in each stage. -/
def Story (l : GatewayLife) (m : List Milestone) : Prop :=
  match l.stage with
  | .configured installed => m = installed.map .handled ∧ m <+: rise l.config
  | .closing code parts => ∃ up, up <+: rise l.config ∧ m ++ parts.map .destroyed = course l.config up ∧
      (code = 0 → up = [] ∨ up = rise l.config)
  | stage => m = soFar l.config stage

end GatewayLife

section

variable {library : ConfigLibrary} {c : Config.GatewayConfig} {l l' : GatewayLife} {m up : List Milestone}

lemma milestone_status {o : StatusOp} (ho : GatewayLife.keepsFlags o = true) (x : o.Ans) :
    milestone ⟨.status o, x⟩ = [] := by
  cases o with
  | storeFlag => cases ho
  | loadFlag | loadCount | storeCount | copyDeviceStatuses | replaceDeviceStatuses | loadCounter | loadGauge |
    storeGauge | monotonicSeconds => rfl

/-- The device manager is built last. -/
lemma GatewayLife.ne_rise (hup : .built .deviceManager ∉ up) : up ≠ rise c := by
  intro hall
  rw [hall] at hup
  simp [rise] at hup

/-- A life that is given up on before the device manager is built. -/
lemma GatewayLife.story_closing (hup : up <+: rise c) (hpart : .built .deviceManager ∉ up) {code : Int}
    (hcode : code ≠ 0 ∨ up = []) {parts : List GatewayPart} (hparts : (up.filterMap Milestone.built?).reverse = parts) :
    Story ⟨c, .closing code parts⟩ up := by
  refine ⟨up, hup, ?_, fun h => .inl (hcode.resolve_left (not_not_intro h))⟩
  rw [course, if_neg (ne_rise hpart), List.append_nil, hparts]

lemma GatewayLife.rise_eq_append (hhttp : c.http.enabled = true) : rise c =
    [.handled .sigint, .handled .sigterm, .built .mqttClient, .built .messageCache, .built .tcpClient,
      .built .httpServer] ++ [.built .deviceManager] := by
  rw [rise, if_pos hhttp]
  rfl

lemma GatewayLife.course_rise : course c (rise c) = rise c ++ halt c ++ (parts c).map .destroyed := by
  rw [course, if_pos rfl]
  congr 2
  cases hhttp : c.http.enabled with
  | true => simp [rise, parts, hhttp, List.filterMap_cons, Milestone.built?]
  | false => simp [rise, parts, hhttp, List.filterMap_cons, Milestone.built?]

lemma GatewayLife.Story.next {e : Event mainSignature} (h : l.Story m)
    (hnext : GatewayLife.next library l e = some l') : l'.Story (m ++ milestone e) := by
  obtain ⟨c, stage⟩ := l
  unfold GatewayLife.next at hnext
  dsimp only at hnext
  split at hnext
  all_goals try split at hnext
  all_goals first | exact (Option.some_ne_none _ hnext.symm).elim | cases hnext
  -- a call that leads to the next milestone, or to none
  all_goals try (simp [GatewayLife.Story, GatewayLife.soFar, milestone, GatewayLife.rise] at h ⊢; simp_all; done)
  -- `main` prints the version and returns
  · obtain rfl : m = [] := h
    exact GatewayLife.story_closing List.nil_prefix (by simp) (.inr rfl) rfl
  -- the configuration is refused
  · obtain rfl : m = [] := h
    exact GatewayLife.story_closing List.nil_prefix (by simp) (.inr rfl) rfl
  -- a handler cannot be installed
  · obtain ⟨rfl, hup⟩ := h
    exact GatewayLife.story_closing hup (by simp) (.inl (by decide)) rfl
  · obtain ⟨rfl, hup⟩ := h
    have hfirst : [.handled .sigint] <+: GatewayLife.rise c := hup
    exact GatewayLife.story_closing hfirst (by simp) (.inl (by decide)) rfl
  -- the database cannot be opened
  · obtain rfl : m = [.handled .sigint, .handled .sigterm, .built .mqttClient] := h
    have hup : GatewayLife.soFar c .cacheOpen <+: GatewayLife.rise c := List.take_prefix _ _
    exact GatewayLife.story_closing hup (by simp [GatewayLife.soFar, GatewayLife.rise]) (.inl (by decide)) rfl
  -- the server does not start
  · rename_i hhttp
    obtain rfl : m = [.handled .sigint, .handled .sigterm, .built .mqttClient, .built .messageCache,
      .built .tcpClient] := h
    have hup := GatewayLife.rise_eq_append hhttp ▸ List.prefix_append _ _
    exact GatewayLife.story_closing hup (by simp) (.inl (by decide)) rfl
  -- loads and stores that show the devices
  · rename_i hflags
    rw [milestone_status hflags, List.append_nil]
    exact h
  · rename_i hflags
    rw [milestone_status hflags, List.append_nil]
    exact h
  -- everything has been stopped
  · refine ⟨GatewayLife.rise c, List.prefix_rfl, ?_, fun _ => .inr rfl⟩
    rw [GatewayLife.course_rise, show m = GatewayLife.soFar c .devicesDown from h]
    simp [GatewayLife.soFar, GatewayLife.halt, milestone]

/-- What the milestones of an allowed history are. -/
lemma GatewayLife.story_after {h : List (Event mainSignature)}
    (hafter : Protocol.after (GatewayLife.next library) {} h = some l) : l.Story (milestones h) := by
  apply Protocol.after_invariant (I := fun h l => l.Story (milestones h)) _ rfl hafter
  intro h l e l' hstory hnext
  have hmilestones : milestones (h ++ [e]) = milestones h ++ milestone e := by
    simp [milestones]
  rw [hmilestones]
  exact hstory.next hnext

lemma GatewayLife.prefix_course (hm : m <+: up) : m <+: course c up := by
  unfold course
  rw [List.append_assoc]
  exact hm.trans (List.prefix_append _ _)

/-- Wherever the process is, its life is on the way up or on the way down. -/
lemma GatewayLife.Story.prefix_course (h : l.Story m) : ∃ up, up <+: rise l.config ∧ m <+: course l.config up := by
  obtain ⟨c, stage⟩ := l
  cases stage with
  | closing code parts =>
    obtain ⟨up, hup, hcourse, -⟩ := h
    exact ⟨up, hup, _, hcourse⟩
  | fresh | refused | loaded =>
    obtain rfl : m = [] := h
    exact ⟨[], List.nil_prefix, List.nil_prefix⟩
  | configured installed =>
    obtain ⟨-, hup⟩ := h
    exact ⟨m, hup, GatewayLife.prefix_course List.prefix_rfl⟩
  | created | cacheOpen | cacheReady =>
    rw [show m = _ from h]
    exact ⟨rise c, List.prefix_rfl, GatewayLife.prefix_course (List.take_prefix _ _)⟩
  | serving | flushed =>
    rw [show m = _ from h]
    exact ⟨rise c, List.prefix_rfl, GatewayLife.prefix_course ⟨_, rfl⟩⟩
  | starting | running | stopping | withdrawn =>
    rw [show m = _ from h]
    exact ⟨rise c, List.prefix_rfl, GatewayLife.prefix_course List.prefix_rfl⟩
  | httpDown =>
    rw [show m = _ from h]
    refine ⟨rise c, List.prefix_rfl, ?_⟩
    simp [soFar, course_rise, halt]
  | devicesDown =>
    rw [show m = _ from h]
    refine ⟨rise c, List.prefix_rfl, ?_⟩
    simp [soFar, course_rise, halt]

end

/-- Whatever the parts of the gateway answer, `main` makes only the calls of the stage it is in, and its life is on the
way up or on the way down. When it returns an exit code it has gone down everything that it went up. -/
theorem main_keeps_to_stages (library : ConfigLibrary) (version : Text) (argv : List Text) (inner passes : Nat) :
    (∀ h, Reaches (recording (Admits (GatewayLife.next library) GatewayLife.possible {}))
        (Gateway.main library version argv inner passes) [] h →
      ∃ l, Protocol.after (GatewayLife.next library) {} h = some l ∧
        ∃ up, up <+: GatewayLife.rise l.config ∧ milestones h <+: GatewayLife.course l.config up) ∧
    (∀ h code, Exec (recording (Admits (GatewayLife.next library) GatewayLife.possible {}))
        (Gateway.main library version argv inner passes) [] code h →
      ∃ l, Protocol.after (GatewayLife.next library) {} h = some l ∧ l.stage = .closing code [] ∧
        ∃ up, up <+: GatewayLife.rise l.config ∧ milestones h = GatewayLife.course l.config up ∧
          (code = 0 → up = [] ∨ up = GatewayLife.rise l.config)) := by
  refine ⟨?_, ?_⟩
  · intro h hreach
    obtain ⟨l, hl⟩ := obeys_reaches (lives_main version argv inner passes) rfl hreach
    exact ⟨l, hl, (GatewayLife.story_after hl).prefix_course⟩
  · intro h code hexec
    obtain ⟨l, hl, hstage⟩ := obeys_exec (lives_main version argv inner passes) rfl hexec
    have hstory := GatewayLife.story_after hl
    obtain ⟨c, stage⟩ := l
    obtain rfl : stage = .closing code [] := hstage
    obtain ⟨up, hup, hcourse, hcode⟩ := hstory
    rw [List.map_nil, List.append_nil] at hcourse
    exact ⟨_, hl, rfl, up, hup, hcourse, hcode⟩

end EdgeGateway
