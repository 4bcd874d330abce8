import EdgeGateway.Proofs.Ledger

/-!
# What the handlers of the gateway enter in the ledger

The error handler adds to the counters what a report amounts to, and the data handler publishes a valid
reading.
-/

namespace EdgeGateway
open CallTree

/-- What a report adds up to: one error, or those in its statistics. -/
def reportSize (stats : ProtocolErrorStats) : Nat :=
  if stats.isEmpty then 1 else stats.total

/-- What the error handler adds to each counter for a report. -/
def charge (protocol : ProtocolType) (stats : ProtocolErrorStats) : Counter → Nat
  | .crcErrors => stats.crcErrors
  | .lengthErrors => stats.lengthErrors
  | .framesInvalid => stats.invalidFrameCount
  | .protocolError => reportSize stats
  | .modbusError => if protocol = .modbusRtu then reportSize stats else 0
  | .canError => if protocol = .socketCan then reportSize stats else 0
  | _ => 0

/-- What the data handler adds to a counter for a reading, the counters of the TCP channel aside. -/
def dataCharge (data : SensorData) : Counter → Nat
  | .framesParsed => 1
  | .protocolError => if data.valid then 0 else 1
  | _ => 0

/-- The counters that `publish_sensor_data` raises for the outcomes. -/
def Counter.IsTcp (c : Counter) : Prop :=
  c = .tcpPublishSuccess ∨ c = .tcpPublishFailed

section

variable {ok : Ledger → (o : WorkerOp) → o.Ans → Prop} {l : Ledger} {α β : Type}

lemma wp_inErrorHandler_bind (p : Prog handlerSignature α) (f : α → Prog handlerSignature β)
    (Q : β → Ledger → Prop) :
    wp (ledgerEnv ok) (WorkerCall.inErrorHandler (p >>= f)) Q l ↔
      wp (ledgerEnv ok) (WorkerCall.inErrorHandler p)
        (fun r l' => wp (ledgerEnv ok) (WorkerCall.inErrorHandler (f r)) Q l') l := by
  rw [WorkerCall.inErrorHandler, Prog.embed_bind, wp_bind]
  rfl

lemma wp_inDataHandler_bind (p : Prog handlerSignature α) (f : α → Prog handlerSignature β)
    (Q : β → Ledger → Prop) :
    wp (ledgerEnv ok) (WorkerCall.inDataHandler (p >>= f)) Q l ↔
      wp (ledgerEnv ok) (WorkerCall.inDataHandler p)
        (fun r l' => wp (ledgerEnv ok) (WorkerCall.inDataHandler (f r)) Q l') l := by
  rw [WorkerCall.inDataHandler, Prog.embed_bind, wp_bind]
  rfl

lemma Ledger.raise_zero (amounts : Counter → Nat) (counter : Counter) :
    Ledger.raise amounts counter 0 = amounts := by
  funext c
  simp [Ledger.raise]

lemma wp_record_error (counter : Counter) (count : Nat) {Q : Unit → Ledger → Prop}
    (hQ : Q () { l with charged := Ledger.raise l.charged counter count }) :
    wp (ledgerEnv ok) (WorkerCall.inErrorHandler (Gateway.record counter count)) Q l := by
  rintro _ l' ⟨-, rfl⟩
  exact hQ

lemma wp_recordIfPositive (counter : Counter) (count : Nat) {Q : Unit → Ledger → Prop}
    (hQ : Q () { l with charged := Ledger.raise l.charged counter count }) :
    wp (ledgerEnv ok) (WorkerCall.inErrorHandler (Gateway.recordIfPositive counter count)) Q l := by
  unfold Gateway.recordIfPositive
  by_cases hpos : count > 0
  · rw [if_pos hpos]
    exact wp_record_error counter count hQ
  · obtain rfl : count = 0 := by omega
    rw [if_neg hpos]
    rw [Ledger.raise_zero] at hQ
    exact hQ

lemma wp_recordByProtocol (protocol : ProtocolType) (count : Nat) {Q : Unit → Ledger → Prop}
    (hQ : ∀ charged, (∀ c, charged c = l.charged c +
        match c with
        | .modbusError => if protocol = .modbusRtu then count else 0
        | .canError => if protocol = .socketCan then count else 0
        | _ => 0) →
      Q () { l with charged := charged }) :
    wp (ledgerEnv ok) (WorkerCall.inErrorHandler (Gateway.recordByProtocol protocol count)) Q l := by
  cases protocol with
  | uart =>
    apply hQ l.charged
    intro c
    cases c <;> rfl
  | modbusRtu =>
    apply wp_record_error
    apply hQ
    intro c
    cases c <;> rfl
  | socketCan =>
    apply wp_record_error
    apply hQ
    intro c
    cases c <;> rfl

theorem wp_errorHandler (protocol : ProtocolType) (code : ReadCode) (error : Text)
    (stats : ProtocolErrorStats) {Q : Unit → Ledger → Prop}
    (hQ : Q () { l with charged := fun c => l.charged c + charge protocol stats c }) :
    wp (ledgerEnv ok) (WorkerCall.inErrorHandler (Gateway.errorHandler protocol code error stats)) Q l := by
  unfold Gateway.errorHandler
  rw [wp_inErrorHandler_bind]
  apply wp_recordIfPositive
  rw [wp_inErrorHandler_bind]
  apply wp_recordIfPositive
  rw [wp_inErrorHandler_bind]
  apply wp_recordIfPositive
  dsimp only
  rw [wp_inErrorHandler_bind]
  apply wp_record_error
  rw [wp_inErrorHandler_bind]
  apply wp_recordByProtocol
  intro charged hcharged
  rintro _ l' ⟨-, rfl⟩
  have hfinal : charged = fun c => l.charged c + charge protocol stats c := by
    funext c
    rw [hcharged]
    cases c <;> simp [Ledger.raise, charge, reportSize]
  rw [hfinal]
  exact hQ

lemma wp_record_data (counter : Counter) (count : Nat) {Q : Unit → Ledger → Prop}
    (hQ : Q () { l with recorded := Ledger.raise l.recorded counter count }) :
    wp (ledgerEnv ok) (WorkerCall.inDataHandler (Gateway.record counter count)) Q l := by
  rintro _ l' ⟨-, rfl⟩
  exact hQ

lemma wp_log_data (level : LogLevel) (component message : Text) {Q : Unit → Ledger → Prop} (hQ : Q () l) :
    wp (ledgerEnv ok) (WorkerCall.inDataHandler (Gateway.log level component message)) Q l := by
  rintro _ l' ⟨-, rfl⟩
  exact hQ

lemma wp_publish_data (topic payload : Text) {Q : List PublishOutcome → Ledger → Prop}
    (hQ : ∀ outcomes, Q outcomes { l with published := l.published ++ [(topic, payload)] }) :
    wp (ledgerEnv ok) (WorkerCall.inDataHandler (Gateway.publish topic payload)) Q l := by
  rintro outcomes l' ⟨-, rfl⟩
  exact hQ outcomes

lemma wp_countOutcome (outcome : PublishOutcome) {Q : Unit → Ledger → Prop}
    (hQ : ∀ recorded, (∀ c, ¬c.IsTcp → recorded c = l.recorded c) → Q () { l with recorded := recorded }) :
    wp (ledgerEnv ok) (WorkerCall.inDataHandler (Gateway.countOutcome outcome)) Q l := by
  have hraise : ∀ counter : Counter, counter.IsTcp →
      ∀ c : Counter, ¬c.IsTcp → Ledger.raise l.recorded counter 1 c = l.recorded c := by
    intro counter hcounter c hc
    have hne : c ≠ counter := fun heq => hc (heq ▸ hcounter)
    simp [Ledger.raise, hne]
  unfold Gateway.countOutcome
  by_cases htcp : outcome.channel = ascii "tcp"
  · rw [if_pos htcp]
    by_cases hpublished : outcome.status = .published
    · rw [if_pos hpublished]
      exact wp_record_data _ _ (hQ _ (hraise _ (.inl rfl)))
    · rw [if_neg hpublished]
      exact wp_record_data _ _ (hQ _ (hraise _ (.inr rfl)))
  · rw [if_neg htcp]
    exact hQ l.recorded (fun _ _ => rfl)

lemma wp_logOutcome (outcome : PublishOutcome) {Q : Unit → Ledger → Prop} (hQ : Q () l) :
    wp (ledgerEnv ok) (WorkerCall.inDataHandler (Gateway.logOutcome outcome)) Q l := by
  unfold Gateway.logOutcome
  by_cases hfailed : outcome.status = .failed
  · rw [if_pos hfailed]
    exact wp_log_data _ _ _ hQ
  · rw [if_neg hfailed]
    exact wp_log_data _ _ _ hQ

lemma wp_reportOutcomes (outcomes : List PublishOutcome) {Q : Unit → Ledger → Prop}
    (hQ : ∀ recorded, (∀ c, ¬c.IsTcp → recorded c = l.recorded c) → Q () { l with recorded := recorded }) :
    wp (ledgerEnv ok) (WorkerCall.inDataHandler (Gateway.reportOutcomes outcomes)) Q l := by
  induction outcomes generalizing l with
  | nil => exact hQ l.recorded (fun _ _ => rfl)
  | cons outcome outcomes ih =>
    unfold Gateway.reportOutcomes
    rw [wp_inDataHandler_bind]
    apply wp_logOutcome
    rw [wp_inDataHandler_bind]
    apply wp_countOutcome
    intro recorded hrecorded
    apply ih
    intro recorded' hrecorded'
    apply hQ
    intro c hc
    exact (hrecorded' c hc).trans (hrecorded c hc)

/-- What the data handler publishes for a reading. -/
def publication (topicPrefix : Text) (data : SensorData) : List (Text × Text) :=
  if data.valid then [(Gateway.buildMqttTopic topicPrefix data, sensorDataToJson data)] else []

theorem wp_dataHandler (topicPrefix : Text) (data : SensorData) (protocol : ProtocolType)
    {Q : Unit → Ledger → Prop}
    (hQ : ∀ recorded, (∀ c, ¬c.IsTcp → recorded c = l.recorded c + dataCharge data c) →
      Q () { l with published := l.published ++ publication topicPrefix data, recorded := recorded }) :
    wp (ledgerEnv ok) (WorkerCall.inDataHandler (Gateway.dataHandler topicPrefix data protocol)) Q l := by
  unfold Gateway.dataHandler
  rw [wp_inDataHandler_bind]
  apply wp_record_data
  unfold Gateway.publishSensorData
  cases hvalid : data.valid with
  | false =>
    rw [Bool.not_false, if_pos rfl, wp_inDataHandler_bind]
    apply wp_log_data
    apply wp_record_data
    have hnone : l.published ++ publication topicPrefix data = l.published := by
      simp [publication, hvalid]
    rw [hnone] at hQ
    apply hQ
    intro c hc
    cases c <;> simp [Ledger.raise, dataCharge, hvalid]
  | true =>
    rw [Bool.not_true, if_neg Bool.false_ne_true, wp_inDataHandler_bind]
    apply wp_log_data
    rw [wp_inDataHandler_bind]
    apply wp_publish_data
    intro outcomes
    apply wp_reportOutcomes
    intro recorded hrecorded
    have hone : publication topicPrefix data =
        [(Gateway.buildMqttTopic topicPrefix data, sensorDataToJson data)] := by
      simp [publication, hvalid]
    rw [hone] at hQ
    apply hQ
    intro c hc
    rw [hrecorded c hc]
    cases c <;> simp [Ledger.raise, dataCharge, hvalid]

/-- The counters hold what the handlers were given, and what was published are the valid readings. -/
structure Entered (topicPrefix : Text) (l : Ledger) : Prop where
  charged : ∀ c, l.charged c = (l.reports.map (fun r => charge r.1 r.2 c)).sum
  recorded : ∀ c, ¬c.IsTcp → l.recorded c = (l.delivered.map (fun d => dataCharge d c)).sum
  published : l.published = l.delivered.flatMap (publication topicPrefix)

lemma entered_empty (topicPrefix : Text) : Entered topicPrefix {} :=
  ⟨fun _ => rfl, fun _ _ => rfl, rfl⟩

variable {interval : Int} {topicPrefix : Text}

lemma Entered.callDataHandler (h : Entered topicPrefix l) (data : SensorData) (protocol : ProtocolType) :
    wp (ledgerEnv ok) ((Gateway.deviceManager interval topicPrefix).callDataHandler data protocol)
      (fun _ l' => Entered topicPrefix l') l := by
  unfold DeviceManager.callDataHandler
  dsimp only [Gateway.deviceManager]
  rw [wp_bind]
  rintro _ l' ⟨-, rfl⟩
  apply wp_dataHandler
  intro recorded hrecorded
  refine ⟨h.charged, ?_, ?_⟩
  · intro c hc
    change recorded c = ((l.delivered ++ [data]).map _).sum
    rw [List.map_append, List.sum_append, ← h.recorded c hc, List.map_singleton, List.sum_singleton]
    exact hrecorded c hc
  · change l.published ++ _ = (l.delivered ++ [data]).flatMap _
    rw [List.flatMap_append, ← h.published, List.flatMap_singleton]

lemma Entered.callErrorHandler (h : Entered topicPrefix l) (protocol : ProtocolType) (code : ReadCode)
    (error : Text) (stats : ProtocolErrorStats) :
    wp (ledgerEnv ok)
      ((Gateway.deviceManager interval topicPrefix).callErrorHandler protocol code error stats)
      (fun _ l' => Entered topicPrefix l') l := by
  unfold DeviceManager.callErrorHandler
  dsimp only [Gateway.deviceManager]
  rw [wp_bind]
  rintro _ l' ⟨-, rfl⟩
  apply wp_errorHandler
  refine ⟨?_, h.recorded, h.published⟩
  intro c
  change l.charged c + _ = ((l.reports ++ [(protocol, stats)]).map _).sum
  rw [List.map_append, List.sum_append, ← h.charged c, List.map_singleton, List.sum_singleton]

lemma Entered.device {α : Type} (h : Entered topicPrefix l) (p : DeviceCall α) :
    wp (ledgerEnv ok) (WorkerCall.device p) (fun _ l' => Entered topicPrefix l') l := by
  rw [wp_device]
  apply wp_device_frame
  intro _ sessions later
  exact ⟨h.charged, h.recorded, h.published⟩

lemma Entered.handOver (h : Entered topicPrefix l) (result : DeviceReadResult) (protocol : ProtocolType) :
    wp (ledgerEnv ok) ((Gateway.deviceManager interval topicPrefix).handOver result protocol)
      (fun _ l' => Entered topicPrefix l') l := by
  obtain ⟨code, data, error, stats⟩ := result
  cases code with
  | data =>
    cases data with
    | some data =>
      change wp _ ((Gateway.deviceManager interval topicPrefix).callDataHandler data protocol) _ l
      exact h.callDataHandler data protocol
    | none => exact h
  | timeout => exact h
  | protocolError => exact h
  | transportError => exact h

lemma Entered.report (h : Entered topicPrefix l) (result : DeviceReadResult) (protocol : ProtocolType) :
    wp (ledgerEnv ok) ((Gateway.deviceManager interval topicPrefix).report result protocol)
      (fun _ l' => Entered topicPrefix l') l := by
  unfold DeviceManager.report
  by_cases hreport : DeviceManager.reportError result protocol
  · rw [if_pos hreport]
    exact h.callErrorHandler protocol result.code result.error result.errorStats
  · rw [if_neg hreport]
    exact h

lemma Entered.readInput {σ : Type} (h : Entered topicPrefix l) (interface : DeviceInterface σ) (input : σ) :
    wp (ledgerEnv ok) ((Gateway.deviceManager interval topicPrefix).readInput interface input)
      (fun _ l' => Entered topicPrefix l') l := by
  unfold DeviceManager.readInput
  rw [wp_bind]
  apply wp_mono _ (h.device _)
  rintro ⟨result, input'⟩ l₁ h₁
  change wp _ (DeviceManager.handleResult _ interface result input') _ l₁
  unfold DeviceManager.handleResult
  rw [wp_bind]
  apply wp_mono _ (h₁.handOver result _)
  intro _ l₂ h₂
  rw [wp_bind]
  apply wp_mono _ (h₂.report result _)
  intro _ l₃ h₃
  unfold DeviceManager.endPass
  by_cases htransport : result.code = .transportError
  · rw [if_pos htransport, wp_bind]
    exact wp_mono _ (h₃.device _) (fun _ _ h₄ => h₄)
  · rw [if_neg htransport]
    exact h₃

/-- Whatever the device, a pass of its worker leaves everything entered. -/
theorem Entered.runDevice {σ : Type} (h : Entered topicPrefix l) (interface : DeviceInterface σ)
    (w : Worker σ) :
    wp (ledgerEnv ok) ((Gateway.deviceManager interval topicPrefix).runDevice interface w)
      (fun _ l' => Entered topicPrefix l') l := by
  unfold DeviceManager.runDevice
  cases hstarted : w.started with
  | true => exact h.readInput interface w.input
  | false =>
    rw [Bool.not_false, if_pos rfl, wp_bind]
    apply wp_mono _ (h.device _)
    rintro ⟨error, input⟩ l₁ h₁
    cases error with
    | none => exact h₁.readInput interface input
    | some error =>
      dsimp only
      rw [wp_bind]
      apply wp_mono _ (h₁.callErrorHandler _ _ _ _)
      intro _ l₂ h₂
      rw [wp_bind]
      rintro _ l₃ ⟨-, rfl⟩
      exact h₂

end

/-- What the handlers of one worker added to a counter. -/
def Ledger.added (l : Ledger) (c : Counter) : Nat :=
  l.recorded c + l.charged c

lemma Entered.added_eq {topicPrefix : Text} {l : Ledger} (h : Entered topicPrefix l) {c : Counter}
    (hc : ¬c.IsTcp) (hdata : ∀ data, dataCharge data c = 0) :
    l.added c = (l.reports.map (fun r => charge r.1 r.2 c)).sum := by
  have hnone : l.recorded c = 0 := by
    rw [h.recorded c hc]
    simp [hdata]
  rw [Ledger.added, hnone, h.charged c, Nat.zero_add]

end EdgeGateway
