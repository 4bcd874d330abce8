import EdgeGateway.Model.Gateway

/-!
# What an observer of a worker sees

The ledger of a worker: the bytes read in each session of its port, what was handed to the data handler
and to the error handler, what the error handler added to the metrics and what was published.
-/

namespace EdgeGateway
open CallTree

structure Ledger where
  /-- The bytes read after each successful opening of the port. -/
  sessions : List (List UInt8) := []
  delivered : List SensorData := []
  reports : List (ProtocolType × ProtocolErrorStats) := []
  /-- What the data handler added to each counter. -/
  recorded : Counter → Nat := fun _ => 0
  /-- What the error handler added to each counter. -/
  charged : Counter → Nat := fun _ => 0
  published : List (Text × Text) := []
  /-- The readings of the steady clock. -/
  clock : List Int := []

namespace Ledger

/-- More bytes in the last session. -/
def receive (l : Ledger) (bytes : List UInt8) : Ledger :=
  { l with sessions := l.sessions.dropLast ++ [l.sessions.getLastD [] ++ bytes] }

/-- The amounts with `count` more on one counter. -/
def raise (amounts : Counter → Nat) (counter : Counter) (count : Nat) : Counter → Nat :=
  fun c => amounts c + if c = counter then count else 0

def noteDevice (l : Ledger) (o : DeviceOp) : o.Ans → Ledger :=
  match o with
  | .openPort _ _ => fun (error : Option Text) =>
      if error.isNone then { l with sessions := l.sessions ++ [[]] } else l
  | .readSome _ => fun (answer : Except Text (List UInt8)) =>
      match answer with
      | .error _ => l
      | .ok bytes => l.receive bytes
  | .steadyNow => fun (now : Int) => { l with clock := l.clock ++ [now] }
  | _ => fun _ => l

def note (l : Ledger) (e : Event workerSignature) : Ledger :=
  match e with
  | ⟨.device o, a⟩ => l.noteDevice o a
  | ⟨.sleepFor _, _⟩ => l
  | ⟨.handleData data _, _⟩ => { l with delivered := l.delivered ++ [data] }
  | ⟨.handleError protocol _ _ stats, _⟩ => { l with reports := l.reports ++ [(protocol, stats)] }
  | ⟨.inDataHandler (.publish topic payload), _⟩ =>
      { l with published := l.published ++ [(topic, payload)] }
  | ⟨.inDataHandler (.record counter count), _⟩ => { l with recorded := raise l.recorded counter count }
  | ⟨.inDataHandler _, _⟩ => l
  | ⟨.inErrorHandler (.record counter count), _⟩ => { l with charged := raise l.charged counter count }
  | ⟨.inErrorHandler _, _⟩ => l

end Ledger

/-- The worker in a world that answers as it likes, up to `ok`. -/
abbrev ledgerEnv (ok : Ledger → (o : WorkerOp) → o.Ans → Prop) : Env workerSignature Ledger :=
  observing (E := workerSignature) ok Ledger.note

/-- What a device sees of the world of its worker. -/
def onDevice {W : Type} (R : Env workerSignature W) : Env deviceSignature W :=
  fun w o a w' => R w (.device o) a w'

lemma wp_onDevice {W α : Type} (R : Env workerSignature W) (p : DeviceCall α) (Q : α → W → Prop) (w : W) :
    wp R (WorkerCall.device p) Q w ↔ wp (onDevice R) p Q w := by
  rw [WorkerCall.device, wp_embed]
  have henv : (fun (w : W) (o : DeviceOp) (a : o.Ans) (w' : W) => ∃ b, b = a ∧ R w (.device o) b w') =
      onDevice R := by
    funext w o a w'
    simp only [exists_eq_left]
    rfl
  rw [← henv]

/-- The part of it that a device sees. -/
def deviceEnv (ok : Ledger → (o : WorkerOp) → o.Ans → Prop) : Env deviceSignature Ledger :=
  fun l o a l' => ok l (.device o) a ∧ l' = l.noteDevice o a

section

variable {ok : Ledger → (o : WorkerOp) → o.Ans → Prop} {l : Ledger} {α : Type}

lemma wp_device (p : DeviceCall α) (Q : α → Ledger → Prop) :
    wp (ledgerEnv ok) (WorkerCall.device p) Q l ↔ wp (deviceEnv ok) p Q l :=
  wp_onDevice (ledgerEnv ok) p Q l

lemma exec_device {p : DeviceCall α} {r : α} {l' : Ledger} (h : Exec (deviceEnv ok) p l r l') :
    Exec (ledgerEnv ok) (WorkerCall.device p) l r l' :=
  h.embed (F := workerSignature) WorkerOp.device (fun _ a => a) (fun _ _ a _ hr => ⟨a, rfl, hr⟩)

/-- A device changes only the sessions, and reads the clock. -/
lemma wp_device_frame (p : DeviceCall α) {Q : α → Ledger → Prop}
    (hQ : ∀ r sessions later, Q r { l with sessions := sessions, clock := l.clock ++ later }) :
    wp (deviceEnv ok) p Q l := by
  have hsame : ∀ l : Ledger, l = { l with sessions := l.sessions, clock := l.clock ++ [] } := by
    intro l
    rw [List.append_nil]
  induction p generalizing l with
  | ret r =>
    have hret := hQ r l.sessions []
    rw [← hsame] at hret
    exact hret
  | call o k ih =>
    rintro a l' ⟨-, rfl⟩
    have hnote : ∃ sessions later,
        l.noteDevice o a = { l with sessions := sessions, clock := l.clock ++ later } := by
      cases o with
      | openPort path baudRate =>
        cases a with
        | none => exact ⟨l.sessions ++ [[]], [], by rw [List.append_nil]; rfl⟩
        | some error => exact ⟨l.sessions, [], hsame l⟩
      | readSome timeout =>
        cases a with
        | error error => exact ⟨l.sessions, [], hsame l⟩
        | ok bytes => exact ⟨(l.receive bytes).sessions, [], by rw [List.append_nil]; rfl⟩
      | steadyNow => exact ⟨l.sessions, [a], rfl⟩
      | _ => exact ⟨l.sessions, [], hsame l⟩
    obtain ⟨sessions, later, hnote⟩ := hnote
    rw [hnote]
    apply ih
    intro r sessions' later'
    have hcall := hQ r sessions' (later ++ later')
    rw [← List.append_assoc] at hcall
    exact hcall

/-- Inside the data handler the ledger changes only in what was published and recorded. -/
lemma wp_inDataHandler (p : Prog handlerSignature α) {Q : α → Ledger → Prop}
    (hQ : ∀ r published recorded, Q r { l with published := published, recorded := recorded }) :
    wp (ledgerEnv ok) (WorkerCall.inDataHandler p) Q l := by
  induction p generalizing l with
  | ret r => exact hQ r l.published l.recorded
  | call o k ih =>
    rintro a l' ⟨-, rfl⟩
    cases o with
    | publish topic payload => exact ih a (fun r published recorded => hQ r published recorded)
    | record counter count => exact ih a (fun r published recorded => hQ r published recorded)
    | log level component message => exact ih a hQ

/-- Inside the error handler it changes only in what was added to the counters. -/
lemma wp_inErrorHandler (p : Prog handlerSignature α) {Q : α → Ledger → Prop}
    (hQ : ∀ r charged, Q r { l with charged := charged }) :
    wp (ledgerEnv ok) (WorkerCall.inErrorHandler p) Q l := by
  induction p generalizing l with
  | ret r => exact hQ r l.charged
  | call o k ih =>
    rintro a l' ⟨-, rfl⟩
    cases o with
    | publish topic payload => exact ih a hQ
    | record counter count => exact ih a (fun r charged => hQ r charged)
    | log level component message => exact ih a hQ

lemma wp_callDataHandler (m : DeviceManager) (data : SensorData) (protocol : ProtocolType)
    {Q : Unit → Ledger → Prop}
    (hQ : ∀ delivered published recorded,
      (m.dataHandler.isSome → delivered = l.delivered ++ [data]) →
      Q () { l with delivered := delivered, published := published, recorded := recorded }) :
    wp (ledgerEnv ok) (m.callDataHandler data protocol) Q l := by
  unfold DeviceManager.callDataHandler
  cases hset : m.dataHandler with
  | none => exact hQ l.delivered l.published l.recorded (fun h => by simp [hset] at h)
  | some handler =>
    rw [wp_bind]
    rintro a l' ⟨-, rfl⟩
    apply wp_inDataHandler
    intro r published recorded
    exact hQ (l.delivered ++ [data]) published recorded (fun _ => rfl)

lemma wp_callErrorHandler (m : DeviceManager) (protocol : ProtocolType) (code : ReadCode) (error : Text)
    (stats : ProtocolErrorStats) {Q : Unit → Ledger → Prop}
    (hQ : ∀ reports charged, (m.errorHandler.isSome → reports = l.reports ++ [(protocol, stats)]) →
      Q () { l with reports := reports, charged := charged }) :
    wp (ledgerEnv ok) (m.callErrorHandler protocol code error stats) Q l := by
  unfold DeviceManager.callErrorHandler
  cases hset : m.errorHandler with
  | none => exact hQ l.reports l.charged (fun h => by simp [hset] at h)
  | some handler =>
    rw [wp_bind]
    rintro a l' ⟨-, rfl⟩
    apply wp_inErrorHandler
    intro r charged
    exact hQ (l.reports ++ [(protocol, stats)]) charged (fun _ => rfl)

/-- What a result hands to the data handler. -/
def handed (result : DeviceReadResult) : List SensorData :=
  match result.code, result.data with
  | .data, some data => [data]
  | _, _ => []

/-- What a result hands to the error handler. -/
def reported (result : DeviceReadResult) (protocol : ProtocolType) : List (ProtocolType × ProtocolErrorStats) :=
  if DeviceManager.reportError result protocol then [(protocol, result.errorStats)] else []

lemma wp_handOver (m : DeviceManager) (result : DeviceReadResult) (protocol : ProtocolType)
    {Q : Unit → Ledger → Prop}
    (hQ : ∀ delivered published recorded,
      (m.dataHandler.isSome → delivered = l.delivered ++ handed result) →
      Q () { l with delivered := delivered, published := published, recorded := recorded }) :
    wp (ledgerEnv ok) (m.handOver result protocol) Q l := by
  have hnothing := hQ l.delivered l.published l.recorded
  obtain ⟨code, data, error, stats⟩ := result
  cases code with
  | data =>
    cases data with
    | some data => exact wp_callDataHandler m data protocol hQ
    | none => exact hnothing (fun _ => (List.append_nil _).symm)
  | timeout => exact hnothing (fun _ => (List.append_nil _).symm)
  | protocolError => exact hnothing (fun _ => (List.append_nil _).symm)
  | transportError => exact hnothing (fun _ => (List.append_nil _).symm)

lemma wp_report (m : DeviceManager) (result : DeviceReadResult) (protocol : ProtocolType)
    {Q : Unit → Ledger → Prop}
    (hQ : ∀ reports charged, (m.errorHandler.isSome → reports = l.reports ++ reported result protocol) →
      Q () { l with reports := reports, charged := charged }) :
    wp (ledgerEnv ok) (m.report result protocol) Q l := by
  unfold reported at hQ
  unfold DeviceManager.report
  by_cases hreport : DeviceManager.reportError result protocol
  · rw [if_pos hreport] at hQ ⊢
    exact wp_callErrorHandler m protocol result.code result.error result.errorStats hQ
  · rw [if_neg hreport] at hQ ⊢
    exact hQ l.reports l.charged (fun _ => (List.append_nil _).symm)

lemma wp_endPass {σ : Type} (interface : DeviceInterface σ) (result : DeviceReadResult) (input : σ)
    {Q : Worker σ → Ledger → Prop}
    (hstop : result.code = .transportError →
      wp (deviceEnv ok) (interface.stop input) (fun input' l' => Q ⟨false, input'⟩ l') l)
    (hgo : result.code ≠ .transportError → Q ⟨true, input⟩ l) :
    wp (ledgerEnv ok) (DeviceManager.endPass interface result input) Q l := by
  unfold DeviceManager.endPass
  by_cases htransport : result.code = .transportError
  · rw [if_pos htransport, wp_bind, wp_device]
    exact hstop htransport
  · rw [if_neg htransport]
    exact hgo htransport

/-- A pass over a device that is not started: it starts and is read, or the failure is reported. -/
lemma wp_runDevice {σ : Type} (m : DeviceManager) (interface : DeviceInterface σ) (w : Worker σ)
    {Q : Worker σ → Ledger → Prop}
    (hread : w.started = true → wp (ledgerEnv ok) (m.readInput interface w.input) Q l)
    (hstart : w.started = false → wp (deviceEnv ok) (interface.start w.input) (fun answer l' =>
      (answer.1 = none → wp (ledgerEnv ok) (m.readInput interface answer.2) Q l') ∧
      ∀ error, answer.1 = some error → ∀ reports charged,
        (m.errorHandler.isSome →
          reports = l'.reports ++ [((interface.getDeviceStatus answer.2).protocol, ({} : ProtocolErrorStats))]) →
        Q ⟨false, answer.2⟩ { l' with reports := reports, charged := charged }) l) :
    wp (ledgerEnv ok) (m.runDevice interface w) Q l := by
  unfold DeviceManager.runDevice
  cases hstarted : w.started with
  | true => exact hread hstarted
  | false =>
    rw [Bool.not_false, if_pos rfl, wp_bind, wp_device]
    apply wp_mono _ (hstart hstarted)
    rintro ⟨error, input⟩ l' ⟨hopened, hfailed⟩
    cases error with
    | none => exact hopened rfl
    | some error =>
      dsimp only
      rw [wp_bind]
      apply wp_callErrorHandler
      intro reports charged hreports
      rw [wp_bind]
      intro _ l'' hsleep
      obtain ⟨-, rfl⟩ := hsleep
      exact hfailed error rfl reports charged hreports

end

end EdgeGateway
