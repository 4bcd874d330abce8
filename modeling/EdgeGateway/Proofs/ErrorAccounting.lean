import EdgeGateway.Proofs.ErrorBooks
import EdgeGateway.Proofs.UartWorker

/-!
# Error accounting of the UART and CAN workers

Several workers run side by side, each on its own device. When none of them is in the middle of a pass,
the metrics agree with the devices' own error counts.
-/

namespace EdgeGateway
open CallTree

/-! ### The CAN worker -/

/-- The books of a CAN worker between two passes. -/
structure CanBooks (m : DeviceManager) (w : Worker CanDevice) (l : Ledger) : Prop where
  protocol : w.input.status.protocol = .socketCan
  errors : Booked m w.input.status 0 l
  sessions : l.sessions = []

lemma canBooks_new (m : DeviceManager) (interfaceName : Text) :
    CanBooks m { input := { interfaceName := interfaceName } } {} :=
  ⟨rfl, fun _ => rfl, rfl⟩

section

variable {ok : Ledger → (o : WorkerOp) → o.Ans → Prop} {m : DeviceManager} {d : CanDevice} {l : Ledger}

lemma wp_readInput_can (h : CanBooks m ⟨true, d⟩ l) :
    wp (ledgerEnv ok) (m.readInput CanDevice.interface d) (CanBooks m) l := by
  have hbooked : Booked m d.status 0 l := h.errors
  unfold DeviceManager.readInput
  rw [wp_bind, wp_device]
  apply wp_mono _ (CanDevice.wp_read h.protocol)
  rintro ⟨result, d'⟩ l' ⟨rfl, hresult⟩
  change wp _ (m.handleResult CanDevice.interface result d') _ l'
  apply wp_mono _ (hbooked.handle CanDevice.stopsQuietly hresult)
  rintro w l'' ⟨hprotocol, hbooked', hsessions, -⟩
  exact ⟨hprotocol.trans h.protocol, hbooked', hsessions.trans h.sessions⟩

/-- A pass keeps the books in order. -/
theorem wp_runDevice_can {w : Worker CanDevice} (h : CanBooks m w l) :
    wp (ledgerEnv ok) (m.runDevice CanDevice.interface w) (CanBooks m) l := by
  obtain ⟨started, d⟩ := w
  have hbooked : Booked m d.status 0 l := h.errors
  apply wp_runDevice
  · intro hstarted
    obtain rfl : started = true := hstarted
    exact wp_readInput_can h
  · intro _ answer l' hopen
    obtain ⟨-, rfl⟩ := hopen
    match answer with
    | some error =>
      refine ⟨nofun, ?_⟩
      intro error' _ reports charged hreports
      exact ⟨h.protocol, hbooked.startFailed rfl rfl hreports, h.sessions⟩
    | none =>
      refine ⟨fun _ => ?_, nofun⟩
      exact wp_readInput_can ⟨h.protocol, h.errors, h.sessions⟩

end

/-! ### Devices behind the interface -/

/-- `f` takes devices of one interface to devices of another that behave the same. -/
structure InterfaceMap {σ τ : Type} (I : DeviceInterface σ) (J : DeviceInterface τ) (f : σ → τ) : Prop where
  start : ∀ d, J.start (f d) = I.start d >>= fun r => pure (r.1, f r.2)
  stop : ∀ d, J.stop (f d) = I.stop d >>= fun d' => pure (f d')
  read : ∀ timeout d, J.read timeout (f d) = I.read timeout d >>= fun r => pure (r.1, f r.2)
  status : ∀ d, J.getDeviceStatus (f d) = I.getDeviceStatus d

lemma interfaceMap_uart : InterfaceMap UartDevice.interface Input.interface .uart :=
  ⟨fun _ => rfl, fun _ => rfl, fun _ _ => rfl, fun _ => rfl⟩

lemma interfaceMap_can : InterfaceMap CanDevice.interface Input.interface .can :=
  ⟨fun _ => rfl, fun _ => rfl, fun _ _ => rfl, fun _ => rfl⟩

section

variable {σ τ W : Type} {I : DeviceInterface σ} {J : DeviceInterface τ} {f : σ → τ}
  {R : Env workerSignature W} {w : W}

lemma wp_device_bind {α β : Type} (p : DeviceCall α) (k : α → DeviceCall β) (Q : β → W → Prop) :
    wp R (WorkerCall.device (p >>= k)) Q w ↔
      wp R (WorkerCall.device p) (fun r w' => wp R (WorkerCall.device (k r)) Q w') w := by
  rw [WorkerCall.device, Prog.embed_bind, wp_bind]
  rfl

lemma InterfaceMap.wp_handleResult (h : InterfaceMap I J f) (m : DeviceManager) (result : DeviceReadResult)
    (d : σ) {Q : Worker τ → W → Prop} :
    wp R (m.handleResult J result (f d)) Q w ↔
      wp R (m.handleResult I result d) (fun v w' => Q ⟨v.started, f v.input⟩ w') w := by
  unfold DeviceManager.handleResult DeviceManager.endPass
  simp only [wp_bind, h.status]
  by_cases htransport : result.code = .transportError
  · simp only [if_pos htransport, wp_bind, h.stop, wp_device_bind]
    rfl
  · simp only [if_neg htransport]
    rfl

lemma InterfaceMap.wp_readInput (h : InterfaceMap I J f) (m : DeviceManager) (d : σ)
    {Q : Worker τ → W → Prop} :
    wp R (m.readInput J (f d)) Q w ↔
      wp R (m.readInput I d) (fun v w' => Q ⟨v.started, f v.input⟩ w') w := by
  unfold DeviceManager.readInput
  rw [wp_bind, wp_bind, h.read, wp_device_bind]
  apply wp_congr
  rintro ⟨result, d'⟩ w'
  exact h.wp_handleResult m result d'

/-- A pass over a device behind the interface is the pass over the device. -/
theorem InterfaceMap.wp_runDevice (h : InterfaceMap I J f) (m : DeviceManager) (started : Bool) (d : σ)
    {Q : Worker τ → W → Prop} :
    wp R (m.runDevice J ⟨started, f d⟩) Q w ↔
      wp R (m.runDevice I ⟨started, d⟩) (fun v w' => Q ⟨v.started, f v.input⟩ w') w := by
  unfold DeviceManager.runDevice
  cases started with
  | true => exact h.wp_readInput m d
  | false =>
    rw [Bool.not_false, if_pos rfl, if_pos rfl, wp_bind, wp_bind, h.start, wp_device_bind]
    apply wp_congr
    rintro ⟨error, d'⟩ w'
    cases error with
    | none => exact h.wp_readInput m d'
    | some error =>
      change wp R (m.callErrorHandler (J.getDeviceStatus (f d')).protocol _ _ _ >>= _) _ w' ↔ _
      rw [h.status]
      simp only [wp_bind]
      rfl

end

/-- The books of a worker whose device is a UART or a CAN device. -/
def InputBooks (m : DeviceManager) (w : Worker Input) (l : Ledger) : Prop :=
  (∃ d, w.input = .uart d ∧ UartBooks m ⟨w.started, d⟩ l) ∨
  ∃ d, w.input = .can d ∧ CanBooks m ⟨w.started, d⟩ l

lemma wp_runDevice_input {ok : Ledger → (o : WorkerOp) → o.Ans → Prop} {m : DeviceManager}
    {w : Worker Input} {l : Ledger} (h : InputBooks m w l) :
    wp (ledgerEnv ok) (m.runDevice Input.interface w) (InputBooks m) l := by
  obtain ⟨started, input⟩ := w
  rcases h with ⟨d, rfl, h⟩ | ⟨d, rfl, h⟩
  · rw [interfaceMap_uart.wp_runDevice]
    apply wp_mono _ (wp_runDevice_uart h)
    exact fun v l' h' => .inl ⟨v.input, rfl, h'⟩
  · rw [interfaceMap_can.wp_runDevice]
    apply wp_mono _ (wp_runDevice_can h)
    exact fun v l' h' => .inr ⟨v.input, rfl, h'⟩

/-! ### The counters -/

def Input.status : Input → DeviceStatus :=
  Input.interface.getDeviceStatus

/-- The error count of a CAN device, and nothing of another one. -/
def Input.canErrors : Input → Nat
  | .can d => d.status.errorCount
  | _ => 0

lemma sum_invalidFrameCount (stats : List ProtocolErrorStats) :
    (stats.map ProtocolErrorStats.invalidFrameCount).sum =
      (stats.map ProtocolErrorStats.crcErrors).sum + (stats.map ProtocolErrorStats.lengthErrors).sum +
        (stats.map ProtocolErrorStats.genericErrors).sum := by
  induction stats with
  | nil => rfl
  | cons s stats ih =>
    simp only [List.map_cons, List.sum_cons, ih, ProtocolErrorStats.invalidFrameCount]
    omega

/-- What one worker added agrees with its device and its sessions. -/
lemma InputBooks.totals {interval : Int} {topicPrefix : Text} {w : Worker Input} {l : Ledger}
    (h : InputBooks (Gateway.deviceManager interval topicPrefix) w l) (hl : Entered topicPrefix l) :
    l.charged .protocolError = w.input.status.errorCount ∧
    l.added .canError = w.input.canErrors ∧
    l.added .framesInvalid = l.added .crcErrors + l.added .lengthErrors +
      (l.sessions.map sessionRejected).sum := by
  have hcan : ¬Counter.IsTcp .canError := by simp [Counter.IsTcp]
  have hframes : ¬Counter.IsTcp .framesInvalid := by simp [Counter.IsTcp]
  have hcrc : ¬Counter.IsTcp .crcErrors := by simp [Counter.IsTcp]
  have hlength : ¬Counter.IsTcp .lengthErrors := by simp [Counter.IsTcp]
  rw [hl.charged, hl.added_eq hcan (fun _ => rfl), hl.added_eq hframes (fun _ => rfl),
    hl.added_eq hcrc (fun _ => rfl), hl.added_eq hlength (fun _ => rfl)]
  rcases h with ⟨d, hd, h⟩ | ⟨d, hd, h⟩
  · obtain ⟨stats, hreports, hcount, hrejected⟩ := h.errors rfl
    rw [hd, hreports]
    simp only [List.map_map]
    refine ⟨hcount.symm, ?_, ?_⟩
    · change (stats.map (fun _ => 0)).sum = 0
      simp
    · rw [← hrejected]
      exact sum_invalidFrameCount stats
  · have hprotocol : d.status.protocol = .socketCan := h.protocol
    have hreports : l.reports = plainReports d.status.protocol d.status.errorCount := h.errors rfl
    have hsessions : l.sessions = [] := h.sessions
    rw [hd, hreports, hprotocol, hsessions]
    simp only [plainReports, List.map_replicate, List.sum_replicate]
    refine ⟨?_, ?_, ?_⟩
    · exact Nat.mul_one _
    · exact Nat.mul_one _
    · rfl

/-! ### All workers -/

def ledgerOf (h : List (Event workerSignature)) : Ledger :=
  h.foldl Ledger.note {}

/-- What a call adds to a counter, in either handler. -/
def eventAdds (c : Counter) : Event workerSignature → Nat
  | ⟨.inDataHandler (.record counter count), _⟩ => if c = counter then count else 0
  | ⟨.inErrorHandler (.record counter count), _⟩ => if c = counter then count else 0
  | _ => 0

/-- What a call adds to a counter in the error handler. -/
def eventCharges (c : Counter) : Event workerSignature → Nat
  | ⟨.inErrorHandler (.record counter count), _⟩ => if c = counter then count else 0
  | _ => 0

lemma note_amounts (l : Ledger) (e : Event workerSignature) (c : Counter) :
    (l.note e).charged c = l.charged c + eventCharges c e ∧
      (l.note e).added c = l.added c + eventAdds c e := by
  unfold Ledger.added
  obtain ⟨o, a⟩ := e
  cases o with
  | device o =>
    cases o with
    | openPort path baudRate => cases a <;> exact ⟨rfl, rfl⟩
    | readSome timeout => cases a <;> exact ⟨rfl, rfl⟩
    | _ => exact ⟨rfl, rfl⟩
  | inDataHandler o =>
    cases o with
    | record counter count => exact ⟨rfl, Nat.add_right_comm _ _ _⟩
    | _ => exact ⟨rfl, rfl⟩
  | inErrorHandler o =>
    cases o with
    | record counter count => exact ⟨rfl, (Nat.add_assoc _ _ _).symm⟩
    | _ => exact ⟨rfl, rfl⟩
  | _ => exact ⟨rfl, rfl⟩

lemma ledgerOf_amounts (h : List (Event workerSignature)) (c : Counter) :
    (ledgerOf h).charged c = (h.map (eventCharges c)).sum ∧
      (ledgerOf h).added c = (h.map (eventAdds c)).sum := by
  induction h using List.reverseRecOn with
  | nil => exact ⟨rfl, rfl⟩
  | append_singleton h e ih =>
    have hfold : ledgerOf (h ++ [e]) = (ledgerOf h).note e := by
      rw [ledgerOf, List.foldl_append]
      rfl
    have hnote := note_amounts (ledgerOf h) e c
    rw [hfold, hnote.1, hnote.2, ih.1, ih.2]
    simp

section

variable {ι : Type}

/-- The value of a counter after all workers made their calls. -/
def counterTotal (c : Counter) (h : List (ι × Event workerSignature)) : Nat :=
  (h.map (fun e => eventAdds c e.2)).sum

/-- The part of it that the error handler added. -/
def errorHandlerTotal (c : Counter) (h : List (ι × Event workerSignature)) : Nat :=
  (h.map (fun e => eventCharges c e.2)).sum

/-- Some UART and CAN devices, as constructed. -/
def FreshInputs (inputs : ι → Input) : Prop :=
  ∀ i, (∃ path baudRate, inputs i = .uart { path := path, baudRate := baudRate }) ∨
    ∃ interfaceName, inputs i = .can { interfaceName := interfaceName }

/-- The workers of the gateway before their first pass. -/
def startWorkers (inputs : ι → Input) : Pool ι workerSignature (Worker Input) :=
  ⟨fun i => .between { input := inputs i }, []⟩

variable [DecidableEq ι]

/-- The workers take turns in any way, and each call is answered in any way. -/
def WorkersStep (interval : Int) (topicPrefix : Text) :
    Pool ι workerSignature (Worker Input) → Pool ι workerSignature (Worker Input) → Prop :=
  Pool.Step (fun _ _ _ _ => True) (fun _ => (Gateway.deviceManager interval topicPrefix).runDevice Input.interface)

/-- Between two passes of a worker its books are in order. -/
lemma workers_books {interval : Int} {topicPrefix : Text} {inputs : ι → Input} (hfresh : FreshInputs inputs)
    {P : Pool ι workerSignature (Worker Input)}
    (hrun : Relation.ReflTransGen (WorkersStep interval topicPrefix) (startWorkers inputs) P)
    {i : ι} {w : Worker Input} (hidle : P.thread i = .between w) :
    InputBooks (Gateway.deviceManager interval topicPrefix) w (ledgerOf (Pool.own i P.history)) ∧
      Entered topicPrefix (ledgerOf (Pool.own i P.history)) := by
  have hprogress := Pool.progress _ _ (fun i => ({ input := inputs i } : Worker Input)) (fun _ => rfl) rfl hrun i
  rw [hidle] at hprogress
  have hloop : Loop (ledgerEnv (fun _ _ _ => True))
      ((Gateway.deviceManager interval topicPrefix).runDevice Input.interface) { input := inputs i } {}
      w (ledgerOf (Pool.own i P.history)) :=
    Loop.observe (fun _ _ _ _ => trivial) hprogress
  constructor
  · apply hloop.invariant (fun _ _ h => wp_runDevice_input h)
    rcases hfresh i with ⟨path, baudRate, hi⟩ | ⟨interfaceName, hi⟩
    · rw [hi]
      exact .inl ⟨_, rfl, uartBooks_new _ path baudRate⟩
    · rw [hi]
      exact .inr ⟨_, rfl, canBooks_new _ interfaceName⟩
  · exact hloop.invariant (J := fun _ l => Entered topicPrefix l)
      (fun v _ h => h.runDevice Input.interface v) (entered_empty topicPrefix)

variable [Fintype ι]

/-- When no worker is inside a pass, the counters agree with the error counts of the devices, and every
invalid frame has a bad checksum, a bad length or a payload that was rejected. -/
theorem uart_can_errors_agree (interval : Int) (topicPrefix : Text) (inputs : ι → Input)
    (hfresh : FreshInputs inputs) (P : Pool ι workerSignature (Worker Input))
    (hrun : Relation.ReflTransGen (WorkersStep interval topicPrefix) (startWorkers inputs) P)
    (w : ι → Worker Input) (hidle : ∀ i, P.thread i = .between (w i)) :
    errorHandlerTotal .protocolError P.history = ∑ i, (w i).input.status.errorCount ∧
    counterTotal .canError P.history = ∑ i, (w i).input.canErrors ∧
    counterTotal .framesInvalid P.history =
      counterTotal .crcErrors P.history + counterTotal .lengthErrors P.history +
        ∑ i, ((ledgerOf (Pool.own i P.history)).sessions.map sessionRejected).sum := by
  have htotals := fun i => (workers_books hfresh hrun (hidle i)).1.totals (workers_books hfresh hrun (hidle i)).2
  have hadded : ∀ c, counterTotal c P.history = ∑ i, (ledgerOf (Pool.own i P.history)).added c := by
    intro c
    rw [counterTotal, ← Pool.sum_own]
    exact Finset.sum_congr rfl (fun i _ => (ledgerOf_amounts _ c).2.symm)
  have hcharged : errorHandlerTotal .protocolError P.history =
      ∑ i, (ledgerOf (Pool.own i P.history)).charged .protocolError := by
    rw [errorHandlerTotal, ← Pool.sum_own]
    exact Finset.sum_congr rfl (fun i _ => (ledgerOf_amounts _ _).1.symm)
  refine ⟨?_, ?_, ?_⟩
  · rw [hcharged]
    exact Finset.sum_congr rfl (fun i _ => (htotals i).1)
  · rw [hadded]
    exact Finset.sum_congr rfl (fun i _ => (htotals i).2.1)
  · rw [hadded, hadded, hadded, ← Finset.sum_add_distrib, ← Finset.sum_add_distrib]
    exact Finset.sum_congr rfl (fun i _ => (htotals i).2.2)

end

/-- A UART device and a CAN device. -/
def twoInputs : Bool → Input
  | true => .uart { path := ascii "/dev/ttyUSB0", baudRate := 115200 }
  | false => .can { interfaceName := ascii "can0" }

lemma freshInputs_two : FreshInputs twoInputs
  | true => .inl ⟨_, _, rfl⟩
  | false => .inr ⟨_, rfl⟩

/-- Ninety degrees, five above the range. -/
def hotReport : WireFrame where
  cmd := 1
  deviceId := 7
  payload := [3, 132, 1, 199, 0, 120, 14, 116, 0, 0, 2]
  payload_le := by simp

/-- A frame with a wrong checksum, a header with a length that is too long, a reading out of range and a good one. -/
def faultyBytes : List UInt8 :=
  (sensorReport 1).encode.dropLast ++ [0] ++ [0xAA, 0x55, 0xFF] ++ hotReport.encode ++ (sensorReport 3).encode

/-- The line delivers these bytes. The interface `can0` is missing at first, then it receives error frames. -/
def faultyInputs (l : Ledger) : (o : WorkerOp) → Option o.Ans
  | .device (.openPort _ _) => some none
  | .device (.readSome _) => some (.ok (if l.sessions = [[]] then faultyBytes else []))
  | .device (.openCan _) => some (if l.reports = [] then some (ascii "no such interface") else none)
  | .device (.receiveCan _) => some (.received ⟨canErrFlag, 8, #v[0, 0, 0, 0, 0, 0, 0, 0]⟩)
  | .device .unixSeconds => some (1700000000 : Nat)
  | .sleepFor _ => some ()
  | .handleData _ _ => some ()
  | .handleError _ _ _ _ => some ()
  | .inDataHandler (.publish _ _) => some ([] : List PublishOutcome)
  | .inDataHandler (.record _ _) => some ()
  | .inDataHandler (.log _ _ _) => some ()
  | .inErrorHandler (.record _ _) => some ()
  | .inErrorHandler (.log _ _ _) => some ()
  | _ => none

/-- The two workers take turns call by call, for two passes each. -/
def faultyRun : Option (Pool Bool workerSignature (Worker Input)) :=
  Pool.follow (fun _ => (Gateway.deviceManager 3 (ascii "gateway")).runDevice Input.interface)
    (fun _ h => faultyInputs (ledgerOf h)) ((List.replicate 16 [true, false]).flatten ++ [true, true])
    (startWorkers twoInputs)

theorem uart_can_errors_agree_faulty :
    ∃ (P : Pool Bool workerSignature (Worker Input)) (w : Bool → Worker Input),
      Relation.ReflTransGen (WorkersStep 3 (ascii "gateway")) (startWorkers twoInputs) P ∧
      (∀ i, P.thread i = .between (w i)) ∧
      errorHandlerTotal .protocolError P.history = 5 ∧ counterTotal .canError P.history = 2 ∧
      counterTotal .framesInvalid P.history = 3 ∧ counterTotal .crcErrors P.history = 1 ∧
      counterTotal .lengthErrors P.history = 1 ∧
      errorHandlerTotal .protocolError P.history = ∑ i, (w i).input.status.errorCount ∧
      counterTotal .canError P.history = ∑ i, (w i).input.canErrors ∧
      counterTotal .framesInvalid P.history =
        counterTotal .crcErrors P.history + counterTotal .lengthErrors P.history +
          ∑ i, ((ledgerOf (Pool.own i P.history)).sessions.map sessionRejected).sum := by
  have hresult : faultyRun.map (fun P => (((P.thread true).rest?.isSome, (P.thread false).rest?.isSome),
      (errorHandlerTotal .protocolError P.history, counterTotal .canError P.history),
      (counterTotal .framesInvalid P.history, counterTotal .crcErrors P.history,
        counterTotal .lengthErrors P.history))) = some ((true, true), (5, 2), (3, 1, 1)) := by
    decide +kernel
  obtain ⟨P, hfollow, hcounts⟩ := Option.map_eq_some_iff.mp hresult
  simp only [Prod.mk.injEq] at hcounts
  obtain ⟨⟨huart, hcan⟩, ⟨hprotocol, hcanError⟩, hinvalid, hcrc, hlength⟩ := hcounts
  obtain ⟨uart, huart⟩ := Option.isSome_iff_exists.mp huart
  obtain ⟨can, hcan⟩ := Option.isSome_iff_exists.mp hcan
  have hrun : Relation.ReflTransGen (WorkersStep 3 (ascii "gateway")) (startWorkers twoInputs) P :=
    Pool.run_of_follow (fun _ _ _ _ _ => trivial) hfollow
  have hidle : ∀ i, P.thread i = .between (if i then uart else can)
    | true => Thread.eq_between huart
    | false => Thread.eq_between hcan
  exact ⟨P, _, hrun, hidle, hprotocol, hcanError, hinvalid, hcrc, hlength,
    uart_can_errors_agree 3 (ascii "gateway") twoInputs freshInputs_two P hrun _ hidle⟩

end EdgeGateway
