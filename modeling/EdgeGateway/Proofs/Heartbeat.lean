import EdgeGateway.Proofs.AcceptedConfigs

/-!
# The heartbeat window and the poll interval

A Modbus device whose port opens at once and whose polls are answered without delay. Its last update gets
as old as the poll interval, and the manager compares it with a window that is configured elsewhere. Here
time passes only while the worker sleeps, and for as long as it asks to.
-/

namespace EdgeGateway
open CallTree

def nanosecondsPerSecond : Nat := 1000000000

/-- The world of a healthy device. -/
structure HealthyWorld where
  /-- The system clock, in nanoseconds since the epoch. -/
  clock : Nat
  /-- The bytes of the response that have not been read yet. -/
  remaining : List UInt8
  /-- The readings handed to the data handler so far. -/
  readings : Nat

/-- The steady clock goes with the system clock, `boot` behind it. Each request is answered by a normal
response with as many registers as it asks for. -/
def healthyEnv (boot : Int) (request : Modbus.ReadRequest) : Env workerSignature HealthyWorld := fun w o =>
  match o with
  | .device (.openPort _ _) => fun (error : Option Text) w' => error = none ∧ w' = w
  | .device .steadyNow => fun (now : Int) w' => now = w.clock - boot ∧ w' = w
  | .device .unixSeconds => fun (now : Nat) w' => now = w.clock / nanosecondsPerSecond ∧ w' = w
  | .device (.sleepFor milliseconds) => fun _ w' =>
      w' = { w with clock := w.clock + (milliseconds * nanosecondsPerMillisecond).toNat }
  | .device .discardInput => fun (error : Option Text) w' => error = none ∧ w' = w
  | .device (.writeAll _) => fun (error : Option Text) w' => error = none ∧
      ∃ registers : List UInt16, registers.length = request.registerCount.toNat ∧
        w' = { w with remaining := Modbus.normalResponse request.slaveId request.function registers }
  | .device (.readSome _) => fun (answer : Except Text (List UInt8)) w' =>
      ∃ piece rest, answer = .ok piece ∧ w.remaining = piece ++ rest ∧ (w.remaining ≠ [] → piece ≠ []) ∧
        w' = { w with remaining := rest }
  | .sleepFor seconds => fun _ w' => w' = { w with clock := w.clock + seconds.toNat * nanosecondsPerSecond }
  | .handleData _ _ => fun _ w' => w' = { w with readings := w.readings + 1 }
  | _ => fun _ w' => w' = w

section

variable {boot : Int} {request : Modbus.ReadRequest} {w : HealthyWorld}

lemma healthyEnv_answers (w : HealthyWorld) (o : WorkerOp) (h : ¬IsTerminate o) :
    ∃ a w', healthyEnv boot request w o a w' := by
  obtain ⟨a⟩ := exists_answer h
  unfold healthyEnv
  split
  · exact ⟨(none : Option Text), w, rfl, rfl⟩
  · exact ⟨(w.clock - boot : Int), w, rfl, rfl⟩
  · exact ⟨(w.clock / nanosecondsPerSecond : Nat), w, rfl, rfl⟩
  · exact ⟨(), _, rfl⟩
  · exact ⟨(none : Option Text), w, rfl, rfl⟩
  · exact ⟨(none : Option Text), _, rfl, List.replicate request.registerCount.toNat 0, List.length_replicate, rfl⟩
  · exact ⟨(Except.ok w.remaining : Except Text (List UInt8)), _, w.remaining, [], rfl, (List.append_nil _).symm,
      id, rfl⟩
  · exact ⟨(), _, rfl⟩
  · exact ⟨(), _, rfl⟩
  · exact ⟨a, w, rfl⟩

/-- The slave supplies its response while the clock stands still. -/
lemma supplies_healthyEnv (w₀ : HealthyWorld) {deadline : Int} {response : List UInt8}
    (hdeadline : (w₀.clock : Int) - boot < deadline) :
    ModbusDevice.Supplies (onDevice (healthyEnv boot request)) deadline response
      (fun received w => w.clock = w₀.clock ∧ w.readings = w₀.readings ∧ received ++ w.remaining = response) where
  clock := by
    rintro received w w' now ⟨hclock, hrest⟩ ⟨rfl, rfl⟩
    refine ⟨?_, hclock, hrest⟩
    rw [hclock]
    exact hdeadline
  bytes := by
    rintro received w w' wait answer ⟨hclock, hreadings, hrest⟩ - hless ⟨piece, rest, rfl, hpiece, hsome, rfl⟩
    have hmissing : w.remaining ≠ [] := by
      intro hnone
      rw [hnone, List.append_nil] at hrest
      rw [hrest] at hless
      omega
    obtain ⟨byte, bytes, rfl⟩ := List.exists_cons_of_ne_nil (hsome hmissing)
    rw [hpiece, ← List.append_assoc] at hrest
    exact ⟨byte, bytes, rfl, ⟨rest, hrest⟩, hclock, hreadings, hrest⟩

/-! ### One call of `read` -/

/-- The status after a reading at some time of the system clock. -/
def DeviceStatus.updated (status : DeviceStatus) (clock : Nat) : DeviceStatus :=
  { status with online := true, lastUpdateUnixSeconds := clock / nanosecondsPerSecond }

lemma ModbusDevice.wp_decode_healthyEnv {d : ModbusDevice} {registers : List UInt16}
    (hcount : registers.length = d.options.request.registerCount.toNat) (hbound : registers.length ≤ 125) :
    wp (onDevice (healthyEnv boot request))
      (d.decode (Modbus.normalResponse d.options.request.slaveId d.options.request.function registers))
      (fun answer w' => w' = w ∧ answer.2.options = d.options ∧ answer.1.code ≠ .transportError ∧
        (6 ≤ registers.length → (∃ data, answer.1 = { code := .data, data := some data }) ∧
          answer.2 = { d with status := d.status.updated w.clock }) ∧
        (registers.length < 6 → handed answer.1 = [])) w := by
  unfold decode
  dsimp only
  rw [Modbus.parseReadResponse_normalResponse hcount (by omega), if_neg (not_not.mpr rfl)]
  have hsix := Modbus.registersToDeviceData_isOk registers d.options.request.slaveId
  cases hmap : Modbus.registersToDeviceData { status := .ok, registers := registers } d.options.request.slaveId with
  | error error =>
    have hfew : ¬6 ≤ registers.length := by
      rw [← hsix, hmap]
      rintro ⟨data, hdata⟩
      cases hdata
    exact ⟨rfl, rfl, nofun, fun h => absurd h hfew, fun _ => rfl⟩
  | ok data =>
    have hmany : 6 ≤ registers.length := hsix.mp ⟨data, hmap⟩
    rintro now w' ⟨rfl, rfl⟩
    exact ⟨rfl, rfl, nofun, fun _ => ⟨⟨_, rfl⟩, rfl⟩, fun h => absurd hmany (by omega)⟩

/-- A poll takes no time. It gives a reading if the request covers the register map. -/
lemma ModbusDevice.wp_poll_healthyEnv {d : ModbusDevice} (hbound : d.options.request.registerCount.toNat ≤ 125)
    (htimeout : 1 ≤ d.options.responseTimeoutMs) :
    wp (onDevice (healthyEnv boot d.options.request)) d.poll
      (fun answer w' => w'.clock = w.clock ∧ w'.readings = w.readings ∧ answer.2.options = d.options ∧
        answer.1.code ≠ .transportError ∧
        (6 ≤ d.options.request.registerCount.toNat → (∃ data, answer.1 = { code := .data, data := some data }) ∧
          answer.2 = { d with status := d.status.updated w.clock }) ∧
        (d.options.request.registerCount.toNat < 6 → handed answer.1 = [])) w := by
  intro discarded w₁ hdiscarded
  obtain ⟨hnone, hw₁⟩ := hdiscarded
  obtain rfl : discarded = none := hnone
  obtain rfl : w₁ = w := hw₁
  intro written w₂ hwritten
  obtain ⟨hnone, registers, hcount, hw₂⟩ := hwritten
  obtain rfl : written = none := hnone
  intro now w₃ hnow
  obtain ⟨hnow, hw₃⟩ := hnow
  obtain rfl : w₃ = w₂ := hw₃
  have hclock : w₃.clock = w₁.clock := by rw [hw₂]
  have hdeadline : (w₃.clock : Int) - boot < now + d.options.responseTimeoutMs * nanosecondsPerMillisecond := by
    have hnow : now = (w₃.clock : Int) - boot := hnow
    unfold nanosecondsPerMillisecond
    omega
  change wp _ (collectResponse (now + d.options.responseTimeoutMs * nanosecondsPerMillisecond) [] _ >>= _) _ _
  rw [wp_bind]
  rw [← hcount] at hbound
  apply wp_mono _ (wp_collectResponse_normal d.options.request.slaveId d.options.request.function hbound
    (supplies_healthyEnv w₃ hdeadline) ⟨rfl, rfl, by rw [hw₂]; rfl⟩)
  rintro answer w₄ ⟨rfl, hclock₄, hreadings₄, -⟩
  apply wp_mono _ (ModbusDevice.wp_decode_healthyEnv hcount hbound)
  rintro answer w₅ ⟨rfl, hoptions, hcode, hreading, hnothing⟩
  rw [hclock₄, hclock, hcount] at hreading
  rw [hcount] at hnothing
  exact ⟨hclock₄.trans hclock, by rw [hreadings₄, hw₂], hoptions, hcode, hreading, hnothing⟩

/-- Before its next poll is due the device sleeps. -/
lemma ModbusDevice.wp_read_early {d : ModbusDevice} {timeout : Int} (hearly : (w.clock : Int) - boot < d.nextPoll) :
    wp (onDevice (healthyEnv boot request)) (d.read timeout) (fun answer w' => answer = ({}, d) ∧
      w' = { w with clock := w.clock + (min timeout (durationCastMilliseconds (d.nextPoll - (w.clock - boot))) *
        nanosecondsPerMillisecond).toNat }) w := by
  intro now w₁ hnow
  obtain ⟨hnow, hw₁⟩ := hnow
  obtain rfl : now = (w.clock : Int) - boot := hnow
  obtain rfl : w₁ = w := hw₁
  change wp _ (ite _ _ _) _ _
  rw [if_pos hearly]
  intro _ w₂ hsleep
  exact ⟨rfl, hsleep⟩

/-! ### One pass of the worker -/

lemma wp_inDataHandler_healthyEnv {α : Type} (p : Prog handlerSignature α) :
    wp (healthyEnv boot request) (WorkerCall.inDataHandler p) (fun _ w' => w' = w) w := by
  induction p with
  | ret r => rfl
  | call o k ih =>
    rintro a w' rfl
    exact ih a

lemma wp_inErrorHandler_healthyEnv {α : Type} (p : Prog handlerSignature α) :
    wp (healthyEnv boot request) (WorkerCall.inErrorHandler p) (fun _ w' => w' = w) w := by
  induction p with
  | ret r => rfl
  | call o k ih =>
    rintro a w' rfl
    exact ih a

variable {m : DeviceManager}

lemma wp_handOver_healthyEnv (hhandler : m.dataHandler.isSome) (result : DeviceReadResult) (protocol : ProtocolType) :
    wp (healthyEnv boot request) (m.handOver result protocol)
      (fun _ w' => w' = { w with readings := w.readings + (handed result).length }) w := by
  obtain ⟨code, data, error, stats⟩ := result
  obtain ⟨handler, hset⟩ := Option.isSome_iff_exists.mp hhandler
  cases code with
  | data =>
    cases data with
    | some data =>
      change wp _ (m.callDataHandler data protocol) _ _
      unfold DeviceManager.callDataHandler
      rw [hset]
      rintro a w' rfl
      exact wp_inDataHandler_healthyEnv _
    | none => rfl
  | timeout => rfl
  | protocolError => rfl
  | transportError => rfl

lemma wp_report_healthyEnv (result : DeviceReadResult) (protocol : ProtocolType) :
    wp (healthyEnv boot request) (m.report result protocol) (fun _ w' => w' = w) w := by
  unfold DeviceManager.report DeviceManager.callErrorHandler
  split
  · cases m.errorHandler with
    | none => rfl
    | some handler =>
      rintro a w' rfl
      exact wp_inErrorHandler_healthyEnv _
  · rfl

/-- What a worker does with a result that is no transport error. -/
lemma wp_handleResult_healthyEnv (hhandler : m.dataHandler.isSome) {result : DeviceReadResult} {d : ModbusDevice}
    (hcode : result.code ≠ .transportError) :
    wp (healthyEnv boot request) (m.handleResult ModbusDevice.interface result d)
      (fun v' w' => v' = ⟨true, d⟩ ∧ w' = { w with readings := w.readings + (handed result).length }) w := by
  unfold DeviceManager.handleResult
  rw [wp_bind]
  apply wp_mono _ (wp_handOver_healthyEnv hhandler result _)
  rintro _ w₁ rfl
  rw [wp_bind]
  apply wp_mono _ (wp_report_healthyEnv result _)
  rintro _ w₂ rfl
  unfold DeviceManager.endPass
  rw [if_neg hcode]
  exact ⟨rfl, rfl⟩

/-- A pass over a started device before the next poll is due. -/
lemma wp_readInput_early (hhandler : m.dataHandler.isSome) {d : ModbusDevice}
    (hearly : (w.clock : Int) - boot < d.nextPoll) :
    wp (healthyEnv boot request) (m.readInput ModbusDevice.interface d) (fun v' w' => v' = ⟨true, d⟩ ∧
      w' = { w with clock := w.clock + (min 250 (durationCastMilliseconds (d.nextPoll - (w.clock - boot))) *
        nanosecondsPerMillisecond).toNat }) w := by
  unfold DeviceManager.readInput
  rw [wp_bind, wp_onDevice]
  apply wp_mono _ (ModbusDevice.wp_read_early hearly)
  rintro _ w₁ ⟨rfl, rfl⟩
  have hcode : ({} : DeviceReadResult).code ≠ .transportError := nofun
  apply wp_mono _ (wp_handleResult_healthyEnv hhandler hcode)
  exact fun _ _ h => h

/-- The state of the device after a poll. -/
structure Polled (d : ModbusDevice) (boot : Int) (w : HealthyWorld) (v' : Worker ModbusDevice) (w' : HealthyWorld) :
    Prop where
  started : v'.started = true
  options : v'.input.options = d.options
  clock : w'.clock = w.clock
  reading : 6 ≤ d.options.request.registerCount.toNat →
    w'.readings = w.readings + 1 ∧ v'.input.status = d.status.updated w.clock ∧
    v'.input.nextPoll = w.clock - boot + d.options.pollIntervalMs * nanosecondsPerMillisecond
  nothing : d.options.request.registerCount.toNat < 6 → w'.readings = w.readings

/-- A pass over a started device that is due. -/
lemma wp_readInput_due (hhandler : m.dataHandler.isSome) {d : ModbusDevice}
    (hbound : d.options.request.registerCount.toNat ≤ 125) (htimeout : 1 ≤ d.options.responseTimeoutMs)
    (hdue : d.nextPoll ≤ (w.clock : Int) - boot) :
    wp (healthyEnv boot d.options.request) (m.readInput ModbusDevice.interface d) (Polled d boot w) w := by
  unfold DeviceManager.readInput
  rw [wp_bind, wp_onDevice]
  intro now w₁ hnow
  obtain ⟨hnow, hw₁⟩ := hnow
  obtain rfl : now = (w.clock : Int) - boot := hnow
  obtain rfl : w₁ = w := hw₁
  change wp _ (ite _ _ _) _ _
  rw [if_neg (not_lt.mpr hdue)]
  apply wp_mono _ (ModbusDevice.wp_poll_healthyEnv
    (d := { d with nextPoll := w₁.clock - boot + d.options.pollIntervalMs * nanosecondsPerMillisecond })
    hbound htimeout)
  rintro ⟨result, d'⟩ w₂ ⟨hclock, hreadings, hoptions, hcode, hreading, hnothing⟩
  apply wp_mono _ (wp_handleResult_healthyEnv hhandler hcode)
  rintro _ w₃ ⟨rfl, rfl⟩
  refine ⟨rfl, hoptions, hclock, ?_, ?_⟩
  · intro hsix
    obtain ⟨⟨data, rfl⟩, rfl⟩ := hreading hsix
    exact ⟨by rw [← hreadings]; rfl, rfl, rfl⟩
  · intro hfew
    rw [hnothing hfew, ← hreadings]
    rfl

/-- The first pass opens the port and polls. -/
lemma wp_runDevice_first (hhandler : m.dataHandler.isSome) {d : ModbusDevice}
    (hbound : d.options.request.registerCount.toNat ≤ 125) (htimeout : 1 ≤ d.options.responseTimeoutMs) :
    wp (healthyEnv boot d.options.request) (m.runDevice ModbusDevice.interface ⟨false, d⟩)
      (Polled (d.setOnline true) boot w) w := by
  unfold DeviceManager.runDevice
  rw [Bool.not_false, if_pos rfl, wp_bind, wp_onDevice]
  intro opened w₁ hopened
  obtain ⟨hnone, hw₁⟩ := hopened
  obtain rfl : opened = none := hnone
  obtain rfl : w₁ = w := hw₁
  intro now w₂ hnow
  obtain ⟨hnow, hw₂⟩ := hnow
  obtain rfl : now = (w₁.clock : Int) - boot := hnow
  obtain rfl : w₂ = w₁ := hw₂
  change wp _ (m.readInput ModbusDevice.interface ({ d with nextPoll := w₂.clock - boot }.setOnline true)) _ _
  have hdue := wp_readInput_due (d := ModbusDevice.setOnline { d with nextPoll := w₂.clock - boot } true) hhandler
    hbound htimeout (le_refl _)
  apply wp_mono _ hdue
  rintro v' w' hpolled
  exact ⟨hpolled.started, hpolled.options, hpolled.clock, hpolled.reading, hpolled.nothing⟩

/-! ### Whole runs -/

/-- The device was last polled at `polled` and gave a reading. The next poll is a whole number of milliseconds
away. -/
structure Beating (options : ModbusDeviceOptions) (boot : Int) (polled : Nat) (v : Worker ModbusDevice)
    (w : HealthyWorld) : Prop where
  started : v.started = true
  unchanged : v.input.options = options
  online : v.input.status.online = true
  lastUpdate : v.input.status.lastUpdateUnixSeconds = polled / nanosecondsPerSecond
  nextPoll : v.input.nextPoll = polled - boot + options.pollIntervalMs * nanosecondsPerMillisecond
  since : polled ≤ w.clock
  ahead : ∃ k : Nat, (w.clock : Int) + k * nanosecondsPerMillisecond =
    polled + options.pollIntervalMs * nanosecondsPerMillisecond

lemma Polled.beating {d : ModbusDevice} {v : Worker ModbusDevice} {w' : HealthyWorld} (h : Polled d boot w v w')
    (hsix : 6 ≤ d.options.request.registerCount.toNat) (hinterval : 1 ≤ d.options.pollIntervalMs) :
    Beating d.options boot w.clock v w' := by
  obtain ⟨-, hstatus, hnext⟩ := h.reading hsix
  refine ⟨h.started, h.options, by rw [hstatus]; rfl, by rw [hstatus]; rfl, hnext, h.clock.ge, ?_⟩
  refine ⟨d.options.pollIntervalMs.toNat, ?_⟩
  rw [h.clock, Int.toNat_of_nonneg (by omega)]

/-- A pass over a started device. -/
lemma runDevice_started {v : Worker ModbusDevice} (h : v.started = true) :
    m.runDevice ModbusDevice.interface v = m.readInput ModbusDevice.interface v.input := by
  unfold DeviceManager.runDevice
  rw [h]
  rfl

namespace Beating

variable {options : ModbusDeviceOptions} {polled : Nat} {v : Worker ModbusDevice}

/-- Before the next poll is due, the device sleeps for at most 250 milliseconds and does not oversleep. -/
lemma wp_early (hhandler : m.dataHandler.isSome) (h : Beating options boot polled v w) {k : Nat} (hk : 0 < k)
    (hahead : (w.clock : Int) + k * nanosecondsPerMillisecond =
      polled + options.pollIntervalMs * nanosecondsPerMillisecond) :
    wp (healthyEnv boot request) (m.runDevice ModbusDevice.interface v) (fun v' w' => v' = v ∧
      w' = { w with clock := w.clock + min 250 k * 1000000 }) w := by
  have hnext := h.nextPoll
  have hwait : v.input.nextPoll - (w.clock - boot) = k * nanosecondsPerMillisecond := by omega
  have hearly : (w.clock : Int) - boot < v.input.nextPoll := by
    unfold nanosecondsPerMillisecond at hwait
    omega
  have hmilliseconds : durationCastMilliseconds (v.input.nextPoll - (w.clock - boot)) = k := by
    rw [hwait]
    exact Int.mul_tdiv_cancel _ (by decide)
  rw [runDevice_started h.started]
  apply wp_mono _ (wp_readInput_early hhandler hearly)
  rintro v' w' ⟨rfl, rfl⟩
  have hsleep : (min 250 (k : Int) * nanosecondsPerMillisecond).toNat = min 250 k * 1000000 := by
    unfold nanosecondsPerMillisecond
    omega
  rw [hmilliseconds, hsleep]
  exact ⟨by rw [← h.started], rfl⟩

/-- Sleeping brings the next poll closer. -/
lemma slept (h : Beating options boot polled v w) {k : Nat}
    (hahead : (w.clock : Int) + k * nanosecondsPerMillisecond =
      polled + options.pollIntervalMs * nanosecondsPerMillisecond) :
    Beating options boot polled v { w with clock := w.clock + min 250 k * 1000000 } := by
  have hsince := h.since
  refine ⟨h.started, h.unchanged, h.online, h.lastUpdate, h.nextPoll, by dsimp only; omega, k - min 250 k, ?_⟩
  rw [← hahead]
  unfold nanosecondsPerMillisecond
  dsimp only
  omega

/-- A pass keeps the device going. At its end the poll before it is no older than the poll interval. -/
lemma wp_pass (hhandler : m.dataHandler.isSome) (hsix : 6 ≤ options.request.registerCount.toNat)
    (hbound : options.request.registerCount.toNat ≤ 125) (htimeout : 1 ≤ options.responseTimeoutMs)
    (hinterval : 1 ≤ options.pollIntervalMs) (h : Beating options boot polled v w) :
    wp (healthyEnv boot options.request) (m.runDevice ModbusDevice.interface v) (fun v' w' =>
      (w'.clock : Int) ≤ polled + options.pollIntervalMs * nanosecondsPerMillisecond ∧
      ∃ polled', polled ≤ polled' ∧ Beating options boot polled' v' w') w := by
  obtain ⟨k, hahead⟩ := h.ahead
  rcases Nat.eq_zero_or_pos k with rfl | hk
  · have hnext := h.nextPoll
    have hdue : v.input.nextPoll ≤ (w.clock : Int) - boot := by omega
    obtain rfl := h.unchanged
    rw [runDevice_started h.started]
    apply wp_mono _ (wp_readInput_due hhandler hbound htimeout hdue)
    intro v' w' hpolled
    have hclock := hpolled.clock
    exact ⟨by omega, w.clock, h.since, hpolled.beating hsix hinterval⟩
  · apply wp_mono _ (h.wp_early hhandler hk hahead)
    rintro v' w' ⟨rfl, rfl⟩
    have hslept := h.slept hahead
    refine ⟨?_, polled, le_refl _, hslept⟩
    obtain ⟨rest, hrest⟩ := hslept.ahead
    unfold nanosecondsPerMillisecond at hrest ⊢
    omega

end Beating

/-- Every pass over the device is completed. -/
lemma exists_pass (v : Worker ModbusDevice) (w : HealthyWorld) :
    ∃ v' w', Exec (healthyEnv boot request) (m.runDevice ModbusDevice.interface v) w v' w' := by
  have hstop : ∀ d : ModbusDevice, d.stop.Avoids DeviceTerminates := fun _ => ⟨id, fun _ => trivial⟩
  have hread : ∀ d : ModbusDevice, (m.readInput ModbusDevice.interface d).Avoids IsTerminate :=
    fun d => readInput_avoids m (d.read_avoids 250) hstop
  have hall : (m.runDevice ModbusDevice.interface v).Avoids IsTerminate := by
    obtain ⟨started, d⟩ := v
    cases started with
    | true => exact hread d
    | false =>
      have hstart : d.start.Avoids DeviceTerminates := by
        refine ⟨id, fun opened => ?_⟩
        match opened with
        | some error => trivial
        | none => exact ⟨id, fun _ => trivial⟩
      apply Prog.avoids_bind (device_avoids hstart)
      rintro ⟨error, d'⟩
      cases error with
      | none => exact hread d'
      | some error =>
        apply Prog.avoids_bind
        · unfold DeviceManager.callErrorHandler
          cases m.errorHandler with
          | none => trivial
          | some handler => exact ⟨id, fun _ => Prog.avoids_embed (Prog.avoids_of_forall (fun _ => id) _)⟩
        · exact fun _ => ⟨id, fun _ => trivial⟩
  exact exists_exec healthyEnv_answers hall w

/-- The run of the worker from its beginning. -/
abbrev HealthyRun (m : DeviceManager) (options : ModbusDeviceOptions) (boot : Int) (w₀ : HealthyWorld) :
    Worker ModbusDevice → HealthyWorld → Prop :=
  Loop (healthyEnv boot options.request) (m.runDevice ModbusDevice.interface) { input := { options := options } } w₀

section

variable {options : ModbusDeviceOptions} {w₀ : HealthyWorld}

/-- A run can go on until the next poll is due. -/
lemma Beating.exists_due (hhandler : m.dataHandler.isSome) {polled : Nat} {v : Worker ModbusDevice}
    (hrun : HealthyRun m options boot w₀ v w) (h : Beating options boot polled v w) :
    ∃ w', HealthyRun m options boot w₀ v w' ∧ Beating options boot polled v w' ∧ w'.readings = w.readings ∧
      (w'.clock : Int) = polled + options.pollIntervalMs * nanosecondsPerMillisecond := by
  obtain ⟨k, hahead⟩ := h.ahead
  induction k using Nat.strongRecOn generalizing w with
  | _ k ih =>
    rcases Nat.eq_zero_or_pos k with rfl | hk
    · exact ⟨w, hrun, h, rfl, by omega⟩
    · obtain ⟨v', w', hexec⟩ := exists_pass v w
      obtain ⟨hv, hw⟩ := (wp_iff_exec _ _ _ _).mp (h.wp_early hhandler hk hahead) v' w' hexec
      obtain rfl : v' = v := hv
      have hslept := h.slept hahead
      rw [← hw] at hslept
      have hcloser : (w'.clock : Int) + (k - min 250 k : Nat) * nanosecondsPerMillisecond =
          polled + options.pollIntervalMs * nanosecondsPerMillisecond := by
        rw [← hahead, hw]
        unfold nanosecondsPerMillisecond
        dsimp only
        omega
      obtain ⟨w'', hrun', hbeating, hreadings, hclock⟩ :=
        ih (k - min 250 k) (by omega) (hrun.pass hexec) hslept hcloser
      exact ⟨w'', hrun', hbeating, by rw [hreadings, hw], hclock⟩

/-- A run with readings: since its first pass, the device has been polled in time. -/
lemma beating_of_run (hhandler : m.dataHandler.isSome) (hsix : 6 ≤ options.request.registerCount.toNat)
    (hbound : options.request.registerCount.toNat ≤ 125) (htimeout : 1 ≤ options.responseTimeoutMs)
    (hinterval : 1 ≤ options.pollIntervalMs) {v : Worker ModbusDevice} (hrun : HealthyRun m options boot w₀ v w) :
    v = { input := { options := options } } ∧ w = w₀ ∨
      ∃ polled, w₀.clock ≤ polled ∧ Beating options boot polled v w := by
  apply Loop.invariant (J := fun v w => v = { input := { options := options } } ∧ w = w₀ ∨
    ∃ polled, w₀.clock ≤ polled ∧ Beating options boot polled v w) _ (.inl ⟨rfl, rfl⟩) hrun
  rintro v w (⟨rfl, rfl⟩ | ⟨polled, hlater, hbeating⟩)
  · apply wp_mono _ (wp_runDevice_first hhandler hbound htimeout)
    intro v' w' hpolled
    exact .inr ⟨w.clock, le_refl _, hpolled.beating hsix hinterval⟩
  · apply wp_mono _ (hbeating.wp_pass hhandler hsix hbound htimeout hinterval)
    rintro v' w' ⟨-, polled', hnext, hbeating'⟩
    exact .inr ⟨polled', hlater.trans hnext, hbeating'⟩

/-- With fewer registers than the register map has, there is never a reading. -/
lemma readings_of_run (hhandler : m.dataHandler.isSome) (hfew : options.request.registerCount.toNat < 6)
    (htimeout : 1 ≤ options.responseTimeoutMs) (hnone : w₀.readings = 0) {v : Worker ModbusDevice}
    (hrun : HealthyRun m options boot w₀ v w) : w.readings = 0 := by
  have hall : v.input.options = options ∧ w.readings = 0 := by
    apply Loop.invariant (J := fun v w => v.input.options = options ∧ w.readings = 0) _ ⟨rfl, hnone⟩ hrun
    rintro ⟨started, d⟩ w ⟨hoptions, hnone⟩
    obtain rfl : d.options = options := hoptions
    have hdone : ∀ (d' : ModbusDevice) {v' w'}, d'.options = d.options → Polled d' boot w v' w' →
        v'.input.options = d.options ∧ w'.readings = 0 := by
      intro d' v' w' hsame hpolled
      rw [← hsame] at hfew ⊢
      exact ⟨hpolled.options, (hpolled.nothing hfew).trans hnone⟩
    cases started with
    | false =>
      apply wp_mono _ (wp_runDevice_first hhandler (by omega) htimeout)
      exact fun v' w' hpolled => hdone (d.setOnline true) rfl hpolled
    | true =>
      change wp _ (m.readInput ModbusDevice.interface d) _ _
      by_cases hearly : (w.clock : Int) - boot < d.nextPoll
      · apply wp_mono _ (wp_readInput_early hhandler hearly)
        rintro v' w' ⟨rfl, rfl⟩
        exact ⟨rfl, hnone⟩
      · apply wp_mono _ (wp_readInput_due hhandler (by omega) htimeout (not_lt.mp hearly))
        exact fun v' w' hpolled => hdone d rfl hpolled
  exact hall.2

end

end

/-! ### What `statuses` shows -/

/-- After the first reading, `statuses` finds this status of the device at time `t`: between two passes, or
while the worker is inside one. -/
def StatusSeen (m : DeviceManager) (options : ModbusDeviceOptions) (boot : Int) (w₀ : HealthyWorld)
    (status : DeviceStatus) (t : Nat) : Prop :=
  ∃ v w, HealthyRun m options boot w₀ v w ∧ 1 ≤ w.readings ∧ status = v.input.status ∧
    (t = w.clock ∨ ∃ v' w', Exec (healthyEnv boot options.request) (m.runDevice ModbusDevice.interface v) w v' w' ∧
      w.clock ≤ t ∧ t ≤ w'.clock)

/-- Once it has given a reading, a healthy Modbus device is shown online, whenever the manager was started
and `statuses` is called. -/
def ModbusStaysOnline (c : Config.GatewayConfig) : Prop :=
  ∀ (boot : Int) (w₀ : HealthyWorld) (startedAt : Nat), w₀.readings = 0 →
    startedAt ≤ w₀.clock / nanosecondsPerSecond →
    ∀ status t, StatusSeen (Gateway.deviceManager c.serial.reconnectIntervalSeconds c.mqtt.topicPrefix)
      (Gateway.modbusOptions c.modbus) boot w₀ status t →
    (DeviceManager.statusAt c.can.heartbeatTimeoutSeconds startedAt (t / nanosecondsPerSecond) status).online = true

section

variable {m : DeviceManager} {options : ModbusDeviceOptions} {boot : Int}

/-- There is a run in which the last update gets as old as the poll interval. -/
lemma exists_run_due (m : DeviceManager) (options : ModbusDeviceOptions) (boot : Int) (w₀ : HealthyWorld)
    (hhandler : m.dataHandler.isSome) (hsix : 6 ≤ options.request.registerCount.toNat)
    (hbound : options.request.registerCount.toNat ≤ 125) (htimeout : 1 ≤ options.responseTimeoutMs)
    (hinterval : 1 ≤ options.pollIntervalMs) :
    ∃ v w, HealthyRun m options boot w₀ v w ∧ Beating options boot w₀.clock v w ∧ 1 ≤ w.readings ∧
      (w.clock : Int) = w₀.clock + options.pollIntervalMs * nanosecondsPerMillisecond := by
  have hfirst : wp (healthyEnv boot options.request) (m.runDevice ModbusDevice.interface
      { input := { options := options } }) (Polled (ModbusDevice.setOnline { options := options } true) boot w₀) w₀ :=
    wp_runDevice_first (d := { options := options }) hhandler hbound htimeout
  obtain ⟨v, w, hexec⟩ := exists_pass { input := { options := options } } w₀
  have hpolled := (wp_iff_exec _ _ _ _).mp hfirst v w hexec
  obtain ⟨hreadings, -, -⟩ := hpolled.reading hsix
  obtain ⟨w', hrun, hbeating, hsame, hclock⟩ :=
    (hpolled.beating hsix hinterval).exists_due hhandler (Loop.start.pass hexec)
  exact ⟨v, w', hrun, hbeating, by omega, hclock⟩

/-- Every status that is seen is online and no older than the poll interval. -/
lemma StatusSeen.recent (hhandler : m.dataHandler.isSome) (hsix : 6 ≤ options.request.registerCount.toNat)
    (hbound : options.request.registerCount.toNat ≤ 125) (htimeout : 1 ≤ options.responseTimeoutMs)
    (hinterval : 1 ≤ options.pollIntervalMs) {w₀ : HealthyWorld} (hnone : w₀.readings = 0) {status : DeviceStatus}
    {t : Nat} (h : StatusSeen m options boot w₀ status t) :
    ∃ polled, w₀.clock ≤ polled ∧ status.online = true ∧
      status.lastUpdateUnixSeconds = polled / nanosecondsPerSecond ∧
      (t : Int) ≤ polled + options.pollIntervalMs * nanosecondsPerMillisecond := by
  obtain ⟨v, w, hrun, hreadings, rfl, htime⟩ := h
  rcases beating_of_run hhandler hsix hbound htimeout hinterval hrun with ⟨-, rfl⟩ | ⟨polled, hlater, hbeating⟩
  · omega
  refine ⟨polled, hlater, hbeating.online, hbeating.lastUpdate, ?_⟩
  rcases htime with rfl | ⟨v', w', hexec, -, hend⟩
  · obtain ⟨k, hahead⟩ := hbeating.ahead
    unfold nanosecondsPerMillisecond at hahead ⊢
    omega
  · have hpass := hbeating.wp_pass hhandler hsix hbound htimeout hinterval
    obtain ⟨hclock, -⟩ := (wp_iff_exec _ _ _ _).mp hpass v' w' hexec
    omega

end

lemma statusAt_online {heartbeatTimeout : Int} {startedAt now : Nat} {status : DeviceStatus}
    (honline : status.online = true)
    (hrecent : status.lastUpdateUnixSeconds = 0 ∧ startedAt = 0 ∨
      now ≤ status.lastUpdateUnixSeconds + heartbeatTimeout.toNat) :
    (DeviceManager.statusAt heartbeatTimeout startedAt now status).online = true := by
  unfold DeviceManager.statusAt
  dsimp only
  rw [if_neg]
  · exact honline
  · simp only [Bool.and_eq_true, decide_eq_true_eq]
    rintro ⟨⟨⟨-, hreference⟩, -⟩, hold⟩
    by_cases hupdate : status.lastUpdateUnixSeconds ≠ 0
    · rw [if_pos hupdate] at hold
      omega
    · rw [if_neg hupdate] at hreference hold
      omega

lemma statusAt_offline {heartbeatTimeout : Int} {startedAt now : Nat} {status : DeviceStatus}
    (hupdate : status.lastUpdateUnixSeconds ≠ 0)
    (hold : status.lastUpdateUnixSeconds + heartbeatTimeout.toNat < now) :
    (DeviceManager.statusAt heartbeatTimeout startedAt now status).online = false := by
  unfold DeviceManager.statusAt
  dsimp only
  rw [if_pos hupdate]
  cases honline : status.online with
  | false => simp [honline]
  | true =>
    have hlater : now > status.lastUpdateUnixSeconds := by omega
    have htoo : now - status.lastUpdateUnixSeconds > heartbeatTimeout.toNat := by omega
    simp [hupdate, hlater, htoo]

/-- A device that gives readings and stays online is polled within the heartbeat window. -/
lemma ModbusStaysOnline.fits {c : Config.GatewayConfig} (honline : ModbusStaysOnline c)
    (hsix : 6 ≤ c.modbus.registerCount.toNat) (hbound : c.modbus.registerCount.toNat ≤ 125)
    (htimeout : 1 ≤ c.modbus.responseTimeoutMs) (hinterval : 1 ≤ c.modbus.pollIntervalMs)
    (hheartbeat : 1 ≤ c.can.heartbeatTimeoutSeconds) :
    c.modbus.pollIntervalMs ≤ 1000 * c.can.heartbeatTimeoutSeconds := by
  by_contra hlate
  -- the first poll comes at the end of a second
  obtain ⟨v, w, hrun, hbeating, hreadings, hclock⟩ := exists_run_due
    (Gateway.deviceManager c.serial.reconnectIntervalSeconds c.mqtt.topicPrefix) (Gateway.modbusOptions c.modbus) 0
    ⟨1999999999, [], 0⟩ rfl hsix hbound htimeout hinterval
  have hshown := honline 0 ⟨1999999999, [], 0⟩ 1 rfl (by decide) v.input.status w.clock
    ⟨v, w, hrun, hreadings, rfl, .inl rfl⟩
  have hupdate : v.input.status.lastUpdateUnixSeconds = 1 := hbeating.lastUpdate
  have hold : v.input.status.lastUpdateUnixSeconds + c.can.heartbeatTimeoutSeconds.toNat <
      w.clock / nanosecondsPerSecond := by
    have hclock : (w.clock : Int) = 1999999999 + c.modbus.pollIntervalMs * 1000000 := hclock
    rw [hupdate]
    unfold nanosecondsPerSecond
    omega
  rw [statusAt_offline (by omega) hold] at hshown
  cases hshown

/-- An accepted configuration with Modbus enabled shows a healthy Modbus device online if and only if the poll
interval fits into the heartbeat window of the CAN section, or the request is too short for a reading. -/
theorem modbus_stays_online_iff (library : ConfigLibrary) (file : Except Text YamlNode) (c : Config.GatewayConfig)
    (haccepted : Config.loadGatewayConfig library file {} = .ok c) (henabled : c.modbus.enabled = true) :
    ModbusStaysOnline c ↔
      c.modbus.registerCount.toNat < 6 ∨ c.modbus.pollIntervalMs ≤ 1000 * c.can.heartbeatTimeoutSeconds := by
  obtain ⟨-, hbound⟩ := Config.registerCount_of_accepted haccepted
  obtain ⟨-, hinterval, htimeout⟩ := Config.modbus_of_accepted haccepted henabled
  have hheartbeat := Config.heartbeat_of_accepted haccepted
  constructor
  · intro honline
    by_cases hfew : c.modbus.registerCount.toNat < 6
    · exact .inl hfew
    · exact .inr (honline.fits (not_lt.mp hfew) hbound htimeout hinterval hheartbeat)
  · intro hfits boot w₀ startedAt hnone hstarted status t hseen
    by_cases hfew : c.modbus.registerCount.toNat < 6
    · obtain ⟨v, w, hrun, hreadings, -, -⟩ := hseen
      have hnever := readings_of_run rfl hfew htimeout hnone hrun
      omega
    · have hwindow := hfits.resolve_left hfew
      obtain ⟨polled, hlater, honline, hupdate, hage⟩ :=
        hseen.recent rfl (not_lt.mp hfew) hbound htimeout hinterval hnone
      have hage : (t : Int) ≤ polled + c.modbus.pollIntervalMs * 1000000 := hage
      apply statusAt_online honline
      unfold nanosecondsPerSecond at hstarted hupdate ⊢
      omega

/-- With the default times a healthy device is always shown online. -/
theorem modbus_stays_online_iff_default :
    ∃ c, Config.loadGatewayConfig Config.plainLibrary
        (.ok (Config.oneSection "modbus" [("enabled", "true")])) {} = .ok c ∧ ModbusStaysOnline c := by
  refine ⟨{ modbus := { enabled := true } }, rfl, ?_⟩
  apply (modbus_stays_online_iff Config.plainLibrary
    (.ok (Config.oneSection "modbus" [("enabled", "true")])) _ rfl rfl).mpr
  exact .inr (by decide)

/-- A device that is polled every six seconds, as configured, is shown offline in between. -/
theorem slow_poll_shown_offline :
    ∃ c, Config.loadGatewayConfig Config.plainLibrary
        (.ok (Config.oneSection "modbus" [("enabled", "true"), ("poll_interval_ms", "6000")])) {} = .ok c ∧
      c.modbus.enabled = true ∧ ¬ModbusStaysOnline c := by
  refine ⟨{ modbus := { enabled := true, pollIntervalMs := 6000 } }, rfl, rfl, ?_⟩
  intro honline
  have hfits := honline.fits (by decide) (by decide) (by decide) (by decide) (by decide)
  exact absurd hfits (by decide)

end EdgeGateway
