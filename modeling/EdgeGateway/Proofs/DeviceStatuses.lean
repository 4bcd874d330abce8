import EdgeGateway.Proofs.OneReading

/-!
# Data and device status

What `get_device_status` shows after a `read` that returned data: whose data, that the device is online,
and when. The world of the devices is the system time in seconds, which passes between any two calls.
-/

namespace EdgeGateway
open CallTree

/-- Time passes with every call, and `unix_seconds` tells it. Everything else can be answered in any way. -/
def timeEnv : Env deviceSignature Nat
  | t, .unixSeconds => fun (now : Nat) t' => t ≤ t' ∧ now = t'
  | t, _ => fun _ t' => t ≤ t'

/-- The states that a device gets into, with the time: calls of `start`, `stop` and `read` in any order. -/
inductive Life {σ : Type} (interface : DeviceInterface σ) (d₀ : σ) : σ → Nat → Prop where
  | fresh (t : Nat) : Life interface d₀ d₀ t
  | wait {d : σ} {t t' : Nat} : Life interface d₀ d t → t ≤ t' → Life interface d₀ d t'
  | start {d d' : σ} {t t' : Nat} {error : Option Text} : Life interface d₀ d t →
      Exec timeEnv (interface.start d) t (error, d') t' → Life interface d₀ d' t'
  | stop {d d' : σ} {t t' : Nat} : Life interface d₀ d t →
      Exec timeEnv (interface.stop d) t d' t' → Life interface d₀ d' t'
  | read {d d' : σ} {t t' : Nat} {timeout : Int} {result : DeviceReadResult} : Life interface d₀ d t →
      Exec timeEnv (interface.read timeout d) t (result, d') t' → Life interface d₀ d' t'

/-- The status shows the reading that was returned by a call from `t` to `t'`. -/
def Reflected (result : DeviceReadResult) (status : DeviceStatus) (t t' : Nat) : Prop :=
  ∃ data, result.data = some data ∧ status.deviceId = data.deviceId.toUInt32 ∧ status.online = true ∧
    t ≤ status.lastUpdateUnixSeconds ∧ status.lastUpdateUnixSeconds ≤ t'

lemma timeEnv_le {t t' : Nat} {o : DeviceOp} {a : o.Ans} (h : timeEnv t o a t') : t ≤ t' := by
  cases o with
  | unixSeconds => exact h.1
  | _ => exact h

lemma wp_time_le {α : Type} (p : DeviceCall α) (t : Nat) : wp timeEnv p (fun _ t' => t ≤ t') t := by
  induction p generalizing t with
  | ret r => exact le_refl t
  | call o k ih =>
    intro a t₁ h
    apply wp_mono _ (ih a t₁)
    intro _ t' hlater
    exact le_trans (timeEnv_le h) hlater

/-! ### Validation keeps the device -/

lemma runChecks_deviceId (checks : List ((SensorData → Bool) × String)) (data : SensorData) :
    (runChecks checks data).deviceId = data.deviceId := by
  induction checks generalizing data with
  | nil => rfl
  | cons check checks ih =>
    have hcheck : (warnIf check.1 check.2 data).deviceId = data.deviceId := by
      unfold warnIf
      split
      · rfl
      · rfl
    exact (ih _).trans hcheck

lemma toSensorData_deviceId (input : DeviceData) : (toSensorData input).deviceId = input.deviceId := by
  rw [toSensorData, validateSensorData, validateSensorDataImpl_eq, runChecks_deviceId]

lemma Modbus.registersToDeviceData_deviceId {response : Modbus.ReadResponse} {slaveId : UInt8} {data : DeviceData}
    (h : Modbus.registersToDeviceData response slaveId = .ok data) : data.deviceId = slaveId := by
  unfold Modbus.registersToDeviceData at h
  split_ifs at h
  cases h
  rfl

/-! ### Modbus -/

namespace ModbusDevice

/-- The status names the slave that is polled. -/
def NamesSlave (d : ModbusDevice) : Prop :=
  d.status.deviceId = d.options.request.slaveId.toUInt32

lemma NamesSlave.recordError {d : ModbusDevice} (h : d.NamesSlave) : d.recordError.NamesSlave := h

lemma NamesSlave.setOnline {d : ModbusDevice} (h : d.NamesSlave) (online : Bool) : (d.setOnline online).NamesSlave := h

lemma wp_start_time {d : ModbusDevice} (h : d.NamesSlave) (t : Nat) :
    wp timeEnv d.start (fun answer _ => answer.2.NamesSlave) t := by
  intro answer t₁ _
  match answer with
  | some error => exact h.recordError
  | none =>
    intro now t₂ _
    exact h

lemma wp_stop_time {d : ModbusDevice} (h : d.NamesSlave) (t : Nat) :
    wp timeEnv d.stop (fun d' _ => d'.NamesSlave) t := by
  intro _ t₁ _
  exact h.setOnline false

/-- A result and the status beside it: the slave is still named, and data is shown. -/
def Shows (t : Nat) (answer : DeviceReadResult × ModbusDevice) (t' : Nat) : Prop :=
  answer.2.NamesSlave ∧ (answer.1.code = .data → Reflected answer.1 answer.2.status t t')

lemma wp_failTransport_time {d : ModbusDevice} (h : d.NamesSlave) (error : Text) (t₀ t : Nat) :
    wp timeEnv (d.failTransport error) (Shows t₀) t := by
  intro _ t₁ _
  exact ⟨h, nofun⟩

lemma wp_decode_time {d : ModbusDevice} (h : d.NamesSlave) (response : List UInt8) {t₀ t : Nat} (ht : t₀ ≤ t) :
    wp timeEnv (d.decode response) (Shows t₀) t := by
  unfold decode
  dsimp only
  by_cases hstatus : (Modbus.parseReadResponse response d.options.request).status ≠ .ok
  · rw [if_pos hstatus]
    exact ⟨h, nofun⟩
  rw [if_neg hstatus]
  cases hdata : Modbus.registersToDeviceData (Modbus.parseReadResponse response d.options.request)
      d.options.request.slaveId with
  | error error => exact ⟨h, nofun⟩
  | ok data =>
    rintro now t' ⟨hlater, rfl⟩
    refine ⟨h, fun _ => ⟨toSensorData data, rfl, ?_, rfl, le_trans ht hlater, le_refl _⟩⟩
    rw [toSensorData_deviceId, Modbus.registersToDeviceData_deviceId hdata]
    exact h

lemma wp_poll_time {d : ModbusDevice} (h : d.NamesSlave) {t₀ t : Nat} (ht : t₀ ≤ t) :
    wp timeEnv d.poll (Shows t₀) t := by
  intro discarded t₁ h₁
  match discarded with
  | some error => exact wp_failTransport_time h error t₀ t₁
  | none =>
    intro written t₂ h₂
    match written with
    | some error => exact wp_failTransport_time h error t₀ t₂
    | none =>
      intro now t₃ h₃
      change wp _ (collectResponse _ [] _ >>= _) _ _
      rw [wp_bind]
      apply wp_mono _ (wp_time_le _ t₃)
      intro answer t₄ h₄
      have hlater : t₀ ≤ t₄ :=
        calc t₀ ≤ t := ht
          _ ≤ t₁ := timeEnv_le h₁
          _ ≤ t₂ := timeEnv_le h₂
          _ ≤ t₃ := timeEnv_le h₃
          _ ≤ t₄ := h₄
      match answer with
      | .error error => exact wp_failTransport_time h error t₀ t₄
      | .ok [] => exact ⟨h, nofun⟩
      | .ok (byte :: bytes) => exact wp_decode_time h (byte :: bytes) hlater

lemma wp_read_time {d : ModbusDevice} (h : d.NamesSlave) (timeout : Int) (t : Nat) :
    wp timeEnv (d.read timeout) (Shows t) t := by
  intro now t₁ h₁
  change wp _ (ite _ _ _) _ _
  split
  · intro _ t₂ _
    exact ⟨h, nofun⟩
  · exact wp_poll_time (d := { d with nextPoll := now + d.options.pollIntervalMs * nanosecondsPerMillisecond }) h
      (timeEnv_le h₁)

lemma namesSlave_of_life {options : ModbusDeviceOptions} {d : ModbusDevice} {t : Nat}
    (h : Life ModbusDevice.interface { options := options } d t) : d.NamesSlave := by
  induction h with
  | fresh t => rfl
  | wait _ _ ih => exact ih
  | start _ hexec ih => exact (wp_iff_exec _ _ _ _).mp (wp_start_time ih _) _ _ hexec
  | stop _ hexec ih => exact (wp_iff_exec _ _ _ _).mp (wp_stop_time ih _) _ _ hexec
  | read _ hexec ih => exact ((wp_iff_exec _ _ _ _).mp (wp_read_time ih _ _) _ _ hexec).1

end ModbusDevice

/-! ### CAN -/

lemma CanDevice.wp_read_time (d : CanDevice) (timeout : Int) (t : Nat) :
    wp timeEnv (d.read timeout)
      (fun answer t' => answer.1.code = .data → Reflected answer.1 answer.2.status t t') t := by
  unfold CanDevice.read
  rw [wp_bind]
  apply wp_mono _ (wp_time_le _ t)
  intro answer t₁ h₁
  match answer with
  | .nothing => exact nofun
  | .failed error =>
    intro _ t₂ _
    exact nofun
  | .rejected error => exact nofun
  | .frame frame =>
    dsimp only
    cases Canbus.parseSensorFrame frame with
    | error error => exact nofun
    | ok deviceData =>
      rintro now t' ⟨hlater, rfl⟩
      intro _
      exact ⟨toSensorData deviceData, rfl, rfl, rfl, le_trans h₁ hlater, le_refl _⟩

/-! ### UART -/

namespace UartDevice

/-- The status shows the reading that waits at the head of `pending_`, if there is one, and that it was
taken at `t`. -/
def UpToDate (d : UartDevice) (t : Nat) : Prop :=
  ∀ data ∈ d.pending.head?, d.status.deviceId = data.deviceId.toUInt32 ∧ d.status.online = true ∧
    d.status.lastUpdateUnixSeconds = t

lemma wp_deliver_time (d : UartDevice) (stats : ProtocolErrorStats) {t₀ t : Nat} (ht : t₀ ≤ t) :
    wp timeEnv (d.deliver stats)
      (fun answer t' => answer.1.code = .data → Reflected answer.1 answer.2.status t₀ t') t := by
  apply wp_deliver
  · intro _ _
    exact nofun
  · intro _ _
    exact nofun
  · rintro data rest now t' _ ⟨hlater, rfl⟩
    intro _
    exact ⟨data, rfl, rfl, rfl, le_trans ht hlater, le_refl _⟩

lemma wp_receive_time (d : UartDevice) (bytes : List UInt8) {t₀ t : Nat} (ht : t₀ ≤ t) :
    wp timeEnv (d.receive bytes)
      (fun answer t' => answer.1.code = .data → Reflected answer.1 answer.2.status t₀ t') t := by
  unfold receive
  split
  · intro impossible
    exact impossible.elim
  · exact wp_deliver_time _ _ ht

lemma wp_read_time (d : UartDevice) (timeout : Int) (t : Nat) :
    wp timeEnv (d.read timeout)
      (fun answer t' => answer.1.code = .data → (Reflected answer.1 answer.2.status t t' ↔ d.UpToDate t)) t := by
  have hfresh : d.pending = [] → d.UpToDate t := by
    intro hpending data hdata
    rw [hpending] at hdata
    cases hdata
  apply wp_read
  · intro data rest hpending _
    unfold UpToDate
    rw [hpending]
    constructor
    · rintro ⟨other, hother, hid, honline, hafter, hbefore⟩
      cases hother
      intro head hhead
      cases hhead
      exact ⟨hid, honline, le_antisymm hbefore hafter⟩
    · intro hshown
      obtain ⟨hid, honline, htime⟩ := hshown data rfl
      exact ⟨data, rfl, hid, honline, htime.ge, htime.le⟩
  · intro error t₁ _ _ _ t₂ _
    exact nofun
  · intro t₁ _ _
    exact nofun
  · intro byte bytes t₁ hpending hread
    apply wp_mono _ (wp_receive_time d (byte :: bytes) (timeEnv_le hread))
    intro answer t' hshown hdata
    exact iff_of_true (hshown hdata) (hfresh hpending)

end UartDevice

/-- The status after a `read` with data, of each kind of device and in every state that it gets into. The
Modbus and the CAN device always show the reading. The UART device does if and only if it did not have to
take it from `pending_`, or happened to show it before. -/
theorem status_reflects_data_iff (timeout : Int) (t t' : Nat) (result : DeviceReadResult)
    (hdata : result.code = .data) :
    (∀ (path : Text) (baudRate : Int) (d d' : UartDevice),
      Life UartDevice.interface { path := path, baudRate := baudRate } d t →
      Exec timeEnv (UartDevice.interface.read timeout d) t (result, d') t' →
      (Reflected result (UartDevice.interface.getDeviceStatus d') t t' ↔ d.UpToDate t)) ∧
    (∀ (options : ModbusDeviceOptions) (d d' : ModbusDevice),
      Life ModbusDevice.interface { options := options } d t →
      Exec timeEnv (ModbusDevice.interface.read timeout d) t (result, d') t' →
      Reflected result (ModbusDevice.interface.getDeviceStatus d') t t') ∧
    ∀ (interfaceName : Text) (d d' : CanDevice),
      Life CanDevice.interface { interfaceName := interfaceName } d t →
      Exec timeEnv (CanDevice.interface.read timeout d) t (result, d') t' →
      Reflected result (CanDevice.interface.getDeviceStatus d') t t' := by
  refine ⟨?_, ?_, ?_⟩
  · intro path baudRate d d' _ hread
    exact (wp_iff_exec _ _ _ _).mp (d.wp_read_time timeout t) _ _ hread hdata
  · intro options d d' hlife hread
    have hnamed := ModbusDevice.namesSlave_of_life hlife
    exact ((wp_iff_exec _ _ _ _).mp (ModbusDevice.wp_read_time hnamed timeout t) _ _ hread).2 hdata
  · intro interfaceName d d' _ hread
    exact (wp_iff_exec _ _ _ _).mp (d.wp_read_time timeout t) _ _ hread hdata

/-! ### Two readings in one batch -/

/-- Sensor 9 on the same bus. -/
def secondReading : RawReading :=
  { frostReading with deviceId := 9 }

lemma reading_uartFrame {r : RawReading} (hrange : r.InRange) : reading r.uartFrame.toFrame = some r.toData := by
  rw [reading, r.parseSensorData_uartFrame, r.validate_toData.1, r.validate_toData.2 hrange, decide_eq_true hrange]

lemma sessionReadings_two {r r' : RawReading} (hrange : r.InRange) (hrange' : r'.InRange) :
    sessionReadings (r.uartFrame.encode ++ r'.uartFrame.encode) = [r.toData, r'.toData] := by
  rw [sessionReadings_eq, framesOf_scan_encode_append, scan_encode, List.filterMap_cons,
    reading_uartFrame hrange, List.filterMap_cons, reading_uartFrame hrange']
  rfl

/-- A UART device that gets two readings at once delivers the first and keeps the second. -/
lemma UartDevice.exec_read_two {d : UartDevice} (hpending : d.pending = []) (hsynced : Synced d.parser [])
    {byte : UInt8} {bytes : List UInt8} {first second : SensorData}
    (hreadings : sessionReadings (byte :: bytes) = [first, second]) :
    ∃ result d', Exec timeEnv (d.read 250) 0 (result, d') 0 ∧ d'.pending = [second] ∧
      d'.status.deviceId = first.deviceId.toUInt32 := by
  obtain ⟨stats, d', hreceive, -, hnew, -⟩ := d.receive_eq (byte :: bytes) hsynced hpending
  rw [List.nil_append, sessionReadings_nil, List.nil_append, hreadings] at hnew
  have hdeliver : Exec timeEnv (d'.deliver stats) 0
      ({ code := .data
         data := some first
         error := if stats.isEmpty then [] else ascii "UART frame rejected"
         errorStats := stats },
        { d' with
          pending := [second]
          status :=
            { d'.status with
              deviceId := first.deviceId.toUInt32
              online := true
              lastUpdateUnixSeconds := 0 } }) 0 := by
    unfold UartDevice.deliver
    rw [← hnew]
    refine .call (a := (0 : Nat)) ⟨le_refl 0, rfl⟩ ?_
    exact .ret
  have hread : ∀ answer, Exec timeEnv (d'.deliver stats) 0 answer 0 → Exec timeEnv (d.read 250) 0 answer 0 := by
    intro answer hrest
    unfold UartDevice.read
    rw [hpending]
    refine .call (a := Except.ok (byte :: bytes)) (le_refl 0) ?_
    change Exec timeEnv (d.receive (byte :: bytes)) _ _ _
    rw [hreceive]
    exact hrest
  exact ⟨_, _, hread _ hdeliver, rfl, rfl⟩

/-- The second of two readings in one batch is returned with the status of the first. -/
lemma exists_batch : ∃ d, Life UartDevice.interface { path := ascii "/dev/ttyUSB0", baudRate := 115200 } d 0 ∧
    d.pending = [secondReading.toData] ∧ d.status.deviceId = 7 := by
  have hstart : Exec timeEnv (UartDevice.interface.start { path := ascii "/dev/ttyUSB0", baudRate := 115200 }) 0
      (none, openedUart.setOnline true) 0 := by
    refine .call (E := deviceSignature) (o := .openPort _ _) (a := none) (le_refl 0) ?_
    exact .ret
  have hreadings := sessionReadings_two (show frostReading.InRange by decide) (show secondReading.InRange by decide)
  obtain ⟨byte, bytes, heq⟩ := List.exists_cons_of_ne_nil
    (show frostReading.uartFrame.encode ++ secondReading.uartFrame.encode ≠ [] from nofun)
  rw [heq] at hreadings
  obtain ⟨result, d, hread, hpending, hid⟩ := UartDevice.exec_read_two (d := openedUart.setOnline true) rfl
    (synced_reset _) hreadings
  exact ⟨d, .read (.start (.fresh 0) hstart) hread, hpending, hid⟩

lemma UartDevice.exec_read_pending {d : UartDevice} {data : SensorData} {rest : List SensorData}
    (hpending : d.pending = data :: rest) (timeout : Int) (t : Nat) :
    Exec timeEnv (UartDevice.interface.read timeout d) t
      ({ code := .data, data := some data }, { d with pending := rest }) t := by
  change Exec _ (d.read timeout) _ _ _
  unfold UartDevice.read
  rw [hpending]
  exact .ret

theorem status_reflects_data_iff_batch :
    ∃ d, Life UartDevice.interface { path := ascii "/dev/ttyUSB0", baudRate := 115200 } d 0 ∧
      (Reflected { code := .data, data := some secondReading.toData } d.status 0 0 ↔ d.UpToDate 0) := by
  obtain ⟨d, hlife, hpending, -⟩ := exists_batch
  have hread := UartDevice.exec_read_pending hpending 250 0
  exact ⟨d, hlife, (status_reflects_data_iff 250 0 0 _ rfl).1 _ _ d { d with pending := [] } hlife hread⟩

/-- Reading 9 is returned, and the status shows sensor 7. -/
theorem status_misses_pending_data :
    ¬∀ (path : Text) (baudRate : Int) (d d' : UartDevice) (t t' : Nat) (timeout : Int) (result : DeviceReadResult),
      Life UartDevice.interface { path := path, baudRate := baudRate } d t →
      Exec timeEnv (UartDevice.interface.read timeout d) t (result, d') t' → result.code = .data →
      Reflected result (UartDevice.interface.getDeviceStatus d') t t' := by
  intro hclaim
  obtain ⟨d, hlife, hpending, hid⟩ := exists_batch
  obtain ⟨data, hdata, hshown, -⟩ := hclaim _ _ d _ 0 0 250 _ hlife (UartDevice.exec_read_pending hpending 250 0) rfl
  cases hdata
  change d.status.deviceId = _ at hshown
  rw [hid] at hshown
  revert hshown
  decide

end EdgeGateway
