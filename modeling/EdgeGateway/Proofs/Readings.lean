import EdgeGateway.Model.CanDevice
import EdgeGateway.Model.ModbusDevice
import EdgeGateway.Proofs.FrameScan

/-!
# One reading on three wires

A raw reading and its encodings for the three protocols, and that the three decoders give the same
data back.
-/

namespace EdgeGateway

/-- A reading as a sensor takes it, temperature and humidity in tenths. -/
structure RawReading where
  deviceId : UInt8
  temperature : Int16
  humidity : UInt16
  gas : UInt16
  battery : UInt16
  status : UInt8
  sequence : UInt16

namespace RawReading

/-- The ranges of a reading that is worth publishing. -/
def InRange (r : RawReading) : Prop :=
  -400 ≤ r.temperature.toInt ∧ r.temperature.toInt ≤ 850 ∧ r.humidity ≤ 1000 ∧ r.gas ≤ 5000 ∧
    3000 ≤ r.battery ∧ r.battery ≤ 4200 ∧ r.status &&& 0x07 = 0

instance (r : RawReading) : Decidable r.InRange :=
  inferInstanceAs (Decidable (_ ∧ _ ∧ _ ∧ _ ∧ _ ∧ _ ∧ _))

/-- The record with exactly these values and no warning. -/
def toData (r : RawReading) : SensorData where
  deviceId := r.deviceId
  cmd := 0x01
  temperatureC := ⟨r.temperature.toInt⟩
  humidityPercent := ⟨r.humidity.toNat⟩
  gasPpm := r.gas
  batteryMv := r.battery
  status := r.status
  sequence := r.sequence

/-- The same before validation, as the Modbus and CAN decoders deliver it. -/
def toDeviceData (r : RawReading) (protocol : ProtocolType) : DeviceData where
  deviceId := r.deviceId
  protocol := protocol
  temperatureC := ⟨r.temperature.toInt⟩
  humidityPercent := ⟨r.humidity.toNat⟩
  gasPpm := r.gas
  batteryMv := r.battery
  status := r.status
  sequence := r.sequence

lemma toSensorData_toDeviceData (r : RawReading) (protocol : ProtocolType) :
    toSensorData (r.toDeviceData protocol) = validateSensorDataImpl r.toData := rfl

/-- The payload of a UART sensor frame. -/
def payload (r : RawReading) : List UInt8 :=
  u16Be r.temperature.toUInt16 ++ u16Be r.humidity ++ u16Be r.gas ++ u16Be r.battery ++ [r.status] ++
    u16Be r.sequence

def uartFrame (r : RawReading) : WireFrame where
  cmd := 0x01
  deviceId := r.deviceId
  payload := r.payload
  payload_le := by simp [payload, u16Be]

/-- The six registers. -/
def registers (r : RawReading) : List UInt16 :=
  [r.temperature.toUInt16, r.humidity, r.gas, r.battery, r.status.toUInt16, r.sequence]

/-- The part of a Modbus response under the checksum. -/
def modbusBody (r : RawReading) (function : Modbus.FunctionCode) : List UInt8 :=
  [r.deviceId, function.code, 12] ++ r.registers.flatMap u16Be

/-- What slave `r.deviceId` answers to a request for its six registers. -/
def modbusResponse (r : RawReading) (function : Modbus.FunctionCode) : List UInt8 :=
  r.modbusBody function ++ crcBytes (crc16Modbus (r.modbusBody function))

/-- The data bytes of a CAN frame, the battery voltage in units of 100 mV. -/
def canData (r : RawReading) : Vector UInt8 8 :=
  #v[(r.temperature.toUInt16 >>> 8).toUInt8, r.temperature.toUInt16.toUInt8, (r.humidity >>> 8).toUInt8,
    r.humidity.toUInt8, (r.gas >>> 8).toUInt8, r.gas.toUInt8, (r.battery / 100).toUInt8, r.status]

def canFrame (r : RawReading) (canId : UInt32) : RawCanFrame where
  canId := canId
  canDlc := 8
  data := r.canData

end RawReading

/-! ### Words -/

lemma word_u16Be (v : UInt16) : (v >>> 8).toUInt8.toUInt16 <<< 8 ||| v.toUInt8.toUInt16 = v := by
  rw [UInt16.or_comm]
  exact word_crcBytes v

/-- A word that was appended after `before` is read there. -/
lemma readU16Be_append (before after : List UInt8) (v : UInt16) (h : before.length + 1 < _) :
    readU16Be (before ++ (u16Be v ++ after)) before.length h = v := by
  have hhigh : (before ++ (u16Be v ++ after))[before.length] = (v >>> 8).toUInt8 := by
    simp [u16Be]
  have hlow : (before ++ (u16Be v ++ after))[before.length + 1] = v.toUInt8 := by
    simp [u16Be]
  rw [readU16Be, hhigh, hlow]
  exact word_u16Be v

/-- The loop over the register bytes reads the registers back. -/
lemma readRegisters_append (before after : List UInt8) (registers : List UInt16) (last : Nat)
    (hlast : last = before.length + 2 * registers.length) (h : last + 1 < _) :
    Modbus.readRegisters (before ++ (registers.flatMap u16Be ++ after)) before.length last h = registers := by
  induction registers generalizing before with
  | nil =>
    rw [Modbus.readRegisters, dif_neg (by simp [hlast])]
  | cons v registers ih =>
    have hshape : before ++ ((v :: registers).flatMap u16Be ++ after) =
        before ++ (u16Be v ++ (registers.flatMap u16Be ++ after)) := by
      simp
    have hmore : before.length < last := by
      simp only [List.length_cons] at hlast
      omega
    have hnext := ih (before ++ u16Be v) (by simp [hlast, u16Be]; omega) (by simpa [u16Be] using h)
    rw [Modbus.readRegisters, dif_pos hmore]
    congr 1
    · simp only [hshape]
      exact readU16Be_append _ _ v _
    · simpa [u16Be] using hnext

/-! ### Validation -/

section

variable (condition : SensorData → Bool) (warning : String) (data : SensorData)

lemma warnIf_valid : (warnIf condition warning data).valid = (data.valid && !condition data) := by
  unfold warnIf
  cases condition data with
  | true => simp [addWarning]
  | false => simp

/-- A check that reads only the values. -/
def ReadsValues : Prop :=
  ∀ (d : SensorData) (warning : String), condition (addWarning d warning) = condition d

end

/-- Checks one after the other. -/
def runChecks (checks : List ((SensorData → Bool) × String)) (data : SensorData) : SensorData :=
  checks.foldl (fun d check => warnIf check.1 check.2 d) data

lemma runChecks_valid (checks : List ((SensorData → Bool) × String))
    (hreads : ∀ check ∈ checks, ReadsValues check.1) (data : SensorData) :
    (runChecks checks data).valid = (data.valid && checks.all (fun check => !check.1 data)) := by
  induction checks generalizing data with
  | nil => simp [runChecks]
  | cons check checks ih =>
    have hsame : ∀ other ∈ checks, other.1 (warnIf check.1 check.2 data) = other.1 data := by
      intro other hother
      unfold warnIf
      cases check.1 data with
      | true => exact hreads other (.tail _ hother) data check.2
      | false => rfl
    have hall : checks.all (fun other => !other.1 (warnIf check.1 check.2 data)) =
        checks.all (fun other => !other.1 data) := by
      apply Bool.eq_iff_iff.mpr
      simp only [List.all_eq_true]
      exact forall₂_congr (fun other hother => by rw [hsame other hother])
    change (runChecks checks (warnIf check.1 check.2 data)).valid = _
    rw [ih (fun other hother => hreads other (.tail _ hother)), warnIf_valid, hall, List.all_cons,
      Bool.and_assoc]

lemma runChecks_eq_self (checks : List ((SensorData → Bool) × String)) (data : SensorData)
    (h : checks.all (fun check => !check.1 data) = true) : runChecks checks data = data := by
  induction checks with
  | nil => rfl
  | cons check checks ih =>
    rw [List.all_cons, Bool.and_eq_true, Bool.not_eq_true'] at h
    have hnone : warnIf check.1 check.2 data = data := by
      rw [warnIf, h.1]
      rfl
    change runChecks checks (warnIf check.1 check.2 data) = data
    rw [hnone]
    exact ih h.2

/-- A change that no check sees can be made before or after the checks. -/
lemma runChecks_map (f : SensorData → SensorData)
    (hf : ∀ d warning, addWarning (f d) warning = f (addWarning d warning))
    (checks : List ((SensorData → Bool) × String)) (hchecks : ∀ check ∈ checks, ∀ d, check.1 (f d) = check.1 d)
    (data : SensorData) : runChecks checks (f data) = f (runChecks checks data) := by
  induction checks generalizing data with
  | nil => rfl
  | cons check checks ih =>
    have hstep : warnIf check.1 check.2 (f data) = f (warnIf check.1 check.2 data) := by
      unfold warnIf
      rw [hchecks check (.head _)]
      cases check.1 data with
      | true => exact hf data check.2
      | false => rfl
    change runChecks checks (warnIf check.1 check.2 (f data)) = f (runChecks checks (warnIf check.1 check.2 data))
    rw [hstep]
    exact ih (fun other hother => hchecks other (.tail _ hother)) _

/-- The checks of `validate_sensor_data_impl`. -/
def rangeChecks : List ((SensorData → Bool) × String) :=
  [(fun d => d.temperatureC < .whole (-40) || .whole 85 < d.temperatureC, "temperature out of range"),
    (fun d => d.humidityPercent < .whole 0 || .whole 100 < d.humidityPercent, "humidity out of range"),
    (fun d => d.gasPpm > 5000, "gas concentration out of range"),
    (fun d => d.batteryMv < 3000 || d.batteryMv > 4200, "battery voltage out of range"),
    (fun d => d.status &&& 0x01 != 0, "device reports sensor fault"),
    (fun d => d.status &&& 0x02 != 0, "device reports low battery"),
    (fun d => d.status &&& 0x04 != 0, "device is calibrating")]

lemma validateSensorDataImpl_eq (data : SensorData) :
    validateSensorDataImpl data = runChecks rangeChecks data := rfl

lemma rangeChecks_readValues : ∀ check ∈ rangeChecks, ReadsValues check.1 := by
  intro check hcheck d warning
  simp only [rangeChecks, List.mem_cons, List.not_mem_nil, or_false] at hcheck
  rcases hcheck with rfl | rfl | rfl | rfl | rfl | rfl | rfl <;> rfl

lemma status_bits (s : UInt8) : s &&& 0x07 = 0 ↔ s &&& 0x01 = 0 ∧ s &&& 0x02 = 0 ∧ s &&& 0x04 = 0 := by
  constructor
  · intro h
    have hsub : ∀ bit : UInt8, 0x07 &&& bit = bit → s &&& bit = 0 := by
      intro bit hbit
      rw [← hbit, ← UInt8.and_assoc, h, UInt8.zero_and]
    exact ⟨hsub 1 rfl, hsub 2 rfl, hsub 4 rfl⟩
  · rintro ⟨h1, h2, h4⟩
    have hor : s &&& 0x07 = s &&& 0x01 ||| (s &&& 0x02 ||| s &&& 0x04) := by
      apply UInt8.toBitVec_inj.mp
      simp only [UInt8.toBitVec_and, UInt8.toBitVec_or, ← BitVec.and_or_distrib_left]
      rfl
    rw [hor, h1, h2, h4]
    rfl

lemma RawReading.rangeChecks_toData (r : RawReading) :
    rangeChecks.all (fun check => !check.1 r.toData) = true ↔ r.InRange := by
  simp only [rangeChecks, RawReading.InRange, status_bits, RawReading.toData, Tenths.lt_def, Tenths.whole,
    List.all_cons, List.all_nil, Bool.and_eq_true, Bool.not_eq_true', Bool.or_eq_false_iff,
    decide_eq_false_iff_not, bne_eq_false_iff_eq, Bool.and_true, gt_iff_lt, not_lt, UInt16.not_lt, and_assoc]
  have hhumidity : r.humidity ≤ 1000 ↔ r.humidity.toNat ≤ 1000 := UInt16.le_iff_toNat_le
  rw [hhumidity]
  constructor
  · rintro ⟨hcold, hhot, -, hwet, hrest⟩
    exact ⟨hcold, hhot, by omega, hrest⟩
  · rintro ⟨hcold, hhot, hwet, hrest⟩
    exact ⟨hcold, hhot, by omega, by omega, hrest⟩

/-- A reading is valid if and only if it is in range, and then it carries no warning. -/
theorem RawReading.validate_toData (r : RawReading) :
    (validateSensorDataImpl r.toData).valid = decide r.InRange ∧
      (r.InRange → validateSensorDataImpl r.toData = r.toData) := by
  rw [validateSensorDataImpl_eq]
  constructor
  · rw [runChecks_valid _ rangeChecks_readValues]
    apply Bool.eq_iff_iff.mpr
    rw [decide_eq_true_iff, ← r.rangeChecks_toData]
    exact Iff.rfl
  · intro h
    exact runChecks_eq_self _ _ (r.rangeChecks_toData.mpr h)

/-- The sequence number plays no part in the validation. -/
lemma RawReading.validate_sequence (r : RawReading) (sequence : UInt16) :
    validateSensorDataImpl { r with sequence := sequence }.toData =
      { validateSensorDataImpl r.toData with sequence := sequence } := by
  have hchecks : ∀ check ∈ rangeChecks, ∀ d : SensorData, check.1 { d with sequence := sequence } = check.1 d := by
    intro check hcheck d
    simp only [rangeChecks, List.mem_cons, List.not_mem_nil, or_false] at hcheck
    rcases hcheck with rfl | rfl | rfl | rfl | rfl | rfl | rfl <;> rfl
  exact runChecks_map (fun d => { d with sequence := sequence }) (fun _ _ => rfl) rangeChecks hchecks r.toData

/-! ### Normal responses -/

namespace Modbus

/-- The part of a normal response under the checksum. -/
def responseBody (slaveId : UInt8) (function : FunctionCode) (registers : List UInt16) : List UInt8 :=
  [slaveId, function.code, UInt8.ofNat (registers.length * 2)] ++ registers.flatMap u16Be

/-- What a slave answers to a request for registers with these values. -/
def normalResponse (slaveId : UInt8) (function : FunctionCode) (registers : List UInt16) : List UInt8 :=
  responseBody slaveId function registers ++ crcBytes (crc16Modbus (responseBody slaveId function registers))

lemma length_flatMap_u16Be (registers : List UInt16) : (registers.flatMap u16Be).length = registers.length * 2 := by
  induction registers with
  | nil => rfl
  | cons v registers ih =>
    rw [List.flatMap_cons, List.length_append, ih, List.length_cons]
    change 2 + _ = _
    omega

lemma FunctionCode.code_ne_exception (function : FunctionCode) : function.code ≠ function.code ||| 0x80 := by
  cases function with
  | readHoldingRegisters => decide
  | readInputRegisters => decide

/-- A response with the registers that were asked for is read back, as far as its length fits into the
byte count. -/
lemma parseReadResponse_normalResponse {request : ReadRequest} {registers : List UInt16}
    (hcount : registers.length = request.registerCount.toNat) (hbound : registers.length * 2 ≤ 255) :
    parseReadResponse (normalResponse request.slaveId request.function registers) request =
      { status := .ok, registers := registers } := by
  have hlength : (normalResponse request.slaveId request.function registers).length = registers.length * 2 + 5 := by
    simp only [normalResponse, responseBody, crcBytes, List.length_append, List.length_cons, List.length_nil,
      length_flatMap_u16Be]
    omega
  have hcrc : hasValidCrc (normalResponse request.slaveId request.function registers) = true :=
    (hasValidCrc_iff _).mpr ⟨by omega, _, rfl⟩
  have hfirst : (normalResponse request.slaveId request.function registers)[0] = request.slaveId := rfl
  have hsecond : (normalResponse request.slaveId request.function registers)[1] = request.function.code := rfl
  have hthird : (normalResponse request.slaveId request.function registers)[2].toNat = registers.length * 2 := by
    change (UInt8.ofNat (registers.length * 2)).toNat = _
    rw [UInt8.toNat_ofNat']
    omega
  have hbytes : ¬(registers.length * 2 ≠ request.registerCount.toNat * 2 ∨
      (normalResponse request.slaveId request.function registers).length ≠ registers.length * 2 + 5) := by
    rw [hcount, hlength]
    omega
  unfold parseReadResponse
  rw [dif_neg (by omega), hcrc, Bool.not_true, if_neg Bool.false_ne_true]
  dsimp only
  rw [if_neg (not_not.mpr hfirst), hsecond, if_neg request.function.code_ne_exception, if_neg (not_not.mpr rfl)]
  simp only [hthird]
  rw [dif_neg hbytes]
  congr 1
  have hlast : 3 + registers.length * 2 =
      [request.slaveId, request.function.code, UInt8.ofNat (registers.length * 2)].length + 2 * registers.length := by
    simp only [List.length_cons, List.length_nil]
    omega
  simp only [normalResponse, responseBody, List.append_assoc]
  exact readRegisters_append _ _ registers _ hlast _

end Modbus

namespace RawReading

/-! ### The decoders -/

lemma parseSensorData_uartFrame (r : RawReading) :
    parseSensorData r.uartFrame.toFrame =
      ((validateSensorDataImpl r.toData).valid, validateSensorDataImpl r.toData) := by
  have htemperature : readU16Be r.payload 0 (by simp [payload, u16Be]) = r.temperature.toUInt16 := word_u16Be _
  have hhumidity : readU16Be r.payload 2 (by simp [payload, u16Be]) = r.humidity := word_u16Be _
  have hgas : readU16Be r.payload 4 (by simp [payload, u16Be]) = r.gas := word_u16Be _
  have hbattery : readU16Be r.payload 6 (by simp [payload, u16Be]) = r.battery := word_u16Be _
  have hsequence : readU16Be r.payload 9 (by simp [payload, u16Be]) = r.sequence := word_u16Be _
  have hsize : ¬r.uartFrame.toFrame.payload.length ≠ kSensorPayloadSize := by
    simp [WireFrame.toFrame, uartFrame, payload, u16Be, kSensorPayloadSize]
  unfold parseSensorData
  rw [dif_neg hsize]
  simp only [WireFrame.toFrame, uartFrame, htemperature, hhumidity, hgas, hbattery, hsequence]
  rfl

lemma modbusResponse_eq (r : RawReading) (function : Modbus.FunctionCode) :
    r.modbusResponse function = Modbus.normalResponse r.deviceId function r.registers := rfl

lemma registersToDeviceData_registers (r : RawReading) :
    Modbus.registersToDeviceData { status := .ok, registers := r.registers } r.deviceId =
      .ok (r.toDeviceData .modbusRtu) := by
  have hstatus : r.status.toUInt16.toUInt8 = r.status := by simp
  calc Modbus.registersToDeviceData { status := .ok, registers := r.registers } r.deviceId
      = .ok { r.toDeviceData .modbusRtu with status := r.status.toUInt16.toUInt8 } := rfl
    _ = .ok (r.toDeviceData .modbusRtu) := by rw [hstatus]; rfl

/-- A standard identifier has none of the flags and no bit above the eleventh. -/
lemma standard_id {canId : UInt32} (h : canId ≤ 0x7FF) :
    canId &&& (canRtrFlag ||| canErrFlag) = 0 ∧ canId &&& canEffFlag = 0 ∧ canId &&& canSffMask = canId ∧
      canId &&& 0x1FFFFFFF = canId := by
  have hle : canId.toNat ≤ 2047 := h
  have hmask : canId &&& 0x7FF = canId := by
    apply UInt32.toNat_inj.mp
    have heleven : (0x7FF : UInt32).toNat = 2 ^ 11 - 1 := rfl
    rw [UInt32.toNat_and, heleven, Nat.and_two_pow_sub_one_eq_mod]
    omega
  have hand : ∀ m : UInt32, canId &&& m = canId &&& (0x7FF &&& m) := by
    intro m
    rw [← UInt32.and_assoc, hmask]
  refine ⟨?_, ?_, hmask, ?_⟩
  · rw [hand]
    exact UInt32.and_zero
  · rw [hand]
    exact UInt32.and_zero
  · rw [hand]
    exact hmask

lemma battery_in_hundreds {battery : UInt16} (hmultiple : battery % 100 = 0) (hbound : battery ≤ 25500) :
    (battery / 100).toUInt8.toUInt16 * 100 = battery := by
  apply UInt16.toNat_inj.mp
  have hle : battery.toNat ≤ 25500 := hbound
  have hzero : battery.toNat % 100 = 0 := congrArg UInt16.toNat hmultiple
  have hbyte : battery.toNat / 100 % 2 ^ 8 = battery.toNat / 100 := Nat.mod_eq_of_lt (by omega)
  have hhundred : (100 : UInt16).toNat = 100 := rfl
  simp only [UInt16.toNat_mul, UInt8.toNat_toUInt16, UInt16.toNat_toUInt8, UInt16.toNat_div, hhundred, hbyte]
  omega

lemma parseSensorFrame_canFrame (r : RawReading) {canId : UInt32} (hid : canId ≤ 0x7FF)
    (hlow : canId &&& 0xFF = r.deviceId.toUInt32) (hmultiple : r.battery % 100 = 0)
    (hbound : r.battery ≤ 25500) :
    Canbus.parseSensorFrame { id := canId, dlc := 8, data := r.canData } =
      .ok ({ r with sequence := 0 }.toDeviceData .socketCan) := by
  obtain ⟨-, -, -, hmask⟩ := standard_id hid
  have hstandard : ¬(false = true ∨ canId &&& 0x1FFFFFFF > 0x7FF) := by
    rw [hmask]
    simpa using hid
  have hdevice : (canId &&& 0xFF).toUInt8 = r.deviceId := by
    rw [hlow]
    simp
  have htemperature : readU16Be r.canData.toList 0 (by simp) = r.temperature.toUInt16 := word_u16Be _
  have hhumidity : readU16Be r.canData.toList 2 (by simp) = r.humidity := word_u16Be _
  have hgas : readU16Be r.canData.toList 4 (by simp) = r.gas := word_u16Be _
  have hbattery : r.canData[6].toUInt16 * 100 = r.battery := battery_in_hundreds hmultiple hbound
  unfold Canbus.parseSensorFrame
  rw [if_neg hstandard, if_neg (not_not.mpr rfl)]
  simp only [htemperature, hhumidity, hgas, hbattery, hdevice]
  rfl

end RawReading

end EdgeGateway
