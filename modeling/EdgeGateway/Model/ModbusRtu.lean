import EdgeGateway.Model.Crc16
import EdgeGateway.Model.SensorData

/-!
# Modbus RTU frames

Requests, responses and the register map of `modbus/modbus_rtu.cpp`.
-/

namespace EdgeGateway.Modbus

inductive FunctionCode where
  | readHoldingRegisters
  | readInputRegisters
deriving DecidableEq

def FunctionCode.code : FunctionCode → UInt8
  | .readHoldingRegisters => 0x03
  | .readInputRegisters => 0x04

inductive ResponseStatus where
  | ok
  | crcError
  | exceptionResponse
  | lengthError
  | addressMismatch
  | functionMismatch
deriving DecidableEq

structure ReadRequest where
  slaveId : UInt8 := 1
  function : FunctionCode := .readHoldingRegisters
  startAddress : UInt16 := 0
  registerCount : UInt16 := 6

structure ReadResponse where
  status : ResponseStatus := .lengthError
  registers : List UInt16 := []
  exceptionCode : UInt8 := 0
  error : Text := []

def hasValidCrc (frame : List UInt8) : Bool :=
  if hsize : frame.length < 4 then
    false
  else
    let payloadSize := frame.length - 2
    let expected := crc16Modbus (frame.take payloadSize)
    have h0 : payloadSize < frame.length := by omega
    have h1 : payloadSize + 1 < frame.length := by omega
    let received := frame[payloadSize].toUInt16 ||| frame[payloadSize + 1].toUInt16 <<< 8
    expected == received

theorem hasValidCrc_iff (frame : List UInt8) :
    hasValidCrc frame = true ↔ 4 ≤ frame.length ∧ ∃ data, frame = data ++ crcBytes (crc16Modbus data) := by
  unfold hasValidCrc
  by_cases hsize : frame.length < 4
  · rw [dif_pos hsize]
    simp only [Bool.false_eq_true, false_iff, not_and]
    omega
  · rw [dif_neg hsize]
    have hfour : 4 ≤ frame.length := by omega
    obtain ⟨lo, hi, hlast⟩ := List.length_eq_two.mp
      (show (frame.drop (frame.length - 2)).length = 2 by rw [List.length_drop]; omega)
    have hsplit : frame = frame.take (frame.length - 2) ++ [lo, hi] := by
      rw [← hlast, List.take_append_drop]
    generalize frame.take (frame.length - 2) = data at hsplit
    subst hsplit
    have hdata : (data ++ [lo, hi]).length - 2 = data.length := by simp
    have hone : data.length.succ - data.length = 1 := by omega
    simp only [hdata, List.take_left', List.getElem_append_right (le_refl data.length),
      List.getElem_append_right (Nat.le_succ data.length), Nat.sub_self, List.getElem_cons_zero,
      hone, List.getElem_cons_succ, beq_iff_eq]
    constructor
    · intro hcrc
      exact ⟨hfour, data, by rw [hcrc, crcBytes_word]⟩
    · rintro ⟨-, data', heq⟩
      obtain ⟨rfl, hbytes⟩ := List.append_inj' heq rfl
      rw [crcBytes, List.cons.injEq, List.cons.injEq] at hbytes
      rw [hbytes.1, hbytes.2.1, word_crcBytes]

def buildReadRequest (request : ReadRequest) : List UInt8 :=
  let frame := [request.slaveId, request.function.code] ++ u16Be request.startAddress ++
    u16Be request.registerCount
  frame ++ crcBytes (crc16Modbus frame)

/-- The loop over the register bytes, from `offset` on. -/
def readRegisters (frame : List UInt8) (offset last : Nat) (h : last + 1 < frame.length) : List UInt16 :=
  if hlt : offset < last then
    readU16Be frame offset (by omega) :: readRegisters frame (offset + 2) last h
  else
    []
termination_by last - offset

def parseReadResponse (frame : List UInt8) (request : ReadRequest) : ReadResponse :=
  if hshort : frame.length < 5 then
    { error := ascii "Modbus response is too short" }
  else
    if !hasValidCrc frame then
      { status := .crcError, error := ascii "Modbus response CRC mismatch" }
    else
      have hsize : 5 ≤ frame.length := Nat.not_lt.mp hshort
      if frame[0] ≠ request.slaveId then
        { status := .addressMismatch, error := ascii "Modbus slave address mismatch" }
      else if frame[1] = request.function.code ||| 0x80 then
        if frame.length ≠ 5 then
          { status := .lengthError, error := ascii "Modbus exception response length is invalid" }
        else
          { status := .exceptionResponse
            exceptionCode := frame[2]
            error := ascii "Modbus slave exception code=" ++ decimal frame[2].toNat }
      else if frame[1] ≠ request.function.code then
        { status := .functionMismatch, error := ascii "Modbus function code mismatch" }
      else
        let byteCount := frame[2].toNat
        let expectedByteCount := request.registerCount.toNat * 2
        if hcount : byteCount ≠ expectedByteCount ∨ frame.length ≠ byteCount + 5 then
          { status := .lengthError, error := ascii "Modbus register byte count is invalid" }
        else
          { status := .ok
            registers := readRegisters frame 3 (3 + byteCount) (by omega) }

/-- `false` and the error message, or the data. -/
def registersToDeviceData (response : ReadResponse) (deviceId : UInt8) : Except Text DeviceData :=
  if response.status ≠ .ok then
    .error response.error
  else if hsize : response.registers.length < 6 then
    .error (ascii "six sensor registers are required")
  else
    have hsix : 6 ≤ response.registers.length := Nat.not_lt.mp hsize
    .ok
      { deviceId := deviceId
        protocol := .modbusRtu
        temperatureC := ⟨response.registers[0].toInt16.toInt⟩
        humidityPercent := ⟨response.registers[1].toNat⟩
        gasPpm := response.registers[2]
        batteryMv := response.registers[3]
        status := response.registers[4].toUInt8
        sequence := response.registers[5] }

end EdgeGateway.Modbus
