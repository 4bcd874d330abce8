import EdgeGateway.Model.DeviceInterface
import EdgeGateway.Model.ModbusRtu

/-!
# The Modbus device

`ModbusDevice` of `device/modbus_device.cpp`. Time points of the steady clock are integers, in
nanoseconds.
-/

namespace EdgeGateway
open CallTree DeviceCall

def nanosecondsPerMillisecond : Int := 1000000

/-- `duration_cast<milliseconds>` rounds towards zero. -/
def durationCastMilliseconds (nanoseconds : Int) : Int :=
  nanoseconds.tdiv nanosecondsPerMillisecond

structure ModbusDeviceOptions where
  port : Text
  baudRate : Int := 115200
  request : Modbus.ReadRequest := {}
  pollIntervalMs : Int := 1000
  responseTimeoutMs : Int := 500

structure ModbusDevice where
  options : ModbusDeviceOptions
  nextPoll : Int := 0
  status : DeviceStatus := { deviceId := options.request.slaveId.toUInt32, protocol := .modbusRtu }

/-- The variable `expected_size` of `read`. A byte count is at most 255. -/
abbrev ExpectedSize := { n : Nat // n ≤ 260 }

namespace ModbusDevice

def recordError (d : ModbusDevice) : ModbusDevice :=
  { d with status := { d.status with errorCount := d.status.errorCount + 1 } }

def setOnline (d : ModbusDevice) (online : Bool) : ModbusDevice :=
  { d with status := { d.status with online := online } }

def start (d : ModbusDevice) : DeviceCall (Option Text × ModbusDevice) := do
  match ← openPort d.options.port d.options.baudRate with
  | some error => return (some error, d.recordError)
  | none =>
    let now ← steadyNow
    return (none, { d with nextPoll := now }.setOnline true)

def stop (d : ModbusDevice) : DeviceCall ModbusDevice := do
  closePort
  return d.setOnline false

def updateExpectedSize (response : List UInt8) (expectedSize : ExpectedSize) : ExpectedSize :=
  match response with
  | _ :: function :: rest =>
    if function &&& 0x80 ≠ 0 then
      ⟨5, by decide⟩
    else
      match rest with
      | count :: _ => ⟨3 + count.toNat + 2, by have := count.toNat_lt; omega⟩
      | [] => expectedSize
  | _ => expectedSize

/-- The loop that collects the response: the bytes, or the error of the transport. -/
def collectResponse (deadline : Int) (response : List UInt8) (expectedSize : ExpectedSize) :
    DeviceCall (Except Text (List UInt8)) := do
  let now ← steadyNow
  if _hmore : now < deadline ∧ response.length < expectedSize then
    let now ← steadyNow
    match ← readSome (durationCastMilliseconds (deadline - now)) with
    | .error error => return .error error
    | .ok [] => return .ok response
    | .ok (byte :: bytes) =>
      collectResponse deadline (response ++ byte :: bytes)
        (updateExpectedSize (response ++ byte :: bytes) expectedSize)
  else
    return .ok response
termination_by 260 - response.length
decreasing_by
  have := expectedSize.2
  simp only [List.length_append, List.length_cons]
  omega

/-- The part of `read` with a response. -/
def decode (d : ModbusDevice) (response : List UInt8) : DeviceCall (DeviceReadResult × ModbusDevice) :=
  let parsed := Modbus.parseReadResponse response d.options.request
  if parsed.status ≠ .ok then
    return ({ code := .protocolError, error := parsed.error }, d.recordError)
  else
    match Modbus.registersToDeviceData parsed d.options.request.slaveId with
    | .error error => return ({ code := .protocolError, error := error }, d.recordError)
    | .ok deviceData => do
      let sensorData := toSensorData deviceData
      let now ← unixSeconds
      let status := { d.status with online := true, lastUpdateUnixSeconds := now }
      return ({ code := .data, data := some sensorData }, { d with status := status })

/-- The exits of `read` on a failed transport. -/
def failTransport (d : ModbusDevice) (error : Text) : DeviceCall (DeviceReadResult × ModbusDevice) := do
  let d ← d.recordError.stop
  return ({ code := .transportError, error := error }, d)

/-- The part of `read` after the decision to poll. -/
def poll (d : ModbusDevice) : DeviceCall (DeviceReadResult × ModbusDevice) := do
  match ← discardInput with
  | some error => d.failTransport error
  | none =>
    match ← writeAll (Modbus.buildReadRequest d.options.request) with
    | some error => d.failTransport error
    | none =>
      let now ← steadyNow
      let deadline := now + d.options.responseTimeoutMs * nanosecondsPerMillisecond
      match ← collectResponse deadline [] ⟨5, by decide⟩ with
      | .error error => d.failTransport error
      | .ok [] =>
        return ({ code := .timeout, error := ascii "Modbus response timeout" }, d.recordError.setOnline false)
      | .ok (byte :: bytes) => d.decode (byte :: bytes)

def read (timeout : Int) (d : ModbusDevice) : DeviceCall (DeviceReadResult × ModbusDevice) := do
  let now ← steadyNow
  if now < d.nextPoll then
    sleepFor (min timeout (durationCastMilliseconds (d.nextPoll - now)))
    return ({}, d)
  else
    poll { d with nextPoll := now + d.options.pollIntervalMs * nanosecondsPerMillisecond }

def interface : DeviceInterface ModbusDevice where
  start := start
  stop := stop
  read := read
  getDeviceStatus := status

end ModbusDevice

end EdgeGateway
