import EdgeGateway.Model.DeviceInterface

/-!
# The UART device

`UartDevice` of `device/uart_device.cpp`.
-/

namespace EdgeGateway
open CallTree DeviceCall

structure UartDevice where
  path : Text
  baudRate : Int
  parser : FrameParser := .fresh
  pending : List SensorData := []
  status : DeviceStatus := { protocol := .uart }

namespace UartDevice

def recordErrors (d : UartDevice) (count : Nat) : UartDevice :=
  { d with status := { d.status with errorCount := d.status.errorCount + count } }

def setOnline (d : UartDevice) (online : Bool) : UartDevice :=
  { d with status := { d.status with online := online } }

def start (d : UartDevice) : DeviceCall (Option Text × UartDevice) := do
  match ← openPort d.path d.baudRate with
  | some error => return (some error, d.recordErrors 1)
  | none => return (none, { d with parser := d.parser.reset }.setOnline true)

def stop (d : UartDevice) : DeviceCall UartDevice := do
  closePort
  return d.setOnline false

/-- The loop of `read` over the frames: readings go to `pending_`, rejected frames are counted. -/
def takeFrames (pending : List SensorData) (stats : ProtocolErrorStats) :
    List Frame → List SensorData × ProtocolErrorStats
  | [] => (pending, stats)
  | frame :: frames =>
    match parseSensorData frame with
    | (true, data) => takeFrames (pending ++ [data]) stats frames
    | (false, _) => takeFrames pending { stats with genericErrors := stats.genericErrors + 1 } frames

/-- The part of `read` after the parser has been fed. -/
def deliver (d : UartDevice) (stats : ProtocolErrorStats) : DeviceCall (DeviceReadResult × UartDevice) :=
  match d.pending with
  | [] =>
    if !stats.isEmpty then
      return ({ code := .protocolError, error := ascii "UART frame rejected", errorStats := stats }, d)
    else
      return ({}, d)
  | data :: rest => do
    let now ← unixSeconds
    let status :=
      { d.status with
        deviceId := data.deviceId.toUInt32
        online := true
        lastUpdateUnixSeconds := now }
    return (
      { code := .data
        data := some data
        error := if stats.isEmpty then [] else ascii "UART frame rejected"
        errorStats := stats },
      { d with pending := rest, status := status })

/-- The part of `read` with the bytes received. -/
def receive (d : UartDevice) (bytes : List UInt8) : DeviceCall (DeviceReadResult × UartDevice) :=
  match d.parser.feed bytes with
  | .error what => terminate what
  | .ok (parser, frames) =>
    let (crcErrors, parser) := parser.takeCrcErrorCount
    let (lengthErrors, parser) := parser.takeLengthErrorCount
    let (overflowBytes, parser) := parser.takeOverflowByteCount
    let (pending, stats) := takeFrames d.pending
      { crcErrors := crcErrors, lengthErrors := lengthErrors, overflowBytes := overflowBytes } frames
    let d := { d with parser := parser, pending := pending }
    (if !stats.isEmpty then d.recordErrors stats.total else d).deliver stats

def read (timeout : Int) (d : UartDevice) : DeviceCall (DeviceReadResult × UartDevice) :=
  match d.pending with
  | data :: rest => return ({ code := .data, data := some data }, { d with pending := rest })
  | [] => do
    match ← readSome timeout with
    | .error error =>
      let d ← (d.recordErrors 1).stop
      return ({ code := .transportError, error := error }, d)
    | .ok [] => return ({}, d)
    | .ok (byte :: bytes) => d.receive (byte :: bytes)

def interface : DeviceInterface UartDevice where
  start := start
  stop := stop
  read := read
  getDeviceStatus := status

end UartDevice

end EdgeGateway
