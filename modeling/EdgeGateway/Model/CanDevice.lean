import EdgeGateway.Model.DeviceInterface

/-!
# The CAN device

`SocketCanDevice::read_frame` of `can/socketcan_device.cpp` and `CanDevice` of `device/can_device.cpp`.
-/

namespace EdgeGateway
open CallTree DeviceCall

def canEffFlag : UInt32 := 0x80000000
def canRtrFlag : UInt32 := 0x40000000
def canErrFlag : UInt32 := 0x20000000
def canSffMask : UInt32 := 0x000007FF
def canEffMask : UInt32 := 0x1FFFFFFF

/-- The results 0, -1, 2 and 1 of `read_frame`. -/
inductive CanRead where
  | nothing
  | failed (error : Text)
  | rejected (error : Text)
  | frame (frame : Canbus.CanFrame)

def readFrame (timeout : Int) : DeviceCall CanRead := do
  match ← receiveCan timeout with
  | .nothing => return .nothing
  | .failed error => return .failed error
  | .received frame =>
    if frame.canId &&& (canRtrFlag ||| canErrFlag) ≠ 0 then
      return .rejected (ascii "CAN RTR or error frame is not sensor data")
    else
      let extended : Bool := frame.canId &&& canEffFlag ≠ 0
      return .frame
        { id := if extended then frame.canId &&& canEffMask else frame.canId &&& canSffMask
          extended := extended
          dlc := frame.canDlc
          data := frame.data }

structure CanDevice where
  interfaceName : Text
  status : DeviceStatus := { protocol := .socketCan }

namespace CanDevice

def recordError (d : CanDevice) : CanDevice :=
  { d with status := { d.status with errorCount := d.status.errorCount + 1 } }

def setOnline (d : CanDevice) (online : Bool) : CanDevice :=
  { d with status := { d.status with online := online } }

def start (d : CanDevice) : DeviceCall (Option Text × CanDevice) := do
  match ← openCan d.interfaceName with
  | some error => return (some error, d.recordError)
  | none => return (none, d.setOnline true)

def stop (d : CanDevice) : DeviceCall CanDevice := do
  closeCan
  return d.setOnline false

def read (timeout : Int) (d : CanDevice) : DeviceCall (DeviceReadResult × CanDevice) := do
  match ← readFrame timeout with
  | .nothing => return ({}, d)
  | .failed error =>
    let d ← d.recordError.stop
    return ({ code := .transportError, error := error }, d)
  | .rejected error => return ({ code := .protocolError, error := error }, d.recordError)
  | .frame frame =>
    match Canbus.parseSensorFrame frame with
    | .error error => return ({ code := .protocolError, error := error }, d.recordError)
    | .ok deviceData =>
      let sensorData := toSensorData deviceData
      let now ← unixSeconds
      let status :=
        { d.status with
          deviceId := sensorData.deviceId.toUInt32
          online := true
          lastUpdateUnixSeconds := now }
      return ({ code := .data, data := some sensorData }, { d with status := status })

def interface : DeviceInterface CanDevice where
  start := start
  stop := stop
  read := read
  getDeviceStatus := status

end CanDevice

end EdgeGateway
