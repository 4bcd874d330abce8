import EdgeGateway.Lib.Implementation
import EdgeGateway.Model.DeviceManager
import EdgeGateway.Model.SerialPort

/-!
# The calls of the devices as system calls

`SocketCanDevice` of `can/socketcan_device.cpp`, and the calls that devices make, carried out by the serial
port and the CAN socket.
-/

namespace EdgeGateway
open CallTree

structure SocketCanDevice where
  socketFd : Int := -1

namespace SocketCanDevice
open SysCall

def closeDevice (d : SocketCanDevice) : SysCall SocketCanDevice := do
  if d.socketFd ≥ 0 then
    perform (.close d.socketFd)
    return { d with socketFd := -1 }
  else
    return d

/-- The exits of `open_device` that give up on an open descriptor. -/
def abandon (d : SocketCanDevice) : SysCall (Option Text × SocketCanDevice) := do
  let error ← perform .strerror
  let d ← d.closeDevice
  return (some error, d)

def ifnamsiz : Nat := 16

def openDevice (d : SocketCanDevice) (interfaceName : Text) : SysCall (Option Text × SocketCanDevice) := do
  let d ← d.closeDevice
  let d := { d with socketFd := ← perform .socketCan }
  if d.socketFd < 0 then
    return (some (← perform .strerror), d)
  else
    match ← perform (.ioctlIndex d.socketFd ((cString interfaceName).take (ifnamsiz - 1))) with
    | none => d.abandon
    | some index =>
      if (← perform (.bindCan d.socketFd index)) < 0 then
        d.abandon
      else
        return (none, d)

/-- `sizeof(can_frame)`. -/
def canFrameSize : Int := 16

/-- The part of `read_frame` that asks the socket. -/
def receive (d : SocketCanDevice) (timeout : Int) (passes : Nat) : SysCall CanReceive := do
  let ready ← pollUninterrupted d.socketFd timeout passes
  if ready.result = 0 then
    return .nothing
  else if ready.result < 0 then
    return .failed (← perform .strerror)
  else if ready.revents &&& (pollErr ||| pollHup ||| pollNval) ≠ 0 then
    return .failed (ascii "SocketCAN connection lost")
  else
    let answer ← perform (.recvCan d.socketFd)
    if answer.received ≠ canFrameSize then
      if answer.received < 0 then
        return .failed (← perform .strerror)
      else
        return .failed (ascii "short CAN frame")
    else
      return .received answer.frame

end SocketCanDevice

/-- The transports behind a device. A UART or a Modbus device has a serial port and a CAN device a socket. -/
structure Transports where
  port : SerialPort := {}
  can : SocketCanDevice := {}

/-- Calls of a worker whose device is carried out by system calls. The clocks, sleeping and the handlers stay
as they are. -/
inductive HostOp where
  | sys (o : SysOp)
  | worker (o : WorkerOp)

abbrev HostOp.Ans : HostOp → Type
  | .sys o => o.Ans
  | .worker o => o.Ans

abbrev hostSignature : Signature :=
  ⟨HostOp, HostOp.Ans⟩

abbrev HostCall := Prog hostSignature

namespace Transports

def onSys {α : Type} (p : SysCall α) : HostCall α :=
  p.embed (F := hostSignature) HostOp.sys (fun _ a => a)

/-- The buffers that `read` passes to `read_some`. -/
def readCapacity : Nat := 256

/-- The calls of a device, with loops followed for some passes. -/
def device (passes : Nat) : (o : DeviceOp) → Transports → HostCall (o.Ans × Transports)
  | .openPort path baudRate, t => do
    let (error, port) ← onSys (t.port.openPort path baudRate)
    return (error, { t with port := port })
  | .closePort, t => do
    let port ← onSys t.port.closePort
    return ((), { t with port := port })
  | .readSome timeout, t => do
    let answer ← onSys (t.port.readSome readCapacity timeout passes)
    return (answer, t)
  | .discardInput, t => do
    let answer ← onSys t.port.discardInput
    return (answer, t)
  | .writeAll data, t => do
    let answer ← onSys (t.port.writeAll data 0 passes)
    return (answer, t)
  | .openCan interfaceName, t => do
    let (error, can) ← onSys (t.can.openDevice interfaceName)
    return (error, { t with can := can })
  | .closeCan, t => do
    let can ← onSys t.can.closeDevice
    return ((), { t with can := can })
  | .receiveCan timeout, t => do
    let answer ← onSys (t.can.receive timeout passes)
    return (answer, t)
  | o, t => do
    let answer ← Prog.perform (E := hostSignature) (.worker (.device o))
    return (answer, t)

/-- The calls of a worker. -/
def worker (passes : Nat) : Implementation workerSignature hostSignature Transports
  | .device o, t => device passes o t
  | o, t => do
    let answer ← Prog.perform (E := hostSignature) (.worker o)
    return (answer, t)

end Transports

end EdgeGateway
