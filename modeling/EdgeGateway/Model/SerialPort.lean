import EdgeGateway.Model.DeviceInterface
import EdgeGateway.Model.TcpClient

/-!
# The serial port

`SerialPort` of `device/serial_port.cpp`, over the system calls it makes. The loops around `poll` and `write`
go round again whenever a call was interrupted, so nothing bounds them: they are followed for a number of
passes, and `spin` stands for what comes after these.
-/

namespace EdgeGateway
open CallTree

/-- The settings of a terminal. The speeds are fields of their own, whatever bits a platform keeps them in. -/
structure Termios where
  iflag : UInt32
  oflag : UInt32
  cflag : UInt32
  lflag : UInt32
  ispeed : UInt32
  ospeed : UInt32
  vmin : UInt8
  vtime : UInt8
deriving DecidableEq

namespace Termios

def ignbrk : UInt32 := 0x1
def brkint : UInt32 := 0x2
def parmrk : UInt32 := 0x8
def istrip : UInt32 := 0x20
def inlcr : UInt32 := 0x40
def igncr : UInt32 := 0x80
def icrnl : UInt32 := 0x100
def ixon : UInt32 := 0x400
def opost : UInt32 := 0x1
def csize : UInt32 := 0x30
def cs8 : UInt32 := 0x30
def cstopb : UInt32 := 0x40
def cread : UInt32 := 0x80
def parenb : UInt32 := 0x100
def clocal : UInt32 := 0x800
def crtscts : UInt32 := 0x80000000
def isig : UInt32 := 0x1
def icanon : UInt32 := 0x2
def echo : UInt32 := 0x8
def echonl : UInt32 := 0x40
def iexten : UInt32 := 0x8000

/-- The bits of the input flags that `cfmakeraw` clears. -/
def cookedInput : UInt32 :=
  ignbrk ||| brkint ||| parmrk ||| istrip ||| inlcr ||| igncr ||| icrnl ||| ixon

/-- The bits of the local flags that `cfmakeraw` clears. -/
def cookedLocal : UInt32 :=
  echo ||| echonl ||| icanon ||| isig ||| iexten

/-- `VMIN` and `VTIME`, which `cfmakeraw` may set too, are set by `open_port` afterwards. -/
def cfmakeraw (tty : Termios) : Termios :=
  { tty with
    iflag := tty.iflag &&& ~~~cookedInput
    oflag := tty.oflag &&& ~~~opost
    lflag := tty.lflag &&& ~~~cookedLocal
    cflag := (tty.cflag &&& ~~~(csize ||| parenb)) ||| cs8 }

def cfsetispeed (tty : Termios) (speed : UInt32) : Termios :=
  { tty with ispeed := speed }

def cfsetospeed (tty : Termios) (speed : UInt32) : Termios :=
  { tty with ospeed := speed }

end Termios

/-- What `poll` returns, with `errno` and the events as they stand then. -/
structure PollAnswer where
  result : Int
  errno : Int := 0
  revents : UInt16 := 0

/-- What `recv` gives for a CAN frame: the number of bytes and the frame they fill. -/
structure CanAnswer where
  received : Int
  frame : RawCanFrame

/-- `openSerial` answers with a descriptor, `tcgetattr` and `ioctlIndex` with their value or nothing, `read` with
`errno` or the bytes read, and `strerror` with the text for `errno`. -/
inductive SysOp where
  | openSerial (path : Text)
  | tcgetattr (fd : Int)
  | tcsetattr (fd : Int) (tty : Termios)
  | tcflush (fd : Int)
  | write (fd : Int) (data : List UInt8)
  | poll (fd : Int) (timeout : Int)
  | read (fd : Int) (capacity : Nat)
  | close (fd : Int)
  | socketCan
  | ioctlIndex (fd : Int) (name : Text)
  | bindCan (fd : Int) (index : Int)
  | recvCan (fd : Int)
  | strerror
  | spin

abbrev SysOp.Ans : SysOp → Type
  | .openSerial _ => Int
  | .tcgetattr _ => Option Termios
  | .tcsetattr _ _ => Int
  | .tcflush _ => Int
  | .write _ _ => SendAnswer
  | .poll _ _ => PollAnswer
  | .read _ _ => Except Int (List UInt8)
  | .close _ => Unit
  | .socketCan => Int
  | .ioctlIndex _ _ => Option Int
  | .bindCan _ _ => Int
  | .recvCan _ => CanAnswer
  | .strerror => Text
  | .spin => Empty

abbrev sysSignature : Signature :=
  ⟨SysOp, SysOp.Ans⟩

abbrev SysCall := Prog sysSignature

namespace SysCall

def perform (o : SysOp) : SysCall o.Ans :=
  Prog.perform (E := sysSignature) o

/-- A loop that is not followed any further. -/
def spin {α : Type} : SysCall α :=
  .call (E := sysSignature) .spin Empty.elim

end SysCall

def eagain : Int := 11
def pollErr : UInt16 := 0x8
def pollHup : UInt16 := 0x10
def pollNval : UInt16 := 0x20

/-- `static_cast<int>` of the count of a duration. -/
def castIntOfCount (count : Int) : Int :=
  (BitVec.ofInt 32 count).toInt

/-- `do { ready = poll(…) } while (ready < 0 && errno == EINTR)`. -/
def pollUninterrupted (fd : Int) (timeout : Int) : (passes : Nat) → SysCall PollAnswer
  | 0 => SysCall.spin
  | passes + 1 => do
    let ready ← SysCall.perform (.poll fd (castIntOfCount timeout))
    if ready.result < 0 ∧ ready.errno = eintr then
      pollUninterrupted fd timeout passes
    else
      return ready

structure SerialPort where
  fd : Int := -1

namespace SerialPort
open Termios SysCall

def toSpeed (baudRate : Int) : UInt32 :=
  if baudRate = 9600 then 0xD
  else if baudRate = 19200 then 0xE
  else if baudRate = 38400 then 0xF
  else if baudRate = 57600 then 0x1001
  else if baudRate = 115200 then 0x1002
  else 0

def closePort (p : SerialPort) : SysCall SerialPort := do
  if p.fd ≥ 0 then
    perform (.close p.fd)
    return { p with fd := -1 }
  else
    return p

/-- The settings that `open_port` makes of those it finds. -/
def settings (tty : Termios) (speed : UInt32) : Termios :=
  let tty := cfsetospeed (cfsetispeed (cfmakeraw tty) speed) speed
  let cflag := tty.cflag ||| (clocal ||| cread)
  let cflag := cflag &&& ~~~csize
  let cflag := cflag ||| cs8
  let cflag := cflag &&& ~~~parenb
  let cflag := cflag &&& ~~~cstopb
  let cflag := cflag &&& ~~~crtscts
  { tty with cflag := cflag, vmin := 0, vtime := 0 }

/-- The exits of `open_port` that give up on an open descriptor. -/
def abandon (p : SerialPort) : SysCall (Option Text × SerialPort) := do
  let error ← perform .strerror
  let p ← p.closePort
  return (some error, p)

/-- The part of `open_port` with an open descriptor. -/
def configure (p : SerialPort) (speed : UInt32) : SysCall (Option Text × SerialPort) := do
  match ← perform (.tcgetattr p.fd) with
  | none => p.abandon
  | some tty =>
    if (← perform (.tcsetattr p.fd (settings tty speed))) ≠ 0 then
      p.abandon
    else
      return (none, p)

def openPort (p : SerialPort) (path : Text) (baudRate : Int) : SysCall (Option Text × SerialPort) := do
  let p ← p.closePort
  let speed := toSpeed baudRate
  if speed = 0 then
    return (some (ascii "unsupported baud rate"), p)
  else
    let p := { p with fd := ← perform (.openSerial (cString path)) }
    if p.fd < 0 then
      return (some (← perform .strerror), p)
    else
      p.configure speed

def isOpen (p : SerialPort) : Bool :=
  p.fd ≥ 0

def discardInput (p : SerialPort) : SysCall (Option Text) := do
  if p.fd < 0 then
    return some (ascii "serial port is closed")
  else if (← perform (.tcflush p.fd)) ≠ 0 then
    return some (← perform .strerror)
  else
    return none

/-- The loop of `write_all`, followed for some passes. -/
def writeAll (p : SerialPort) (data : List UInt8) (written : Nat) : (passes : Nat) → SysCall (Option Text)
  | 0 => spin
  | passes + 1 =>
    if written < data.length then do
      let answer ← perform (.write p.fd (data.drop written))
      if answer.result > 0 then
        p.writeAll data (written + answer.result.toNat) passes
      else if answer.result < 0 ∧ (answer.errno = eintr ∨ answer.errno = eagain) then
        p.writeAll data written passes
      else if answer.result = 0 then
        return some (ascii "serial write returned zero")
      else
        return some (← perform .strerror)
    else
      return none

/-- The part of `read_some` after `poll` has found something to read. -/
def receive (p : SerialPort) (capacity : Nat) : SysCall (Except Text (List UInt8)) := do
  match ← perform (.read p.fd capacity) with
  | .error errno =>
    if errno = eintr ∨ errno = eagain then
      return .ok []
    else
      return .error (← perform .strerror)
  | .ok bytes => return .ok bytes

def readSome (p : SerialPort) (capacity : Nat) (timeout : Int) (passes : Nat) :
    SysCall (Except Text (List UInt8)) := do
  let ready ← pollUninterrupted p.fd timeout passes
  if ready.result = 0 then
    return .ok []
  else if ready.result < 0 then
    return .error (← perform .strerror)
  else if ready.revents &&& (pollErr ||| pollHup ||| pollNval) ≠ 0 then
    return .error (ascii "serial connection lost")
  else
    p.receive capacity

end SerialPort

end EdgeGateway
