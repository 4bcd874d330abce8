import EdgeGateway.Lib.CallTree
import EdgeGateway.Model.CanParser

/-!
# Devices

`DeviceInterface` of `device/device_interface.h`, over the calls that devices make: the serial port,
the CAN socket, the clocks and sleeping. Times are in nanoseconds, waits in milliseconds.
-/

namespace EdgeGateway
open CallTree

inductive ReadCode where
  | data
  | timeout
  | protocolError
  | transportError
deriving DecidableEq

structure ProtocolErrorStats where
  crcErrors : Nat := 0
  lengthErrors : Nat := 0
  overflowBytes : Nat := 0
  genericErrors : Nat := 0
deriving DecidableEq

namespace ProtocolErrorStats

def total (s : ProtocolErrorStats) : Nat :=
  s.crcErrors + s.lengthErrors + s.overflowBytes + s.genericErrors

def invalidFrameCount (s : ProtocolErrorStats) : Nat :=
  s.crcErrors + s.lengthErrors + s.genericErrors

def isEmpty (s : ProtocolErrorStats) : Bool :=
  s.total == 0

end ProtocolErrorStats

structure DeviceReadResult where
  code : ReadCode := .timeout
  data : Option SensorData := none
  error : Text := []
  errorStats : ProtocolErrorStats := {}

structure DeviceStatus where
  deviceId : UInt32 := 0
  protocol : ProtocolType := .uart
  online : Bool := false
  lastUpdateUnixSeconds : Nat := 0
  errorCount : Nat := 0

/-- The `can_frame` of the kernel. -/
structure RawCanFrame where
  canId : UInt32
  canDlc : UInt8
  data : Vector UInt8 8

/-- What `poll` and `recv` give to `read_frame`. -/
inductive CanReceive where
  | nothing
  | failed (error : Text)
  | received (frame : RawCanFrame)

/-- Calls that devices make. An opening or writing call answers with its error message, `readSome` with
the error message or the bytes read, none on a timeout. An exception that nobody catches ends the
process: `terminate` has no answer. -/
inductive DeviceOp where
  | openPort (path : Text) (baudRate : Int)
  | closePort
  | readSome (timeout : Int)
  | discardInput
  | writeAll (data : List UInt8)
  | openCan (interfaceName : Text)
  | closeCan
  | receiveCan (timeout : Int)
  | steadyNow
  | unixSeconds
  | sleepFor (milliseconds : Int)
  | terminate (what : String)

abbrev DeviceOp.Ans : DeviceOp → Type
  | .openPort _ _ => Option Text
  | .closePort => Unit
  | .readSome _ => Except Text (List UInt8)
  | .discardInput => Option Text
  | .writeAll _ => Option Text
  | .openCan _ => Option Text
  | .closeCan => Unit
  | .receiveCan _ => CanReceive
  | .steadyNow => Int
  | .unixSeconds => Nat
  | .sleepFor _ => Unit
  | .terminate _ => Empty

abbrev deviceSignature : Signature :=
  ⟨DeviceOp, DeviceOp.Ans⟩

abbrev DeviceCall := Prog deviceSignature

namespace DeviceCall

def openPort (path : Text) (baudRate : Int) : DeviceCall (Option Text) :=
  .perform (E := deviceSignature) (.openPort path baudRate)

def closePort : DeviceCall Unit :=
  .perform (E := deviceSignature) .closePort

def readSome (timeout : Int) : DeviceCall (Except Text (List UInt8)) :=
  .perform (E := deviceSignature) (.readSome timeout)

def discardInput : DeviceCall (Option Text) :=
  .perform (E := deviceSignature) .discardInput

def writeAll (data : List UInt8) : DeviceCall (Option Text) :=
  .perform (E := deviceSignature) (.writeAll data)

def openCan (interfaceName : Text) : DeviceCall (Option Text) :=
  .perform (E := deviceSignature) (.openCan interfaceName)

def closeCan : DeviceCall Unit :=
  .perform (E := deviceSignature) .closeCan

def receiveCan (timeout : Int) : DeviceCall CanReceive :=
  .perform (E := deviceSignature) (.receiveCan timeout)

def steadyNow : DeviceCall Int :=
  .perform (E := deviceSignature) .steadyNow

def unixSeconds : DeviceCall Nat :=
  .perform (E := deviceSignature) .unixSeconds

def sleepFor (milliseconds : Int) : DeviceCall Unit :=
  .perform (E := deviceSignature) (.sleepFor milliseconds)

def terminate {α : Type} (what : String) : DeviceCall α :=
  .call (E := deviceSignature) (.terminate what) Empty.elim

end DeviceCall

/-- The virtual functions of a device with state `σ`. `start` gives the error message when it returns
`false`. -/
structure DeviceInterface (σ : Type) where
  start : σ → DeviceCall (Option Text × σ)
  stop : σ → DeviceCall σ
  read : Int → σ → DeviceCall (DeviceReadResult × σ)
  getDeviceStatus : σ → DeviceStatus

end EdgeGateway
