import EdgeGateway.Model.DeviceInterface
import EdgeGateway.Model.Metrics
import EdgeGateway.Model.ReliablePublisher

/-!
# The device manager

`run_device` of `device/device_manager.cpp`: the loop of a worker over one device. The handlers are
programs over calls of their own. That a handler is invoked is itself an event of the worker, and so
is each call made inside it.
-/

namespace EdgeGateway
open CallTree

inductive LogLevel where
  | debug
  | info
  | warn
  | error
deriving DecidableEq

/-- An entry of the vector that `PublisherGroup::publish` returns. -/
structure PublishOutcome where
  channel : Text
  status : PublishStatus

inductive HandlerOp where
  | record (counter : Counter) (count : Nat)
  | publish (topic payload : Text)
  | log (level : LogLevel) (component message : Text)

abbrev HandlerOp.Ans : HandlerOp → Type
  | .record _ _ => Unit
  | .publish _ _ => List PublishOutcome
  | .log _ _ _ => Unit

abbrev handlerSignature : Signature :=
  ⟨HandlerOp, HandlerOp.Ans⟩

inductive WorkerOp where
  | device (o : DeviceOp)
  | sleepFor (seconds : Int)
  | handleData (data : SensorData) (protocol : ProtocolType)
  | handleError (protocol : ProtocolType) (code : ReadCode) (error : Text) (stats : ProtocolErrorStats)
  | inDataHandler (o : HandlerOp)
  | inErrorHandler (o : HandlerOp)

abbrev WorkerOp.Ans : WorkerOp → Type
  | .device o => o.Ans
  | .sleepFor _ => Unit
  | .handleData _ _ => Unit
  | .handleError _ _ _ _ => Unit
  | .inDataHandler o => o.Ans
  | .inErrorHandler o => o.Ans

abbrev workerSignature : Signature :=
  ⟨WorkerOp, WorkerOp.Ans⟩

abbrev WorkerCall := Prog workerSignature

namespace WorkerCall

def device {α : Type} (p : DeviceCall α) : WorkerCall α :=
  p.embed (F := workerSignature) WorkerOp.device (fun _ a => a)

def inDataHandler {α : Type} (p : Prog handlerSignature α) : WorkerCall α :=
  p.embed (F := workerSignature) WorkerOp.inDataHandler (fun _ a => a)

def inErrorHandler {α : Type} (p : Prog handlerSignature α) : WorkerCall α :=
  p.embed (F := workerSignature) WorkerOp.inErrorHandler (fun _ a => a)

def sleepFor (seconds : Int) : WorkerCall Unit :=
  .perform (E := workerSignature) (.sleepFor seconds)

end WorkerCall

abbrev DataHandler :=
  SensorData → ProtocolType → Prog handlerSignature Unit

abbrev ErrorHandler :=
  ProtocolType → ReadCode → Text → ProtocolErrorStats → Prog handlerSignature Unit

/-- What `run_device` reads of the manager. A handler that was not given is an empty
`std::function`. -/
structure DeviceManager where
  reconnectInterval : Int
  dataHandler : Option DataHandler
  errorHandler : Option ErrorHandler

/-- The variables of a worker between two passes of its loop. -/
structure Worker (σ : Type) where
  started : Bool := false
  input : σ

namespace DeviceManager

def callDataHandler (m : DeviceManager) (data : SensorData) (protocol : ProtocolType) : WorkerCall Unit :=
  match m.dataHandler with
  | none => return ()
  | some handler => do
    .perform (E := workerSignature) (.handleData data protocol)
    WorkerCall.inDataHandler (handler data protocol)

def callErrorHandler (m : DeviceManager) (protocol : ProtocolType) (code : ReadCode) (error : Text)
    (stats : ProtocolErrorStats) : WorkerCall Unit :=
  match m.errorHandler with
  | none => return ()
  | some handler => do
    .perform (E := workerSignature) (.handleError protocol code error stats)
    WorkerCall.inErrorHandler (handler protocol code error stats)

/-- The data handler is called for a result with data. -/
def handOver (m : DeviceManager) (result : DeviceReadResult) (protocol : ProtocolType) : WorkerCall Unit :=
  match result.code, result.data with
  | .data, some data => m.callDataHandler data protocol
  | _, _ => return ()

/-- The condition `report_error`. -/
def reportError (result : DeviceReadResult) (protocol : ProtocolType) : Bool :=
  !result.errorStats.isEmpty || result.code = .protocolError || result.code = .transportError ||
    (result.code = .timeout && protocol = .modbusRtu)

def report (m : DeviceManager) (result : DeviceReadResult) (protocol : ProtocolType) : WorkerCall Unit :=
  if reportError result protocol then
    m.callErrorHandler protocol result.code result.error result.errorStats
  else
    return ()

variable {σ : Type}

/-- A transport error stops the device, so that the next pass starts it again. -/
def endPass (interface : DeviceInterface σ) (result : DeviceReadResult) (input : σ) : WorkerCall (Worker σ) :=
  if result.code = .transportError then do
    let input ← WorkerCall.device (interface.stop input)
    return ⟨false, input⟩
  else
    return ⟨true, input⟩

/-- The part of a pass after `read` has returned. -/
def handleResult (m : DeviceManager) (interface : DeviceInterface σ) (result : DeviceReadResult) (input : σ) :
    WorkerCall (Worker σ) := do
  let protocol := (interface.getDeviceStatus input).protocol
  m.handOver result protocol
  m.report result protocol
  endPass interface result input

/-- The part of a pass after the device has been started. -/
def readInput (m : DeviceManager) (interface : DeviceInterface σ) (input : σ) : WorkerCall (Worker σ) := do
  let (result, input) ← WorkerCall.device (interface.read 250 input)
  m.handleResult interface result input

/-- One pass of the loop of `run_device`. -/
def runDevice (m : DeviceManager) (interface : DeviceInterface σ) (w : Worker σ) : WorkerCall (Worker σ) :=
  if !w.started then do
    let (error, input) ← WorkerCall.device (interface.start w.input)
    match error with
    | some error =>
      m.callErrorHandler (interface.getDeviceStatus input).protocol .transportError error {}
      WorkerCall.sleepFor m.reconnectInterval
      return ⟨false, input⟩
    | none => m.readInput interface input
  else
    m.readInput interface w.input

/-- The body of the loop of `statuses`: a device without an update within the heartbeat window counts as
offline. A device without any update is measured from the start of the manager. -/
def statusAt (heartbeatTimeout : Int) (startedAt now : Nat) (status : DeviceStatus) : DeviceStatus :=
  let heartbeatReference :=
    if status.lastUpdateUnixSeconds ≠ 0 then status.lastUpdateUnixSeconds else startedAt
  if status.online && heartbeatReference ≠ 0 && now > heartbeatReference &&
      now - heartbeatReference > heartbeatTimeout.toNat then
    { status with online := false }
  else
    status

def statuses (heartbeatTimeout : Int) (startedAt now : Nat) (devices : List DeviceStatus) : List DeviceStatus :=
  devices.map (statusAt heartbeatTimeout startedAt now)

end DeviceManager

end EdgeGateway
