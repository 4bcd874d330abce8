import EdgeGateway.Lib.Threads
import EdgeGateway.Model.DeviceManager

/-!
# The threads of the device manager

`start`, `stop` and `run_device` of `device/device_manager.cpp` over the virtual functions of the devices,
with each call of a device and each access to `running_` one step. What happens inside of a call of a device
or a handler is left to the answer here: `runDevice` has it in full.
-/

namespace EdgeGateway
open CallTree

/-- The virtual functions of `DeviceInterface`. `start` answers with its error message, or none. -/
inductive InterfaceOp where
  | start
  | read (timeout : Int)
  | stop
  | getDeviceStatus

abbrev InterfaceOp.Ans : InterfaceOp → Type
  | .start => Option Text
  | .read _ => DeviceReadResult
  | .stop => Unit
  | .getDeviceStatus => DeviceStatus

/-- The steps of `run_device` on its device. -/
inductive RunOp where
  | loadRunning
  | call (o : InterfaceOp)
  | handleData (data : SensorData) (protocol : ProtocolType)
  | handleError (protocol : ProtocolType) (code : ReadCode) (error : Text) (stats : ProtocolErrorStats)
  | sleepFor (seconds : Int)

abbrev RunOp.Ans : RunOp → Type
  | .loadRunning => Bool
  | .call o => o.Ans
  | .handleData _ _ => Unit
  | .handleError _ _ _ _ => Unit
  | .sleepFor _ => Unit

abbrev runSignature : Signature :=
  ⟨RunOp, RunOp.Ans⟩

/-- The steps of all threads of a manager with `n` devices. `spawn` answers whether the thread could be
created, and `join` waits for a worker to `exit`. `stopped` does nothing: it marks that `stop` returns. -/
inductive ManagerOp (n : Nat) where
  | worker (o : RunOp)
  | exit
  | exchangeRunning (value : Bool)
  | spawn (i : Fin n)
  | workers
  | clearWorkers
  | stopDevice (i : Fin n)
  | join (i : Fin n)
  | stopped

abbrev ManagerOp.Ans {n : Nat} : ManagerOp n → Type
  | .worker o => o.Ans
  | .exit => Unit
  | .exchangeRunning _ => Bool
  | .spawn _ => Bool
  | .workers => List (Fin n)
  | .clearWorkers => Unit
  | .stopDevice _ => Unit
  | .join _ => Unit
  | .stopped => Unit

abbrev managerSignature (n : Nat) : Signature :=
  ⟨ManagerOp n, ManagerOp.Ans⟩

/-- Where a thread stands between two of its programs. -/
inductive Stage where
  | looping (started : Bool)
  | exited
  | constructed
  | running
  | stopped

namespace DeviceManager

abbrev RunCall := Prog runSignature

def call (o : InterfaceOp) : RunCall o.Ans :=
  .perform (E := runSignature) (.call o)

/-- The data handler for a result with data. -/
def handData (m : DeviceManager) (result : DeviceReadResult) (protocol : ProtocolType) : RunCall Unit :=
  match result.code, result.data with
  | .data, some data =>
    if m.dataHandler.isSome then .perform (E := runSignature) (.handleData data protocol) else return ()
  | _, _ => return ()

def handError (m : DeviceManager) (result : DeviceReadResult) (protocol : ProtocolType) : RunCall Unit :=
  if reportError result protocol && m.errorHandler.isSome then
    .perform (E := runSignature) (.handleError protocol result.code result.error result.errorStats)
  else
    return ()

/-- The failure of `start`, where an error handler is told. -/
def reportStart (m : DeviceManager) (error : Text) : RunCall Unit :=
  if m.errorHandler.isSome then do
    let status ← call .getDeviceStatus
    .perform (E := runSignature) (.handleError status.protocol .transportError error {})
  else
    return ()

/-- The part of a pass with a started device. The result is the variable `started`. -/
def readPass (m : DeviceManager) : RunCall Bool := do
  let result ← call (.read 250)
  let status ← call .getDeviceStatus
  m.handData result status.protocol
  m.handError result status.protocol
  if result.code = .transportError then
    call .stop
    return false
  else
    return true

/-- One pass of the loop of `run_device`. -/
def pass (m : DeviceManager) (started : Bool) : RunCall Bool :=
  if !started then do
    match ← call .start with
    | some error =>
      m.reportStart error
      .perform (E := runSignature) (.sleepFor m.reconnectInterval)
      return false
    | none => m.readPass
  else
    m.readPass

section

variable {n : Nat}

abbrev ManagerCall (n : Nat) := Prog (managerSignature n)

def perform (o : ManagerOp n) : ManagerCall n o.Ans :=
  .perform (E := managerSignature n) o

def onWorker {α : Type} (p : RunCall α) : ManagerCall n α :=
  p.embed (F := managerSignature n) ManagerOp.worker (fun _ a => a)

/-- The loop condition of `run_device` and what it leads to. -/
def worker (m : DeviceManager) (started : Bool) : ManagerCall n Stage := do
  if ← perform (.worker .loadRunning) then
    let started ← onWorker (m.pass started)
    return .looping started
  else
    perform (.worker (.call .stop))
    perform .exit
    return .exited

/-- The loop of `start`. A thread that cannot be created ends it with an exception. -/
def spawnWorkers : List (Fin n) → ManagerCall n Unit
  | [] => return ()
  | i :: devices => do
    if ← perform (.spawn i) then
      spawnWorkers devices
    else
      return ()

def start : ManagerCall n Stage := do
  if ← perform (.exchangeRunning true) then
    return .running
  else
    spawnWorkers (List.finRange n)
    return .running

/-- A loop that makes one call for each element. -/
def forEach (o : Fin n → ManagerOp n) : List (Fin n) → ManagerCall n Unit
  | [] => return ()
  | i :: rest => do
    let _ ← perform (o i)
    forEach o rest

/-- The part of `stop` after the test. -/
def stopWorkers : ManagerCall n Stage := do
  forEach .stopDevice (List.finRange n)
  let workers ← perform .workers
  forEach .join workers
  perform .clearWorkers
  perform .stopped
  return .stopped

def stop : ManagerCall n Stage := do
  let wasRunning ← perform (.exchangeRunning false)
  let workers ← perform .workers
  if !wasRunning && workers.isEmpty then
    perform .stopped
    return .stopped
  else
    stopWorkers

end

end DeviceManager

end EdgeGateway
