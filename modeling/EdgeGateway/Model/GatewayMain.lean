import EdgeGateway.Model.Gateway
import EdgeGateway.Model.RuntimeStatus

/-!
# The life of the process

`main` and `run_gateway` of `main.cpp` with `app/shutdown_signal.cpp`, over the calls that start, ask and stop the
parts of the gateway. Local objects are destroyed in the reverse order of their construction. Loops that nothing
bounds are followed for a number of passes. Times are in nanoseconds, waits in milliseconds.
-/

namespace EdgeGateway
open CallTree

inductive Signal where
  | sigint
  | sigterm
deriving DecidableEq

def Signal.name : Signal → Text
  | .sigint => ascii "SIGINT"
  | .sigterm => ascii "SIGTERM"

/-- The local objects of `run_gateway` whose destructors do something. -/
inductive GatewayPart where
  | mqttClient
  | messageCache
  | tcpClient
  | httpServer
  | deviceManager
deriving DecidableEq

/-- `loadFile` is `YAML::LoadFile`. `sigaction`, `openSqlite` and `startHttp` answer with their error message. -/
inductive MainOp where
  | status (o : StatusOp)
  | log (level : LogLevel) (component message : Text)
  | printOut (line : Text)
  | printError (line : Text)
  | loadFile (path : Text)
  | clearShutdown
  | sigaction (signal : Signal)
  | loadShutdown
  | steadyNow
  | sleepFor (milliseconds : Int)
  | createMqttClient (c : Config.MqttConfig)
  | openSqlite (path : Text)
  | openFile (path : Text)
  | startHttp (host : Text) (port : UInt16)
  | stopHttp
  | flushCache
  | startDevices (inputs : List Input)
  | deviceStatuses
  | stopDevices
  | disconnectTcp
  | destroy (part : GatewayPart)
  | spin

abbrev MainOp.Ans : MainOp → Type
  | .status o => o.Ans
  | .log _ _ _ => Unit
  | .printOut _ => Unit
  | .printError _ => Unit
  | .loadFile _ => Except Text YamlNode
  | .clearShutdown => Unit
  | .sigaction _ => Option Text
  | .loadShutdown => Bool
  | .steadyNow => Int
  | .sleepFor _ => Unit
  | .createMqttClient _ => Unit
  | .openSqlite _ => Option Text
  | .openFile _ => Unit
  | .startHttp _ _ => Option Text
  | .stopHttp => Unit
  | .flushCache => Unit
  | .startDevices _ => Unit
  | .deviceStatuses => List DeviceStatus
  | .stopDevices => Unit
  | .disconnectTcp => Unit
  | .destroy _ => Unit
  | .spin => Empty

abbrev mainSignature : Signature :=
  ⟨MainOp, MainOp.Ans⟩

abbrev MainCall := Prog mainSignature

namespace MainCall

def perform (o : MainOp) : MainCall o.Ans :=
  Prog.perform (E := mainSignature) o

def status {α : Type} (p : StatusCall α) : MainCall α :=
  p.embed (F := mainSignature) MainOp.status (fun _ a => a)

def spin {α : Type} : MainCall α :=
  .call (E := mainSignature) .spin Empty.elim

end MainCall

namespace Gateway
open MainCall

/-! ### Signals -/

/-- The text of a failure comes from `sigaction`. -/
def installHandler (signal : Signal) : MainCall (Option Text) := do
  match ← perform (.sigaction signal) with
  | some error => return some (ascii "install " ++ signal.name ++ ascii " handler failed: " ++ error)
  | none => return none

def installShutdownSignalHandlers : MainCall (Option Text) := do
  perform .clearShutdown
  match ← installHandler .sigint with
  | some error => return some error
  | none => installHandler .sigterm

/-- The loop of `wait_for_shutdown`. -/
def awaitDeadline (deadline : Int) : (passes : Nat) → MainCall Unit
  | 0 => spin
  | passes + 1 => do
    if ← perform .loadShutdown then
      return ()
    else
      let now ← perform .steadyNow
      if now ≥ deadline then
        return ()
      else
        perform (.sleepFor (min (durationCastMilliseconds (deadline - now)) 50))
        awaitDeadline deadline passes

def waitForShutdown (timeout : Int) (passes : Nat) : MainCall Bool := do
  let now ← perform .steadyNow
  awaitDeadline (now + timeout * nanosecondsPerMillisecond) passes
  perform .loadShutdown

/-! ### Devices -/

def uartOnline (statuses : List DeviceStatus) : Nat :=
  statuses.countP (fun status => status.protocol = .uart && status.online)

def logOpened : Nat → MainCall Unit
  | 0 => return ()
  | count + 1 => do
    perform (.log .info (ascii "serial") (ascii "serial opened by device manager"))
    logOpened count

/-- The loop that waits for the serial devices, with the attempts that are left. -/
def awaitSerial (devices : Nat) : (attempts : Nat) → MainCall Unit
  | 0 => return ()
  | attempts + 1 => do
    let online := uartOnline (← perform .deviceStatuses)
    if online = devices then
      logOpened online
      perform (.log .info (ascii "serial") (ascii "waiting for raw bytes"))
    else
      perform (.sleepFor 100)
      awaitSerial devices attempts

def healthStatus (status : DeviceStatus) : DeviceHealthStatus where
  deviceId := status.deviceId
  protocol := status.protocol.toText
  online := status.online
  lastUpdateUnixSeconds := status.lastUpdateUnixSeconds
  errorCount := status.errorCount

def updateDeviceObservability : MainCall Unit := do
  let statuses ← perform .deviceStatuses
  let online := statuses.countP (fun status => status.online)
  let offline := statuses.length - online
  status (RuntimeMetrics.setDeviceCounts online offline)
  status (RuntimeStatus.setDeviceCounts online offline)
  status (RuntimeStatus.setDeviceStatuses (statuses.map healthStatus))

/-! ### The gateway -/

/-- The cache that is configured, or the error message. -/
def openCache (c : Config.CacheConfig) : MainCall (Option Text) := do
  if c.type = ascii "sqlite" then
    perform (.openSqlite c.path)
  else
    perform (.openFile c.path)
    return none

/-- The main loop: a flush of the cache after each wait without a shutdown. -/
def retryLoop (cacheRetryInterval : Int) (inner : Nat) : (passes : Nat) → MainCall Unit
  | 0 => spin
  | passes + 1 => do
    if ← waitForShutdown cacheRetryInterval inner then
      return ()
    else
      perform .flushCache
      updateDeviceObservability
      retryLoop cacheRetryInterval inner passes

/-- The part of `run_gateway` that starts the devices and shows them. -/
def startInputs (c : Config.GatewayConfig) (devices : List Text) : MainCall Unit := do
  perform (.startDevices (inputs c devices))
  (if devices.length ≠ 0 then awaitSerial devices.length 20 else return ())
  let inputCount := devices.length + (if c.modbus.enabled then 1 else 0) + (if c.can.enabled then 1 else 0)
  perform (.log .info (ascii "device") (ascii "input count=" ++ decimal inputCount))
  perform (.log .info (ascii "serial") (ascii "worker count=" ++ decimal devices.length))
  updateDeviceObservability
  status (RuntimeMetrics.setSerialWorkerCount devices.length)
  status (RuntimeStatus.setSerialWorkersStarted true devices.length)

/-- The part of `run_gateway` after the main loop, up to the destructor of the device manager. -/
def stopInputs (c : Config.GatewayConfig) (devices : List Text) : MainCall Unit := do
  status (RuntimeStatus.setSerialWorkersStarted false devices.length)
  (if c.http.enabled then perform .stopHttp else return ())
  perform .stopDevices
  perform .disconnectTcp
  perform (.destroy .deviceManager)

/-- The part of `run_gateway` with a device manager. -/
def runDevices (c : Config.GatewayConfig) (devices : List Text) (inner passes : Nat) : MainCall Unit := do
  startInputs c devices
  retryLoop (c.mqtt.cacheRetryIntervalSeconds * 1000) inner passes
  stopInputs c devices

/-- The part of `run_gateway` with publishers: the exit code. -/
def runPublishers (c : Config.GatewayConfig) (devices : List Text) (inner passes : Nat) : MainCall Int := do
  perform (.log .info (ascii "publisher")
    (ascii "enabled channels=" ++ decimal (if c.tcp.enabled then 2 else 1)))
  let httpError ← (if c.http.enabled then perform (.startHttp c.http.host c.http.port) else return none)
  match httpError with
  | some _ =>
    perform (.destroy .httpServer)
    return 1
  | none =>
    perform (.log .info (ascii "cache") (ascii "checking cached mqtt messages"))
    perform .flushCache
    runDevices c devices inner passes
    (if c.http.enabled then perform (.destroy .httpServer) else return ())
    return 0

def runGateway (c : Config.GatewayConfig) (devices : List Text) (inner passes : Nat) : MainCall Int := do
  perform (.createMqttClient c.mqtt)
  match ← openCache c.cache with
  | some error =>
    perform (.log .error (ascii "cache") error)
    perform (.destroy .messageCache)
    perform (.destroy .mqttClient)
    return 1
  | none =>
    status (RuntimeStatus.setCacheReady true)
    perform (.log .info (ascii "cache") (ascii "backend=" ++ c.cache.type ++ ascii ", path=" ++ c.cache.path))
    let result ← runPublishers c devices inner passes
    perform (.destroy .tcpClient)
    perform (.destroy .messageCache)
    perform (.destroy .mqttClient)
    return result

/-! ### The process -/

/-- The part of `main` after the configuration has been loaded. -/
def runConfigured (version : Text) (argv : List Text) (c : Config.GatewayConfig) (inner passes : Nat) :
    MainCall Int := do
  status (RuntimeStatus.setConfigLoaded true)
  match ← installShutdownSignalHandlers with
  | some error =>
    perform (.log .error (ascii "app") error)
    return 1
  | none =>
    perform (.log .info (ascii "app") (ascii "edge gateway starting, version=" ++ version))
    let result ← runGateway c (serialDevices argv c) inner passes
    let shutdown ← perform .loadShutdown
    (if shutdown then perform (.log .info (ascii "app") (ascii "shutdown requested")) else return ())
    (if result = 0 then perform (.log .info (ascii "app") (ascii "edge gateway stopped")) else return ())
    return result

/-- `main`: the exit code. -/
def main (library : ConfigLibrary) (version : Text) (argv : List Text) (inner passes : Nat) : MainCall Int := do
  match argv with
  | [_, option] =>
    if option = ascii "--version" then
      perform (.printOut (ascii "linux-iot-edge-gateway " ++ version))
      return 0
    else
      run option
  | _ :: path :: _ => run path
  | _ => run (ascii "config/gateway.yaml")
where
  run (configPath : Text) : MainCall Int := do
    match Config.loadGatewayConfig library (← perform (.loadFile configPath)) {} with
    | .error error =>
      perform (.printError (ascii "load config failed: " ++ error))
      return 1
    | .ok c => runConfigured version argv c inner passes

end Gateway

end EdgeGateway
