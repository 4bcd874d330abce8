import EdgeGateway.Model.CanDevice
import EdgeGateway.Model.DeviceManager
import EdgeGateway.Model.GatewayConfig
import EdgeGateway.Model.ModbusDevice
import EdgeGateway.Model.UartDevice

/-!
# The gateway

The handlers that `run_gateway` of `main.cpp` gives to the device manager, and the inputs it adds.
-/

namespace EdgeGateway
open CallTree

namespace Gateway

abbrev Handler := Prog handlerSignature

def record (counter : Counter) (count : Nat) : Handler Unit :=
  .perform (E := handlerSignature) (.record counter count)

def log (level : LogLevel) (component message : Text) : Handler Unit :=
  .perform (E := handlerSignature) (.log level component message)

def publish (topic payload : Text) : Handler (List PublishOutcome) :=
  .perform (E := handlerSignature) (.publish topic payload)

def buildMqttTopic (topicPrefix : Text) (sensorData : SensorData) : Text :=
  topicPrefix ++ ascii "/" ++ decimal sensorData.deviceId.toNat ++ ascii "/data"

def publishStatusText : PublishStatus → Text
  | .published => ascii "published"
  | .deferred => ascii "deferred"
  | .failed => ascii "failed"

def logOutcome (outcome : PublishOutcome) : Handler Unit :=
  let message := ascii "publish result=" ++ publishStatusText outcome.status
  if outcome.status = .failed then
    log .warn outcome.channel message
  else
    log .debug outcome.channel message

def countOutcome (outcome : PublishOutcome) : Handler Unit :=
  if outcome.channel = ascii "tcp" then
    if outcome.status = .published then
      record .tcpPublishSuccess 1
    else
      record .tcpPublishFailed 1
  else
    return ()

/-- The loop of `publish_sensor_data` over the outcomes. -/
def reportOutcomes : List PublishOutcome → Handler Unit
  | [] => return ()
  | outcome :: outcomes => do
    logOutcome outcome
    countOutcome outcome
    reportOutcomes outcomes

def publishSensorData (mqttTopicPrefix : Text) (sensorData : SensorData) (protocol : ProtocolType) :
    Handler Unit :=
  let json := sensorDataToJson sensorData
  if !sensorData.valid then do
    log .warn protocol.toText (ascii "invalid sensor data: " ++ json)
    record .protocolError 1
  else do
    log .info (ascii "sensor")
      (ascii "parsed data: " ++ json ++ ascii ", protocol=" ++ protocol.toText)
    let outcomes ← publish (buildMqttTopic mqttTopicPrefix sensorData) json
    reportOutcomes outcomes

def dataHandler (mqttTopicPrefix : Text) : DataHandler := fun data protocol => do
  record .framesParsed 1
  publishSensorData mqttTopicPrefix data protocol

/-- `if (count > 0)` around an update of a counter. -/
def recordIfPositive (counter : Counter) (count : Nat) : Handler Unit :=
  if count > 0 then record counter count else return ()

/-- The counter of the protocol, where it has one. -/
def recordByProtocol (protocol : ProtocolType) (count : Nat) : Handler Unit :=
  if protocol = .modbusRtu then
    record .modbusError count
  else if protocol = .socketCan then
    record .canError count
  else
    return ()

def errorHandler : ErrorHandler := fun protocol _ error stats => do
  recordIfPositive .crcErrors stats.crcErrors
  recordIfPositive .lengthErrors stats.lengthErrors
  recordIfPositive .framesInvalid stats.invalidFrameCount
  let protocolErrors := if stats.isEmpty then 1 else stats.total
  record .protocolError protocolErrors
  recordByProtocol protocol protocolErrors
  let message := if error.isEmpty then ascii "protocol input rejected" else error
  log .warn protocol.toText
    (message ++ if stats.overflowBytes > 0 then ascii ", overflow_bytes=" ++ decimal stats.overflowBytes else [])

def deviceManager (reconnectInterval : Int) (mqttTopicPrefix : Text) : DeviceManager where
  reconnectInterval := reconnectInterval
  dataHandler := some (dataHandler mqttTopicPrefix)
  errorHandler := some errorHandler

end Gateway

/-- A device behind the interface. -/
inductive Input where
  | uart (d : UartDevice)
  | modbus (d : ModbusDevice)
  | can (d : CanDevice)

namespace Input

/-- The virtual calls. -/
def interface : DeviceInterface Input where
  start
    | .uart d => do
      let (error, d) ← d.start
      return (error, .uart d)
    | .modbus d => do
      let (error, d) ← d.start
      return (error, .modbus d)
    | .can d => do
      let (error, d) ← d.start
      return (error, .can d)
  stop
    | .uart d => do return .uart (← d.stop)
    | .modbus d => do return .modbus (← d.stop)
    | .can d => do return .can (← d.stop)
  read timeout
    | .uart d => do
      let (result, d) ← d.read timeout
      return (result, .uart d)
    | .modbus d => do
      let (result, d) ← d.read timeout
      return (result, .modbus d)
    | .can d => do
      let (result, d) ← d.read timeout
      return (result, .can d)
  getDeviceStatus
    | .uart d => d.status
    | .modbus d => d.status
    | .can d => d.status

/-- The path of the serial port that an input opens. -/
def portPath : Input → Option Text
  | .uart d => some d.path
  | .modbus d => some d.options.port
  | .can _ => none

end Input

namespace Gateway

/-- The `options` of the Modbus device in `run_gateway`. -/
def modbusOptions (c : Config.ModbusConfig) : ModbusDeviceOptions where
  port := c.port
  baudRate := c.baudRate
  request :=
    { slaveId := c.slaveId
      function := if c.functionCode = 4 then .readInputRegisters else .readHoldingRegisters
      startAddress := c.startAddress
      registerCount := c.registerCount }
  pollIntervalMs := c.pollIntervalMs
  responseTimeoutMs := c.responseTimeoutMs

/-- The serial devices that `main` passes on: the third argument takes the place of the configured
ones. -/
def serialDevices (argv : List Text) (c : Config.GatewayConfig) : List Text :=
  match argv with
  | _ :: _ :: device :: _ => [device]
  | _ => c.serial.devices

/-- The inputs that `run_gateway` adds to the device manager. -/
def inputs (c : Config.GatewayConfig) (devices : List Text) : List Input :=
  devices.map (fun device => .uart { path := device, baudRate := c.serial.baudRate }) ++
    (if c.modbus.enabled then [.modbus { options := modbusOptions c.modbus }] else []) ++
    (if c.can.enabled then [.can { interfaceName := c.can.interface }] else [])

end Gateway

end EdgeGateway
