import EdgeGateway.Lib.CallTree
import EdgeGateway.Model.Metrics
import EdgeGateway.Model.SensorData

/-!
# What the gateway shows of itself

`RuntimeStatus` of `app/runtime_status.cpp` and what `app/runtime_metrics.cpp` prints, over the loads and stores
of their atomics. The list of devices is copied and replaced under a mutex, so each of these is one call too.
-/

namespace EdgeGateway
open CallTree

inductive StatusFlag where
  | configLoaded
  | cacheReady
  | serialWorkersStarted
deriving DecidableEq

inductive StatusCount where
  | serialWorkers
  | inputDevices
  | devicesOnline
  | devicesOffline
deriving DecidableEq

inductive Gauge where
  | serialWorkerCount
  | cacheDepth
  | deviceOnline
  | deviceOffline
deriving DecidableEq

structure DeviceHealthStatus where
  deviceId : UInt32 := 0
  protocol : Text
  online : Bool := false
  lastUpdateUnixSeconds : Nat := 0
  errorCount : Nat := 0
deriving DecidableEq

inductive StatusOp where
  | loadFlag (flag : StatusFlag)
  | storeFlag (flag : StatusFlag) (value : Bool)
  | loadCount (count : StatusCount)
  | storeCount (count : StatusCount) (value : Nat)
  | copyDeviceStatuses
  | replaceDeviceStatuses (statuses : List DeviceHealthStatus)
  | loadCounter (counter : Counter)
  | loadGauge (gauge : Gauge)
  | storeGauge (gauge : Gauge) (value : Nat)
  | monotonicSeconds

abbrev StatusOp.Ans : StatusOp → Type
  | .loadFlag _ => Bool
  | .storeFlag _ _ => Unit
  | .loadCount _ => Nat
  | .storeCount _ _ => Unit
  | .copyDeviceStatuses => List DeviceHealthStatus
  | .replaceDeviceStatuses _ => Unit
  | .loadCounter _ => Nat
  | .loadGauge _ => Nat
  | .storeGauge _ _ => Unit
  | .monotonicSeconds => UInt64

abbrev statusSignature : Signature :=
  ⟨StatusOp, StatusOp.Ans⟩

abbrev StatusCall := Prog statusSignature

namespace StatusCall

def perform (o : StatusOp) : StatusCall o.Ans :=
  Prog.perform (E := statusSignature) o

end StatusCall

/-- `std::boolalpha`. -/
def boolalpha (b : Bool) : Text :=
  ascii (if b then "true" else "false")

/-! ### Metrics -/

/-- The members of `RuntimeMetrics` that are printed. -/
inductive Metric where
  | uptimeSeconds
  | gauge (g : Gauge)
  | counter (c : Counter)
deriving DecidableEq

/-- The arguments of a call of `write_metric`. -/
structure MetricFamily where
  name : Text
  type : Text
  help : Text
  metric : Metric

namespace RuntimeMetrics
open StatusCall

def setSerialWorkerCount (count : Nat) : StatusCall Unit :=
  perform (.storeGauge .serialWorkerCount count)

def setDeviceCounts (online offline : Nat) : StatusCall Unit := do
  perform (.storeGauge .deviceOnline online)
  perform (.storeGauge .deviceOffline offline)

def uptimeSeconds (startedAtSeconds : UInt64) : StatusCall UInt64 := do
  return (← perform .monotonicSeconds) - startedAtSeconds

/-- The value of a metric at the time of printing. -/
def load (startedAtSeconds : UInt64) : Metric → StatusCall Nat
  | .uptimeSeconds => do return (← uptimeSeconds startedAtSeconds).toNat
  | .gauge g => perform (.loadGauge g)
  | .counter c => perform (.loadCounter c)

def writeMetric (family : MetricFamily) (value : Nat) : Text :=
  ascii "# HELP " ++ family.name ++ ascii " " ++ family.help ++ ascii "\n" ++
  ascii "# TYPE " ++ family.name ++ ascii " " ++ family.type ++ ascii "\n" ++
  family.name ++ ascii " " ++ decimal value ++ ascii "\n"

/-- The calls of `write_metric` in the order of `render_prometheus`. -/
def families : List MetricFamily :=
  [ ⟨ascii "iot_gateway_uptime_seconds", ascii "gauge",
      ascii "Seconds since the gateway process initialized runtime metrics.", .uptimeSeconds⟩,
    ⟨ascii "iot_gateway_serial_worker_count", ascii "gauge",
      ascii "Configured serial worker threads.", .gauge .serialWorkerCount⟩,
    ⟨ascii "iot_gateway_frames_parsed_total", ascii "counter",
      ascii "Protocol frames accepted by the frame parser.", .counter .framesParsed⟩,
    ⟨ascii "iot_gateway_frames_invalid_total", ascii "counter",
      ascii "Protocol frames rejected for CRC or length errors.", .counter .framesInvalid⟩,
    ⟨ascii "iot_gateway_crc_errors_total", ascii "counter",
      ascii "Frames rejected by CRC16-Modbus validation.", .counter .crcErrors⟩,
    ⟨ascii "iot_gateway_length_errors_total", ascii "counter",
      ascii "Frames rejected for an invalid payload length.", .counter .lengthErrors⟩,
    ⟨ascii "iot_gateway_mqtt_publish_success_total", ascii "counter",
      ascii "MQTT publish attempts acknowledged by the client.", .counter .mqttPublishSuccess⟩,
    ⟨ascii "iot_gateway_mqtt_publish_failed_total", ascii "counter",
      ascii "MQTT publish attempts that were not accepted by the broker.", .counter .mqttPublishFailed⟩,
    ⟨ascii "iot_gateway_tcp_publish_success_total", ascii "counter",
      ascii "TCP JSON Lines messages sent successfully.", .counter .tcpPublishSuccess⟩,
    ⟨ascii "iot_gateway_tcp_publish_failed_total", ascii "counter",
      ascii "TCP JSON Lines send attempts that failed.", .counter .tcpPublishFailed⟩,
    ⟨ascii "iot_gateway_cache_depth", ascii "gauge",
      ascii "Messages currently retained in the MQTT offline cache.", .gauge .cacheDepth⟩,
    ⟨ascii "iot_gateway_cache_enqueue_total", ascii "counter",
      ascii "Messages appended to the MQTT offline cache.", .counter .cacheEnqueue⟩,
    ⟨ascii "iot_gateway_cache_flush_attempt_total", ascii "counter",
      ascii "Offline cache replay passes attempted.", .counter .cacheFlushAttempt⟩,
    ⟨ascii "gateway_device_online_total", ascii "gauge",
      ascii "Devices currently considered online.", .gauge .deviceOnline⟩,
    ⟨ascii "gateway_device_offline_total", ascii "gauge",
      ascii "Devices currently considered offline.", .gauge .deviceOffline⟩,
    ⟨ascii "gateway_protocol_error_total", ascii "counter",
      ascii "Input protocol errors reported by device adapters.", .counter .protocolError⟩,
    ⟨ascii "gateway_modbus_error_total", ascii "counter",
      ascii "Modbus RTU timeout, transport, and response errors.", .counter .modbusError⟩,
    ⟨ascii "gateway_can_error_total", ascii "counter",
      ascii "SocketCAN transport and CAN payload errors.", .counter .canError⟩ ]

/-- Each value is loaded when its family is written. -/
def renderFamilies (startedAtSeconds : UInt64) : List MetricFamily → StatusCall Text
  | [] => return []
  | family :: rest => do
    let value ← load startedAtSeconds family.metric
    return writeMetric family value ++ (← renderFamilies startedAtSeconds rest)

def renderPrometheus (startedAtSeconds : UInt64) : StatusCall Text :=
  renderFamilies startedAtSeconds families

end RuntimeMetrics

/-! ### Status -/

/-- The constant members. -/
structure RuntimeStatus where
  version : Text
  cacheBackend : Text
  mqttEnabled : Bool
  tcpEnabled : Bool

namespace RuntimeStatus
open StatusCall

def setConfigLoaded (loaded : Bool) : StatusCall Unit :=
  perform (.storeFlag .configLoaded loaded)

def setCacheReady (ready : Bool) : StatusCall Unit :=
  perform (.storeFlag .cacheReady ready)

def setSerialWorkersStarted (started : Bool) (workerCount : Nat) : StatusCall Unit := do
  perform (.storeCount .serialWorkers workerCount)
  perform (.storeFlag .serialWorkersStarted started)

def setDeviceCounts (online offline : Nat) : StatusCall Unit := do
  perform (.storeCount .devicesOnline online)
  perform (.storeCount .devicesOffline offline)
  perform (.storeCount .inputDevices (online + offline))

def setDeviceStatuses (statuses : List DeviceHealthStatus) : StatusCall Unit :=
  perform (.replaceDeviceStatuses statuses)

/-- `&&` loads a flag only if the ones before it are set. -/
def ready : StatusCall Bool := do
  if ← perform (.loadFlag .configLoaded) then
    if ← perform (.loadFlag .cacheReady) then
      perform (.loadFlag .serialWorkersStarted)
    else
      return false
  else
    return false

/-- One entry of `devices`. -/
def deviceJson (device : DeviceHealthStatus) : Text :=
  ascii "\x7b\"device_id\":" ++ decimal device.deviceId.toNat ++
  ascii ",\"protocol\":\"" ++ device.protocol ++
  ascii "\",\"online\":" ++ boolalpha device.online ++
  ascii ",\"last_update\":" ++ decimal device.lastUpdateUnixSeconds ++
  ascii ",\"error_count\":" ++ decimal device.errorCount ++ ascii "\x7d"

/-- The values that `health_json` prints. -/
structure Health where
  devices : List DeviceHealthStatus
  uptimeSeconds : UInt64
  serialWorkers : Nat
  inputDevices : Nat
  devicesOnline : Nat
  devicesOffline : Nat
deriving DecidableEq

def printHealth (s : RuntimeStatus) (h : Health) : Text :=
  ascii "\x7b\"status\":\"ok\",\"version\":\"" ++ s.version ++
  ascii "\",\"uptime_seconds\":" ++ decimal h.uptimeSeconds.toNat ++
  ascii ",\"serial_workers\":" ++ decimal h.serialWorkers ++
  ascii ",\"input_devices_total\":" ++ decimal h.inputDevices ++
  ascii ",\"device_online\":" ++ decimal h.devicesOnline ++
  ascii ",\"device_offline\":" ++ decimal h.devicesOffline ++
  ascii ",\"mqtt_enabled\":" ++ boolalpha s.mqttEnabled ++
  ascii ",\"tcp_enabled\":" ++ boolalpha s.tcpEnabled ++
  ascii ",\"cache_backend\":\"" ++ s.cacheBackend ++
  ascii "\",\"devices\":[" ++ (ascii ",").intercalate (h.devices.map deviceJson) ++ ascii "]\x7d"

/-- The loads of `health_json`, from left to right. -/
def loadHealth (startedAtSeconds : UInt64) : StatusCall Health := do
  let devices ← perform .copyDeviceStatuses
  let uptimeSeconds ← RuntimeMetrics.uptimeSeconds startedAtSeconds
  let serialWorkers ← perform (.loadCount .serialWorkers)
  let inputDevices ← perform (.loadCount .inputDevices)
  let devicesOnline ← perform (.loadCount .devicesOnline)
  let devicesOffline ← perform (.loadCount .devicesOffline)
  return { devices, uptimeSeconds, serialWorkers, inputDevices, devicesOnline, devicesOffline }

def healthJson (s : RuntimeStatus) (startedAtSeconds : UInt64) : StatusCall Text := do
  return s.printHealth (← loadHealth startedAtSeconds)

/-- The values that `readiness_json` prints. -/
structure Readiness where
  configLoaded : Bool
  cacheReady : Bool
  workersStarted : Bool
  isReady : Bool
  serialWorkers : Nat
  inputDevices : Nat
deriving DecidableEq

def printReadiness (s : RuntimeStatus) (r : Readiness) : Text :=
  ascii "\x7b\"ready\":" ++ boolalpha r.isReady ++
  ascii ",\"checks\":\x7b\"config_loaded\":" ++ boolalpha r.configLoaded ++
  ascii ",\"cache_ready\":" ++ boolalpha r.cacheReady ++
  ascii ",\"serial_workers_started\":" ++ boolalpha r.workersStarted ++ ascii "\x7d" ++
  ascii ",\"serial_worker_count\":" ++ decimal r.serialWorkers ++
  ascii ",\"input_devices_total\":" ++ decimal r.inputDevices ++
  ascii ",\"mqtt_enabled\":" ++ boolalpha s.mqttEnabled ++
  ascii ",\"tcp_enabled\":" ++ boolalpha s.tcpEnabled ++
  ascii ",\"cache_backend\":\"" ++ s.cacheBackend ++ ascii "\"\x7d"

def loadReadiness : StatusCall Readiness := do
  let configLoaded ← perform (.loadFlag .configLoaded)
  let cacheReady ← perform (.loadFlag .cacheReady)
  let workersStarted ← perform (.loadFlag .serialWorkersStarted)
  let isReady ← ready
  let serialWorkers ← perform (.loadCount .serialWorkers)
  let inputDevices ← perform (.loadCount .inputDevices)
  return { configLoaded, cacheReady, workersStarted, isReady, serialWorkers, inputDevices }

def readinessJson (s : RuntimeStatus) : StatusCall Text := do
  return s.printReadiness (← loadReadiness)

end RuntimeStatus

end EdgeGateway
