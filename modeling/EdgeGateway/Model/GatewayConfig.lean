import EdgeGateway.Model.Text

/-!
# The configuration

`load_gateway_config` of `config/gateway_config.cpp`. A document is the tree that yaml-cpp builds. Its
conversions of nodes, the texts of its exceptions and `inet_pton` are parameters.
-/

namespace EdgeGateway

/-- A node of a document. -/
inductive YamlNode where
  | null
  | scalar (value : Text)
  | sequence (items : List YamlNode)
  | map (entries : List (YamlNode × YamlNode))

namespace YamlNode

def isMap : YamlNode → Bool
  | .map _ => true
  | _ => false

def isSequence : YamlNode → Bool
  | .sequence _ => true
  | _ => false

/-- Keys are compared as strings, and only scalars convert to one here. -/
def isKey (key : Text) : YamlNode → Bool
  | .scalar value => value == key
  | _ => false

end YamlNode

/-- What the loader uses of yaml-cpp and of the C library. A conversion fails with the text of an
exception. -/
structure ConfigLibrary where
  asBool : YamlNode → Except Text Bool
  asInt : YamlNode → Except Text Int
  asString : YamlNode → Except Text Text
  asStrings : YamlNode → Except Text (List Text)
  /-- The text of `BadSubscript`. -/
  badSubscript : YamlNode → Text → Text
  /-- `inet_pton(AF_INET, ...) == 1`. -/
  inetPton : Text → Bool
  /-- The conversion is to `int`. -/
  asInt_range : ∀ node value, asInt node = .ok value → -2 ^ 31 ≤ value ∧ value < 2 ^ 31

namespace Config

structure SerialConfig where
  devices : List Text := [ascii "/tmp/tty_gateway"]
  baudRate : Int := 115200
  reconnectIntervalSeconds : Int := 2

structure ModbusConfig where
  enabled : Bool := false
  port : Text := ascii "/dev/ttyUSB0"
  baudRate : Int := 115200
  slaveId : UInt8 := 1
  functionCode : UInt8 := 3
  startAddress : UInt16 := 0
  registerCount : UInt16 := 6
  pollIntervalMs : Int := 1000
  responseTimeoutMs : Int := 500

structure CanConfig where
  enabled : Bool := false
  interface : Text := ascii "can0"
  heartbeatTimeoutSeconds : Int := 5

structure MqttTlsConfig where
  enabled : Bool := false
  caFile : Text := []
  certificateFile : Text := []
  privateKeyFile : Text := []
  insecure : Bool := false

structure MqttConfig where
  host : Text := ascii "localhost"
  port : UInt16 := 1883
  topicPrefix : Text := ascii "sensor"
  cacheRetryIntervalSeconds : Int := 5
  username : Text := []
  password : Text := []
  tls : MqttTlsConfig := {}

structure TcpConfig where
  enabled : Bool := true
  host : Text := ascii "127.0.0.1"
  port : UInt16 := 9000

structure HttpConfig where
  enabled : Bool := false
  host : Text := ascii "127.0.0.1"
  port : UInt16 := 8080

structure CacheConfig where
  type : Text := ascii "sqlite"
  path : Text := ascii "data/pending_messages.db"

structure LogConfig where
  path : Text := ascii "logs/gateway.log"
  level : Text := ascii "DEBUG"

structure GatewayConfig where
  serial : SerialConfig := {}
  modbus : ModbusConfig := {}
  can : CanConfig := {}
  mqtt : MqttConfig := {}
  tcp : TcpConfig := {}
  http : HttpConfig := {}
  cache : CacheConfig := {}
  log : LogConfig := {}

/-! ### Helpers -/

def isSupportedBaudRate (baudRate : Int) : Bool :=
  baudRate = 9600 || baudRate = 19200 || baudRate = 38400 || baudRate = 57600 || baudRate = 115200

/-- `std::toupper` in the locale `C`. -/
def uppercase (value : Text) : Text :=
  value.map (fun character => if 97 ≤ character && character ≤ 122 then character - 32 else character)

def lowercase (value : Text) : Text :=
  value.map (fun character => if 65 ≤ character && character ≤ 90 then character + 32 else character)

def isValidLogLevel (level : Text) : Bool :=
  level = ascii "DEBUG" || level = ascii "INFO" || level = ascii "WARN" || level = ascii "ERROR"

def isValidHttpHost (library : ConfigLibrary) (host : Text) : Bool :=
  host = ascii "localhost" || library.inetPton (cString host)

/-- The loader, with the message of a failure. -/
abbrev Loader := Except Text

/-- The handler of `YAML::Exception`. -/
def yamlError {α : Type} (what : Text) : Loader α :=
  .error (ascii "YAML error: " ++ what)

/-- `as<T>()`. -/
def convert {α : Type} (as : YamlNode → Except Text α) (node : YamlNode) : Loader α :=
  match as node with
  | .ok value => .ok value
  | .error what => yamlError what

/-- `node[key]` of a constant node. -/
def subscript (library : ConfigLibrary) (node : YamlNode) (key : Text) : Loader (Option YamlNode) :=
  match node with
  | .map entries => .ok ((entries.find? (fun entry => entry.1.isKey key)).map Prod.snd)
  | .null => .ok none
  | .sequence _ => .ok none
  | .scalar _ => yamlError (library.badSubscript node key)

def loadIfPresent {α : Type} (library : ConfigLibrary) (as : YamlNode → Except Text α) (node : YamlNode)
    (key : String) (value : α) : Loader α := do
  match ← subscript library node (ascii key) with
  | none => return value
  | some child => convert as child

/-- A check of the loader: a message and `return false`, or the rest. -/
def require (condition : Bool) (message : String) : Loader Unit :=
  if condition then .ok () else .error (ascii message)

/-- A section of the document, if it is there. -/
def loadSection {α : Type} (library : ConfigLibrary) (root : YamlNode) (key : String)
    (load : YamlNode → α → Loader α) (value : α) : Loader α := do
  match ← subscript library root (ascii key) with
  | none => return value
  | some node => load node value

/-! ### The sections -/

variable (library : ConfigLibrary)

/-- `serial.devices`, and `serial.device` without it. -/
def loadDevices (serial : YamlNode) (devices : List Text) : Loader (List Text) := do
  match ← subscript library serial (ascii "devices") with
  | some node =>
    require node.isSequence "serial.devices must be a YAML sequence"
    convert library.asStrings node
  | none =>
    match ← subscript library serial (ascii "device") with
    | some node => do return [← convert library.asString node]
    | none => return devices

def loadSerial (serial : YamlNode) (c : SerialConfig) : Loader SerialConfig := do
  let devices ← loadDevices library serial c.devices
  let baudRate ← loadIfPresent library library.asInt serial "baud_rate" c.baudRate
  let reconnectIntervalSeconds ←
    loadIfPresent library library.asInt serial "reconnect_interval_seconds" c.reconnectIntervalSeconds
  return { devices := devices, baudRate := baudRate, reconnectIntervalSeconds := reconnectIntervalSeconds }

def loadModbus (modbus : YamlNode) (c : ModbusConfig) : Loader ModbusConfig := do
  let enabled ← loadIfPresent library library.asBool modbus "enabled" c.enabled
  let port ← loadIfPresent library library.asString modbus "port" c.port
  let baudRate ← loadIfPresent library library.asInt modbus "baud_rate" c.baudRate
  let baudRate ← loadIfPresent library library.asInt modbus "baudrate" baudRate
  let slaveId ← loadIfPresent library library.asInt modbus "slave_id" (c.slaveId.toNat : Int)
  let functionCode ← loadIfPresent library library.asInt modbus "function_code" (c.functionCode.toNat : Int)
  let startAddress ← loadIfPresent library library.asInt modbus "start_address" (c.startAddress.toNat : Int)
  let registerCount ← loadIfPresent library library.asInt modbus "register_count" (c.registerCount.toNat : Int)
  let pollIntervalMs ← loadIfPresent library library.asInt modbus "poll_interval_ms" c.pollIntervalMs
  let responseTimeoutMs ← loadIfPresent library library.asInt modbus "response_timeout_ms" c.responseTimeoutMs
  require (!(slaveId < 1 || slaveId > 247)) "modbus.slave_id must be between 1 and 247"
  require (!(functionCode ≠ 3 && functionCode ≠ 4)) "modbus.function_code must be 3 or 4"
  require (!(startAddress < 0 || startAddress > 65535 || registerCount < 1 || registerCount > 125))
    "Modbus register range is invalid"
  return {
    enabled := enabled
    port := port
    baudRate := baudRate
    slaveId := UInt8.ofInt slaveId
    functionCode := UInt8.ofInt functionCode
    startAddress := UInt16.ofInt startAddress
    registerCount := UInt16.ofInt registerCount
    pollIntervalMs := pollIntervalMs
    responseTimeoutMs := responseTimeoutMs }

def loadCan (can : YamlNode) (c : CanConfig) : Loader CanConfig := do
  let enabled ← loadIfPresent library library.asBool can "enabled" c.enabled
  let interface ← loadIfPresent library library.asString can "interface" c.interface
  let heartbeatTimeoutSeconds ←
    loadIfPresent library library.asInt can "heartbeat_timeout_seconds" c.heartbeatTimeoutSeconds
  return { enabled := enabled, interface := interface, heartbeatTimeoutSeconds := heartbeatTimeoutSeconds }

def loadTls (tls : YamlNode) (c : MqttTlsConfig) : Loader MqttTlsConfig := do
  let enabled ← loadIfPresent library library.asBool tls "enabled" c.enabled
  let caFile ← loadIfPresent library library.asString tls "ca_file" c.caFile
  let certificateFile ← loadIfPresent library library.asString tls "certificate_file" c.certificateFile
  let privateKeyFile ← loadIfPresent library library.asString tls "private_key_file" c.privateKeyFile
  let insecure ← loadIfPresent library library.asBool tls "insecure" c.insecure
  return {
    enabled := enabled
    caFile := caFile
    certificateFile := certificateFile
    privateKeyFile := privateKeyFile
    insecure := insecure }

/-- A port number with its check and its narrowing. -/
def loadPort (node : YamlNode) (port : UInt16) (message : String) : Loader UInt16 := do
  let value ← loadIfPresent library library.asInt node "port" (port.toNat : Int)
  require (!(value < 1 || value > 65535)) message
  return UInt16.ofInt value

def loadMqtt (mqtt : YamlNode) (c : MqttConfig) : Loader MqttConfig := do
  let host ← loadIfPresent library library.asString mqtt "host" c.host
  let port ← loadPort library mqtt c.port "mqtt.port must be between 1 and 65535"
  let topicPrefix ← loadIfPresent library library.asString mqtt "topic_prefix" c.topicPrefix
  let cacheRetryIntervalSeconds ←
    loadIfPresent library library.asInt mqtt "cache_retry_interval_seconds" c.cacheRetryIntervalSeconds
  let username ← loadIfPresent library library.asString mqtt "username" c.username
  let password ← loadIfPresent library library.asString mqtt "password" c.password
  let tls ← loadSection library mqtt "tls" (loadTls library) c.tls
  return {
    host := host
    port := port
    topicPrefix := topicPrefix
    cacheRetryIntervalSeconds := cacheRetryIntervalSeconds
    username := username
    password := password
    tls := tls }

def loadTcp (tcp : YamlNode) (c : TcpConfig) : Loader TcpConfig := do
  let enabled ← loadIfPresent library library.asBool tcp "enabled" c.enabled
  let host ← loadIfPresent library library.asString tcp "host" c.host
  let port ← loadPort library tcp c.port "tcp.port must be between 1 and 65535"
  return { enabled := enabled, host := host, port := port }

def loadHttp (http : YamlNode) (c : HttpConfig) : Loader HttpConfig := do
  require http.isMap "http must be a YAML map"
  let enabled ← loadIfPresent library library.asBool http "enabled" c.enabled
  let host ← loadIfPresent library library.asString http "host" c.host
  let port ← loadPort library http c.port "http.port must be between 1 and 65535"
  return { enabled := enabled, host := host, port := port }

def loadCache (cache : YamlNode) (c : CacheConfig) : Loader CacheConfig := do
  let type ← loadIfPresent library library.asString cache "type" c.type
  let path ← loadIfPresent library library.asString cache "path" c.path
  return { type := lowercase type, path := path }

def loadLog (log : YamlNode) (c : LogConfig) : Loader LogConfig := do
  let path ← loadIfPresent library library.asString log "path" c.path
  let level ← loadIfPresent library library.asString log "level" c.level
  return { path := path, level := uppercase level }

/-- The sections one after the other. -/
def mergeSections (root : YamlNode) (c : GatewayConfig) : Loader GatewayConfig := do
  let serial ← loadSection library root "serial" (loadSerial library) c.serial
  let modbus ← loadSection library root "modbus" (loadModbus library) c.modbus
  let can ← loadSection library root "can" (loadCan library) c.can
  let mqtt ← loadSection library root "mqtt" (loadMqtt library) c.mqtt
  let tcp ← loadSection library root "tcp" (loadTcp library) c.tcp
  let http ← loadSection library root "http" (loadHttp library) c.http
  let cache ← loadSection library root "cache" (loadCache library) c.cache
  let log ← loadSection library root "log" (loadLog library) c.log
  return {
    serial := serial
    modbus := modbus
    can := can
    mqtt := mqtt
    tcp := tcp
    http := http
    cache := cache
    log := log }

/-! ### The checks of the merged configuration -/

/-- The loop over the serial devices with the set of those seen. -/
def checkDevices (seen : List Text) : List Text → Loader Unit
  | [] => return ()
  | device :: devices => do
    require (!device.isEmpty) "serial device path must not be empty"
    require (!seen.contains device) "serial.devices must not contain duplicates"
    checkDevices (device :: seen) devices

def checkSerial (c : SerialConfig) : Loader Unit := do
  checkDevices [] c.devices
  require (isSupportedBaudRate c.baudRate) "serial.baud_rate is not supported"
  require (!(c.reconnectIntervalSeconds < 1)) "serial reconnect interval must be positive"

def checkModbus (c : ModbusConfig) : Loader Unit :=
  if c.enabled then do
    require (!c.port.isEmpty) "modbus.port must not be empty when enabled"
    require (isSupportedBaudRate c.baudRate) "modbus.baud_rate is not supported"
    require (!(c.pollIntervalMs < 1 || c.responseTimeoutMs < 1)) "Modbus timing values must be positive"
  else
    return ()

def checkCan (c : CanConfig) : Loader Unit := do
  require (!(c.enabled && c.interface.isEmpty)) "can.interface must not be empty when enabled"
  require (!(c.heartbeatTimeoutSeconds < 1)) "can.heartbeat_timeout_seconds must be positive"

def checkMqtt (c : MqttConfig) : Loader Unit := do
  require (!c.host.isEmpty) "mqtt.host must not be empty"
  require (!c.topicPrefix.isEmpty) "mqtt.topic_prefix must not be empty"
  require (!(c.cacheRetryIntervalSeconds < 1)) "mqtt cache retry interval must be positive"
  require (!(c.username.isEmpty && !c.password.isEmpty)) "mqtt.password requires mqtt.username"
  require (!(c.tls.enabled && c.tls.caFile.isEmpty)) "mqtt.tls.ca_file is required when TLS is enabled"
  let hasClientCertificate := !c.tls.certificateFile.isEmpty
  let hasPrivateKey := !c.tls.privateKeyFile.isEmpty
  require (!(hasClientCertificate != hasPrivateKey))
    "MQTT TLS client certificate and private key must be configured together"
  require (!(!c.tls.enabled && c.tls.insecure)) "mqtt.tls.insecure requires TLS to be enabled"

def checkEndpoints (c : GatewayConfig) : Loader Unit := do
  require (!(c.tcp.enabled && c.tcp.host.isEmpty)) "tcp.host must not be empty when TCP is enabled"
  require (!c.http.host.isEmpty) "http.host must not be empty"
  require (!(c.http.enabled && !isValidHttpHost library c.http.host))
    "http.host must be localhost or an IPv4 address"
  require (!c.cache.path.isEmpty) "cache.path must not be empty"
  require (!(c.cache.type ≠ ascii "sqlite" && c.cache.type ≠ ascii "file")) "cache.type must be sqlite or file"
  require (!c.log.path.isEmpty) "log.path must not be empty"
  require (isValidLogLevel c.log.level) "log.level must be DEBUG, INFO, WARN or ERROR"

def checkConfig (c : GatewayConfig) : Loader Unit := do
  checkSerial c.serial
  checkModbus c.modbus
  checkCan c.can
  require (!(c.serial.devices.isEmpty && !c.modbus.enabled && !c.can.enabled))
    "at least one input source must be enabled"
  checkMqtt c.mqtt
  checkEndpoints library c

/-- `load_gateway_config` on what `YAML::LoadFile` gives, the document or the text of an exception. It
fails with the error message. -/
def loadGatewayConfig (file : Except Text YamlNode) (c : GatewayConfig) : Loader GatewayConfig :=
  match file with
  | .error what => yamlError what
  | .ok root => do
    require root.isMap "configuration root must be a YAML map"
    let merged ← mergeSections library root c
    checkConfig library merged
    return merged

end Config

end EdgeGateway
