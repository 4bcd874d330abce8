import EdgeGateway.Proofs.AcceptedConfigs

/-!
# Which configurations are accepted

The settings that a document asks for, with the defaults for what it leaves out, and the conditions that
they have to meet. `load_gateway_config` accepts a document of well-typed values exactly when its settings
meet them.
-/

namespace EdgeGateway.Config

/-! ### Settings -/

/-- The value of a key of a mapping. -/
def child (key : String) : YamlNode → Option YamlNode
  | .map entries => (entries.find? (fun entry => entry.1.isKey (ascii key))).map Prod.snd
  | _ => none

/-- The node at the end of a path of keys. -/
def find (root : YamlNode) : List String → Option YamlNode
  | [] => some root
  | key :: path => (child key root).bind (fun node => find node path)

/-- What the document says under a path of keys, or else the default. -/
def setting {α : Type} (as : YamlNode → Except Text α) (root : YamlNode) (path : List String) (default : α) : α :=
  match (find root path).map as with
  | some (.ok value) => value
  | _ => default

/-- The merged configuration, before any number is narrowed. -/
structure Settings where
  serialDevices : List Text
  serialBaudRate : Int
  reconnectIntervalSeconds : Int
  modbusEnabled : Bool
  modbusPort : Text
  modbusBaudRate : Int
  slaveId : Int
  functionCode : Int
  startAddress : Int
  registerCount : Int
  pollIntervalMs : Int
  responseTimeoutMs : Int
  canEnabled : Bool
  canInterface : Text
  heartbeatTimeoutSeconds : Int
  mqttHost : Text
  mqttPort : Int
  topicPrefix : Text
  cacheRetryIntervalSeconds : Int
  username : Text
  password : Text
  tlsEnabled : Bool
  caFile : Text
  certificateFile : Text
  privateKeyFile : Text
  tlsInsecure : Bool
  tcpEnabled : Bool
  tcpHost : Text
  tcpPort : Int
  httpEnabled : Bool
  httpHost : Text
  httpPort : Int
  cacheType : Text
  cachePath : Text
  logPath : Text
  logLevel : Text

section

variable (library : ConfigLibrary) (root : YamlNode)

/-- `serial.device` counts only without `serial.devices`, and `modbus.baudrate` before
`modbus.baud_rate`. -/
def settings : Settings where
  serialDevices :=
    match find root ["serial", "devices"] with
    | some _ => setting library.asStrings root ["serial", "devices"] []
    | none =>
      setting (fun node => (library.asString node).map (fun device => [device])) root ["serial", "device"]
        [ascii "/tmp/tty_gateway"]
  serialBaudRate := setting library.asInt root ["serial", "baud_rate"] 115200
  reconnectIntervalSeconds := setting library.asInt root ["serial", "reconnect_interval_seconds"] 2
  modbusEnabled := setting library.asBool root ["modbus", "enabled"] false
  modbusPort := setting library.asString root ["modbus", "port"] (ascii "/dev/ttyUSB0")
  modbusBaudRate :=
    setting library.asInt root ["modbus", "baudrate"] (setting library.asInt root ["modbus", "baud_rate"] 115200)
  slaveId := setting library.asInt root ["modbus", "slave_id"] 1
  functionCode := setting library.asInt root ["modbus", "function_code"] 3
  startAddress := setting library.asInt root ["modbus", "start_address"] 0
  registerCount := setting library.asInt root ["modbus", "register_count"] 6
  pollIntervalMs := setting library.asInt root ["modbus", "poll_interval_ms"] 1000
  responseTimeoutMs := setting library.asInt root ["modbus", "response_timeout_ms"] 500
  canEnabled := setting library.asBool root ["can", "enabled"] false
  canInterface := setting library.asString root ["can", "interface"] (ascii "can0")
  heartbeatTimeoutSeconds := setting library.asInt root ["can", "heartbeat_timeout_seconds"] 5
  mqttHost := setting library.asString root ["mqtt", "host"] (ascii "localhost")
  mqttPort := setting library.asInt root ["mqtt", "port"] 1883
  topicPrefix := setting library.asString root ["mqtt", "topic_prefix"] (ascii "sensor")
  cacheRetryIntervalSeconds := setting library.asInt root ["mqtt", "cache_retry_interval_seconds"] 5
  username := setting library.asString root ["mqtt", "username"] []
  password := setting library.asString root ["mqtt", "password"] []
  tlsEnabled := setting library.asBool root ["mqtt", "tls", "enabled"] false
  caFile := setting library.asString root ["mqtt", "tls", "ca_file"] []
  certificateFile := setting library.asString root ["mqtt", "tls", "certificate_file"] []
  privateKeyFile := setting library.asString root ["mqtt", "tls", "private_key_file"] []
  tlsInsecure := setting library.asBool root ["mqtt", "tls", "insecure"] false
  tcpEnabled := setting library.asBool root ["tcp", "enabled"] true
  tcpHost := setting library.asString root ["tcp", "host"] (ascii "127.0.0.1")
  tcpPort := setting library.asInt root ["tcp", "port"] 9000
  httpEnabled := setting library.asBool root ["http", "enabled"] false
  httpHost := setting library.asString root ["http", "host"] (ascii "127.0.0.1")
  httpPort := setting library.asInt root ["http", "port"] 8080
  cacheType := lowercase (setting library.asString root ["cache", "type"] (ascii "sqlite"))
  cachePath := setting library.asString root ["cache", "path"] (ascii "data/pending_messages.db")
  logPath := setting library.asString root ["log", "path"] (ascii "logs/gateway.log")
  logLevel := uppercase (setting library.asString root ["log", "level"] (ascii "DEBUG"))

end

def supportedBaudRates : List Int :=
  [9600, 19200, 38400, 57600, 115200]

/-- What the settings have to meet. -/
structure Acceptable (library : ConfigLibrary) (s : Settings) : Prop where
  devices_nonempty : ∀ device ∈ s.serialDevices, device ≠ []
  devices_nodup : s.serialDevices.Nodup
  serialBaudRate : s.serialBaudRate ∈ supportedBaudRates
  reconnectInterval : 1 ≤ s.reconnectIntervalSeconds
  slaveId : 1 ≤ s.slaveId ∧ s.slaveId ≤ 247
  functionCode : s.functionCode = 3 ∨ s.functionCode = 4
  startAddress : 0 ≤ s.startAddress ∧ s.startAddress ≤ 65535
  registerCount : 1 ≤ s.registerCount ∧ s.registerCount ≤ 125
  modbus : s.modbusEnabled = true → s.modbusPort ≠ [] ∧ s.modbusBaudRate ∈ supportedBaudRates ∧
    1 ≤ s.pollIntervalMs ∧ 1 ≤ s.responseTimeoutMs
  can : s.canEnabled = true → s.canInterface ≠ []
  heartbeat : 1 ≤ s.heartbeatTimeoutSeconds
  input : s.serialDevices ≠ [] ∨ s.modbusEnabled = true ∨ s.canEnabled = true
  mqttPort : 1 ≤ s.mqttPort ∧ s.mqttPort ≤ 65535
  tcpPort : 1 ≤ s.tcpPort ∧ s.tcpPort ≤ 65535
  httpPort : 1 ≤ s.httpPort ∧ s.httpPort ≤ 65535
  mqttHost : s.mqttHost ≠ []
  topicPrefix : s.topicPrefix ≠ []
  cacheRetryInterval : 1 ≤ s.cacheRetryIntervalSeconds
  credentials : s.password ≠ [] → s.username ≠ []
  caFile : s.tlsEnabled = true → s.caFile ≠ []
  clientCertificate : s.certificateFile = [] ↔ s.privateKeyFile = []
  insecure : s.tlsInsecure = true → s.tlsEnabled = true
  tcpHost : s.tcpEnabled = true → s.tcpHost ≠ []
  httpHost : s.httpHost ≠ []
  httpAddress : s.httpEnabled = true →
    s.httpHost = ascii "localhost" ∨ library.inetPton (cString s.httpHost) = true
  cachePath : s.cachePath ≠ []
  cacheType : s.cacheType = ascii "sqlite" ∨ s.cacheType = ascii "file"
  logPath : s.logPath ≠ []
  logLevel : s.logLevel ∈ [ascii "DEBUG", ascii "INFO", ascii "WARN", ascii "ERROR"]

/-! ### Well-typed documents -/

inductive Kind where
  | bool
  | int
  | string
  | strings
deriving DecidableEq

/-- The node converts to the type. -/
def Kind.converts (library : ConfigLibrary) : Kind → YamlNode → Bool
  | .bool, node => (library.asBool node).isOk
  | .int, node => (library.asInt node).isOk
  | .string, node => (library.asString node).isOk
  | .strings, node => (library.asStrings node).isOk

/-- The keys that the loader reads, section by section. -/
def schema : List (List String × List (String × Kind)) :=
  [(["serial"], [("devices", .strings), ("device", .string), ("baud_rate", .int),
      ("reconnect_interval_seconds", .int)]),
    (["modbus"], [("enabled", .bool), ("port", .string), ("baud_rate", .int), ("baudrate", .int),
      ("slave_id", .int), ("function_code", .int), ("start_address", .int), ("register_count", .int),
      ("poll_interval_ms", .int), ("response_timeout_ms", .int)]),
    (["can"], [("enabled", .bool), ("interface", .string), ("heartbeat_timeout_seconds", .int)]),
    (["mqtt"], [("host", .string), ("port", .int), ("topic_prefix", .string),
      ("cache_retry_interval_seconds", .int), ("username", .string), ("password", .string)]),
    (["mqtt", "tls"], [("enabled", .bool), ("ca_file", .string), ("certificate_file", .string),
      ("private_key_file", .string), ("insecure", .bool)]),
    (["tcp"], [("enabled", .bool), ("host", .string), ("port", .int)]),
    (["http"], [("enabled", .bool), ("host", .string), ("port", .int)]),
    (["cache"], [("type", .string), ("path", .string)]),
    (["log"], [("path", .string), ("level", .string)])]

/-- Every section that is there is a mapping, and the values that are there have their types. -/
structure WellTyped (library : ConfigLibrary) (root : YamlNode) : Prop where
  isMap : root.isMap = true
  sections : ∀ s ∈ schema, (find root s.1).all YamlNode.isMap = true
  devices : (find root ["serial", "devices"]).all YamlNode.isSequence = true
  values : ∀ s ∈ schema, ∀ key ∈ s.2, (find root (s.1 ++ [key.1])).all (key.2.converts library) = true

/-! ### The sections of a well-typed document -/

variable {library : ConfigLibrary} {root : YamlNode}

lemma find_append (p : List String) (key : String) : find root (p ++ [key]) = (find root p).bind (child key) := by
  induction p generalizing root with
  | nil =>
    change (child key root).bind some = child key root
    exact Option.bind_fun_some (child key root)
  | cons first p ih =>
    rw [List.cons_append, find, find, Option.bind_assoc]
    congr 1
    funext node
    exact ih

lemma subscript_of_isMap {node : YamlNode} (hmap : node.isMap = true) (key : String) :
    subscript library node (ascii key) = .ok (child key node) := by
  cases node with
  | map entries => rfl
  | null => cases hmap
  | scalar value => cases hmap
  | sequence items => cases hmap

/-- Under a section that is missing everything has its default. -/
lemma setting_absent {α : Type} {p : List String} (h : find root p = none) (as : YamlNode → Except Text α)
    (key : String) (default : α) : setting as root (p ++ [key]) default = default := by
  rw [setting, find_append, h]
  rfl

lemma setting_section_absent {α : Type} {name : String} (h : find root [name] = none) (as : YamlNode → Except Text α)
    (key : String) (default : α) : setting as root [name, key] default = default :=
  setting_absent h as key default

lemma setting_inner_absent {α : Type} {name inner : String} (h : find root [name, inner] = none)
    (as : YamlNode → Except Text α) (key : String) (default : α) :
    setting as root [name, inner, key] default = default :=
  setting_absent h as key default

lemma exists_of_isOk {α : Type} {x : Except Text α} (h : x.isOk = true) : ∃ value, x = .ok value := by
  cases x with
  | error what => cases h
  | ok value => exact ⟨value, rfl⟩

lemma loadIfPresent_eq {α : Type} {p : List String} {node : YamlNode} (hnode : find root p = some node)
    (hmap : node.isMap = true) (as : YamlNode → Except Text α) (key : String) (default : α)
    (hvalue : (find root (p ++ [key])).all (fun node => (as node).isOk) = true) :
    loadIfPresent library as node key default = .ok (setting as root (p ++ [key]) default) := by
  rw [find_append, hnode, Option.bind_some] at hvalue
  rw [loadIfPresent, subscript_of_isMap hmap, setting, find_append, hnode, Option.bind_some]
  cases hchild : child key node with
  | none => rfl
  | some node =>
    rw [hchild, Option.all_some] at hvalue
    obtain ⟨value, hvalue⟩ := exists_of_isOk hvalue
    change convert as node = _
    rw [convert, Option.map_some, hvalue]

section

variable {p : List String} {keys : List (String × Kind)} {node : YamlNode}

lemma WellTyped.section_isMap (w : WellTyped library root) (hp : (p, keys) ∈ schema)
    (hnode : find root p = some node) : node.isMap = true := by
  have hall := w.sections _ hp
  rw [hnode, Option.all_some] at hall
  exact hall

lemma WellTyped.loadBool (w : WellTyped library root) (hp : (p, keys) ∈ schema) (hnode : find root p = some node)
    (key : String) (hkey : (key, .bool) ∈ keys := by decide) {default : Bool} :
    loadIfPresent library library.asBool node key default = .ok (setting library.asBool root (p ++ [key]) default) :=
  loadIfPresent_eq hnode (w.section_isMap hp hnode) _ key default (w.values _ hp _ hkey)

lemma WellTyped.loadInt (w : WellTyped library root) (hp : (p, keys) ∈ schema) (hnode : find root p = some node)
    (key : String) (hkey : (key, .int) ∈ keys := by decide) {default : Int} :
    loadIfPresent library library.asInt node key default = .ok (setting library.asInt root (p ++ [key]) default) :=
  loadIfPresent_eq hnode (w.section_isMap hp hnode) _ key default (w.values _ hp _ hkey)

lemma WellTyped.loadString (w : WellTyped library root) (hp : (p, keys) ∈ schema) (hnode : find root p = some node)
    (key : String) (hkey : (key, .string) ∈ keys := by decide) {default : Text} :
    loadIfPresent library library.asString node key default =
      .ok (setting library.asString root (p ++ [key]) default) :=
  loadIfPresent_eq hnode (w.section_isMap hp hnode) _ key default (w.values _ hp _ hkey)

end

lemma loadSection_absent {α : Type} {node : YamlNode} (hmap : node.isMap = true) {key : String}
    (h : child key node = none) (load : YamlNode → α → Loader α) (default : α) :
    loadSection library node key load default = .ok default := by
  rw [loadSection, subscript_of_isMap hmap, h]
  rfl

lemma loadSection_present {α : Type} {node : YamlNode} (hmap : node.isMap = true) {key : String} {inner : YamlNode}
    (h : child key node = some inner) (load : YamlNode → α → Loader α) (default : α) :
    loadSection library node key load default = load inner default := by
  rw [loadSection, subscript_of_isMap hmap, h]
  rfl

lemma find_singleton (key : String) : find root [key] = child key root := Option.bind_fun_some (child key root)

/-! Each section of the loader gives the settings of its keys. -/

namespace Settings

variable (s : Settings)

def serial : SerialConfig where
  devices := s.serialDevices
  baudRate := s.serialBaudRate
  reconnectIntervalSeconds := s.reconnectIntervalSeconds

def modbus : ModbusConfig where
  enabled := s.modbusEnabled
  port := s.modbusPort
  baudRate := s.modbusBaudRate
  slaveId := UInt8.ofInt s.slaveId
  functionCode := UInt8.ofInt s.functionCode
  startAddress := UInt16.ofInt s.startAddress
  registerCount := UInt16.ofInt s.registerCount
  pollIntervalMs := s.pollIntervalMs
  responseTimeoutMs := s.responseTimeoutMs

def can : CanConfig where
  enabled := s.canEnabled
  interface := s.canInterface
  heartbeatTimeoutSeconds := s.heartbeatTimeoutSeconds

def tls : MqttTlsConfig where
  enabled := s.tlsEnabled
  caFile := s.caFile
  certificateFile := s.certificateFile
  privateKeyFile := s.privateKeyFile
  insecure := s.tlsInsecure

def mqtt : MqttConfig where
  host := s.mqttHost
  port := UInt16.ofInt s.mqttPort
  topicPrefix := s.topicPrefix
  cacheRetryIntervalSeconds := s.cacheRetryIntervalSeconds
  username := s.username
  password := s.password
  tls := s.tls

def tcp : TcpConfig where
  enabled := s.tcpEnabled
  host := s.tcpHost
  port := UInt16.ofInt s.tcpPort

def http : HttpConfig where
  enabled := s.httpEnabled
  host := s.httpHost
  port := UInt16.ofInt s.httpPort

def cache : CacheConfig where
  type := s.cacheType
  path := s.cachePath

def log : LogConfig where
  path := s.logPath
  level := s.logLevel

def config : GatewayConfig where
  serial := s.serial
  modbus := s.modbus
  can := s.can
  mqtt := s.mqtt
  tcp := s.tcp
  http := s.http
  cache := s.cache
  log := s.log

end Settings

lemma ok_bind {α β : Type} (a : α) (f : α → Loader β) : (Except.ok a >>= f) = f a := rfl

namespace WellTyped

variable (w : WellTyped library root)
include w

lemma load_can : loadSection library root "can" (loadCan library) {} = .ok (settings library root).can := by
  have hp : (["can"], _) ∈ schema := List.mem_of_getElem? (i := 2) rfl
  cases hnode : find root ["can"] with
  | none =>
    rw [loadSection_absent w.isMap (find_singleton "can" ▸ hnode)]
    simp only [Settings.can, settings, setting_section_absent hnode]
  | some node =>
    rw [loadSection_present w.isMap (find_singleton "can" ▸ hnode), loadCan,
      w.loadBool hp hnode "enabled", ok_bind, w.loadString hp hnode "interface", ok_bind,
      w.loadInt hp hnode "heartbeat_timeout_seconds", ok_bind]
    rfl

lemma load_cache : loadSection library root "cache" (loadCache library) {} = .ok (settings library root).cache := by
  have hp : (["cache"], _) ∈ schema := List.mem_of_getElem? (i := 7) rfl
  cases hnode : find root ["cache"] with
  | none =>
    rw [loadSection_absent w.isMap (find_singleton "cache" ▸ hnode)]
    simp only [Settings.cache, settings, setting_section_absent hnode]
    rfl
  | some node =>
    rw [loadSection_present w.isMap (find_singleton "cache" ▸ hnode), loadCache,
      w.loadString hp hnode "type", ok_bind, w.loadString hp hnode "path", ok_bind]
    rfl

lemma load_log : loadSection library root "log" (loadLog library) {} = .ok (settings library root).log := by
  have hp : (["log"], _) ∈ schema := List.mem_of_getElem? (i := 8) rfl
  cases hnode : find root ["log"] with
  | none =>
    rw [loadSection_absent w.isMap (find_singleton "log" ▸ hnode)]
    simp only [Settings.log, settings, setting_section_absent hnode]
    rfl
  | some node =>
    rw [loadSection_present w.isMap (find_singleton "log" ▸ hnode), loadLog,
      w.loadString hp hnode "path", ok_bind, w.loadString hp hnode "level", ok_bind]
    rfl

lemma load_devices {node : YamlNode} (hnode : find root ["serial"] = some node) :
    loadDevices library node [ascii "/tmp/tty_gateway"] = .ok (settings library root).serialDevices := by
  have hp : (["serial"], _) ∈ schema := List.mem_of_getElem? (i := 0) rfl
  have hmap := w.section_isMap hp hnode
  have hchild : ∀ key, find root ["serial", key] = child key node := by
    intro key
    exact (find_append ["serial"] key).trans (by rw [hnode, Option.bind_some])
  have hdevices := w.devices
  have hvalues := w.values _ hp ("devices", .strings) (by decide)
  have hvalue := w.values _ hp ("device", .string) (by decide)
  rw [List.singleton_append, hchild] at hvalues hvalue
  rw [hchild] at hdevices
  simp only [settings, setting, hchild]
  rw [loadDevices, subscript_of_isMap hmap, ok_bind]
  cases hlist : child "devices" node with
  | some list =>
    rw [hlist, Option.all_some] at hvalues hdevices
    obtain ⟨values, hvalues⟩ := exists_of_isOk hvalues
    simp only [Option.map_some, hvalues]
    rw [hdevices, require, if_pos rfl, ok_bind, convert, hvalues]
  | none =>
    simp only [subscript_of_isMap hmap, ok_bind]
    cases hone : child "device" node with
    | some single =>
      rw [hone, Option.all_some] at hvalue
      obtain ⟨value, hvalue⟩ := exists_of_isOk hvalue
      simp only [Option.map_some, hvalue, convert]
      rfl
    | none => rfl

lemma load_serial :
    loadSection library root "serial" (loadSerial library) {} = .ok (settings library root).serial := by
  have hp : (["serial"], _) ∈ schema := List.mem_of_getElem? (i := 0) rfl
  cases hnode : find root ["serial"] with
  | none =>
    have hdevices : find root ["serial", "devices"] = none :=
      (find_append ["serial"] "devices").trans (by rw [hnode, Option.bind_none])
    rw [loadSection_absent w.isMap (find_singleton "serial" ▸ hnode)]
    simp only [Settings.serial, settings, hdevices, setting_section_absent hnode]
  | some node =>
    rw [loadSection_present w.isMap (find_singleton "serial" ▸ hnode), loadSerial, w.load_devices hnode, ok_bind,
      w.loadInt hp hnode "baud_rate", ok_bind,
      w.loadInt hp hnode "reconnect_interval_seconds", ok_bind]
    rfl

lemma load_tls {mqtt : YamlNode} (hmqtt : find root ["mqtt"] = some mqtt) :
    loadSection library mqtt "tls" (loadTls library) {} = .ok (settings library root).tls := by
  have hp : (["mqtt", "tls"], _) ∈ schema := List.mem_of_getElem? (i := 4) rfl
  have hmap := w.section_isMap (List.mem_of_getElem? (i := 3) rfl) hmqtt
  have hchild : find root ["mqtt", "tls"] = child "tls" mqtt :=
    (find_append ["mqtt"] "tls").trans (by rw [hmqtt, Option.bind_some])
  cases hnode : find root ["mqtt", "tls"] with
  | none =>
    rw [loadSection_absent hmap (hchild ▸ hnode)]
    simp only [Settings.tls, settings, setting_inner_absent hnode]
  | some node =>
    rw [loadSection_present hmap (hchild ▸ hnode), loadTls,
      w.loadBool hp hnode "enabled", ok_bind, w.loadString hp hnode "ca_file", ok_bind,
      w.loadString hp hnode "certificate_file", ok_bind,
      w.loadString hp hnode "private_key_file", ok_bind,
      w.loadBool hp hnode "insecure", ok_bind]
    rfl

/-- A port is checked before it is narrowed. -/
lemma load_port {p : List String} {keys : List (String × Kind)} {node : YamlNode} (hp : (p, keys) ∈ schema)
    (hnode : find root p = some node) (hkey : ("port", .int) ∈ keys) {default : UInt16} {message : String}
    {port : UInt16} :
    loadPort library node default message = .ok port ↔
      (1 ≤ setting library.asInt root (p ++ ["port"]) default.toNat ∧
        setting library.asInt root (p ++ ["port"]) default.toNat ≤ 65535) ∧
      UInt16.ofInt (setting library.asInt root (p ++ ["port"]) default.toNat) = port := by
  rw [loadPort, w.loadInt hp hnode "port" hkey, ok_bind, require_bind_eq_ok]
  simp only [Bool.not_eq_true', Bool.or_eq_false_iff, decide_eq_false_iff_not, not_lt, gt_iff_lt, pure, Except.pure,
    Except.ok.injEq]

lemma load_tcp {tcp : TcpConfig} : loadSection library root "tcp" (loadTcp library) {} = .ok tcp ↔
    (1 ≤ (settings library root).tcpPort ∧ (settings library root).tcpPort ≤ 65535) ∧
      (settings library root).tcp = tcp := by
  have hp : (["tcp"], _) ∈ schema := List.mem_of_getElem? (i := 5) rfl
  cases hnode : find root ["tcp"] with
  | none =>
    rw [loadSection_absent w.isMap (find_singleton "tcp" ▸ hnode)]
    simp only [Settings.tcp, settings, setting_section_absent hnode, Except.ok.injEq]
    exact ⟨fun h => ⟨by decide, h⟩, fun h => h.2⟩
  | some node =>
    rw [loadSection_present w.isMap (find_singleton "tcp" ▸ hnode), loadTcp,
      w.loadBool hp hnode "enabled", ok_bind, w.loadString hp hnode "host", ok_bind,
      bind_eq_ok]
    simp only [w.load_port hp hnode (by decide)]
    constructor
    · rintro ⟨port, ⟨hport, rfl⟩, h⟩
      exact ⟨hport, Except.ok.inj h⟩
    · rintro ⟨hport, rfl⟩
      exact ⟨_, ⟨hport, rfl⟩, rfl⟩

lemma load_http {http : HttpConfig} : loadSection library root "http" (loadHttp library) {} = .ok http ↔
    (1 ≤ (settings library root).httpPort ∧ (settings library root).httpPort ≤ 65535) ∧
      (settings library root).http = http := by
  have hp : (["http"], _) ∈ schema := List.mem_of_getElem? (i := 6) rfl
  cases hnode : find root ["http"] with
  | none =>
    rw [loadSection_absent w.isMap (find_singleton "http" ▸ hnode)]
    simp only [Settings.http, settings, setting_section_absent hnode, Except.ok.injEq]
    exact ⟨fun h => ⟨by decide, h⟩, fun h => h.2⟩
  | some node =>
    rw [loadSection_present w.isMap (find_singleton "http" ▸ hnode), loadHttp, require_bind_eq_ok,
      w.loadBool hp hnode "enabled", ok_bind, w.loadString hp hnode "host", ok_bind,
      bind_eq_ok]
    simp only [w.load_port hp hnode (by decide)]
    constructor
    · rintro ⟨-, port, ⟨hport, rfl⟩, h⟩
      exact ⟨hport, Except.ok.inj h⟩
    · rintro ⟨hport, rfl⟩
      exact ⟨w.section_isMap hp hnode, _, ⟨hport, rfl⟩, rfl⟩

lemma load_mqtt {mqtt : MqttConfig} : loadSection library root "mqtt" (loadMqtt library) {} = .ok mqtt ↔
    (1 ≤ (settings library root).mqttPort ∧ (settings library root).mqttPort ≤ 65535) ∧
      (settings library root).mqtt = mqtt := by
  have hp : (["mqtt"], _) ∈ schema := List.mem_of_getElem? (i := 3) rfl
  cases hnode : find root ["mqtt"] with
  | none =>
    have htls : find root ["mqtt", "tls"] = none :=
      (find_append ["mqtt"] "tls").trans (by rw [hnode, Option.bind_none])
    rw [loadSection_absent w.isMap (find_singleton "mqtt" ▸ hnode)]
    simp only [Settings.mqtt, Settings.tls, settings, setting_section_absent hnode, setting_inner_absent htls,
      Except.ok.injEq]
    exact ⟨fun h => ⟨by decide, h⟩, fun h => h.2⟩
  | some node =>
    rw [loadSection_present w.isMap (find_singleton "mqtt" ▸ hnode), loadMqtt,
      w.loadString hp hnode "host", ok_bind, bind_eq_ok]
    simp only [w.load_port hp hnode (by decide), w.loadString hp hnode "topic_prefix",
      w.loadInt hp hnode "cache_retry_interval_seconds", w.loadString hp hnode "username",
      w.loadString hp hnode "password", w.load_tls hnode, ok_bind]
    constructor
    · rintro ⟨port, ⟨hport, rfl⟩, h⟩
      exact ⟨hport, Except.ok.inj h⟩
    · rintro ⟨hport, rfl⟩
      exact ⟨_, ⟨hport, rfl⟩, rfl⟩

lemma load_modbus {modbus : ModbusConfig} : loadSection library root "modbus" (loadModbus library) {} = .ok modbus ↔
    ((1 ≤ (settings library root).slaveId ∧ (settings library root).slaveId ≤ 247) ∧
      ((settings library root).functionCode = 3 ∨ (settings library root).functionCode = 4) ∧
      (0 ≤ (settings library root).startAddress ∧ (settings library root).startAddress ≤ 65535) ∧
      1 ≤ (settings library root).registerCount ∧ (settings library root).registerCount ≤ 125) ∧
      (settings library root).modbus = modbus := by
  have hp : (["modbus"], _) ∈ schema := List.mem_of_getElem? (i := 1) rfl
  cases hnode : find root ["modbus"] with
  | none =>
    rw [loadSection_absent w.isMap (find_singleton "modbus" ▸ hnode)]
    simp only [Settings.modbus, settings, setting_section_absent hnode, Except.ok.injEq]
    exact ⟨fun h => ⟨by decide, h⟩, fun h => h.2⟩
  | some node =>
    rw [loadSection_present w.isMap (find_singleton "modbus" ▸ hnode), loadModbus,
      w.loadBool hp hnode "enabled", ok_bind, w.loadString hp hnode "port", ok_bind,
      w.loadInt hp hnode "baud_rate", ok_bind, w.loadInt hp hnode "baudrate", ok_bind,
      w.loadInt hp hnode "slave_id", ok_bind, w.loadInt hp hnode "function_code", ok_bind,
      w.loadInt hp hnode "start_address", ok_bind,
      w.loadInt hp hnode "register_count", ok_bind,
      w.loadInt hp hnode "poll_interval_ms", ok_bind,
      w.loadInt hp hnode "response_timeout_ms", ok_bind,
      require_bind_eq_ok, require_bind_eq_ok, require_bind_eq_ok]
    simp only [Bool.not_eq_true', Bool.or_eq_false_iff, Bool.and_eq_false_iff, decide_eq_false_iff_not, not_lt,
      gt_iff_lt, ne_eq, not_not]
    constructor
    · rintro ⟨hslave, hfunction, ⟨⟨hstart, hone⟩, hmany⟩, h⟩
      exact ⟨⟨hslave, hfunction, hstart, hone, hmany⟩, Except.ok.inj h⟩
    · rintro ⟨⟨hslave, hfunction, hstart, hone, hmany⟩, rfl⟩
      exact ⟨hslave, hfunction, ⟨⟨hstart, hone⟩, hmany⟩, rfl⟩

end WellTyped

/-! ### The checks of the merged configuration -/

lemma isSupportedBaudRate_iff {baudRate : Int} :
    isSupportedBaudRate baudRate = true ↔ baudRate ∈ supportedBaudRates := by
  simp [isSupportedBaudRate, supportedBaudRates, or_assoc]

/-- A group of checks that was passed, and what comes after it. -/
lemma check_bind_eq_ok {β : Type} {x : Loader Unit} {f : Unit → Loader β} {r : β} :
    (x >>= f) = .ok r ↔ x = .ok () ∧ f () = .ok r := by
  rw [bind_eq_ok]
  exact ⟨fun ⟨_, hx, hf⟩ => ⟨hx, hf⟩, fun ⟨hx, hf⟩ => ⟨(), hx, hf⟩⟩

/-! The conditions as the source writes them, negated. -/

lemma nonempty_iff {text : Text} : (!text.isEmpty) = true ↔ text ≠ [] := by
  rw [Bool.not_eq_true', List.isEmpty_eq_false_iff]

lemma positive_iff {value : Int} : (!decide (value < 1)) = true ↔ 1 ≤ value := by
  rw [Bool.not_eq_true', decide_eq_false_iff_not, not_lt]

lemma refused_iff {a b : Bool} : (!(a && b)) = true ↔ (a = true → (!b) = true) := by
  cases a with
  | true => simp
  | false => simp

lemma together_iff {s t : Text} : (!((!s.isEmpty) != !t.isEmpty)) = true ↔ (s = [] ↔ t = []) := by
  cases s with
  | nil =>
    cases t with
    | nil => simp
    | cons c t => simp
  | cons c s =>
    cases t with
    | nil => simp
    | cons c' t => simp

variable (s : Settings)

lemma checkSerial_iff : checkSerial s.serial = .ok () ↔
    ((∀ device ∈ s.serialDevices, device ≠ []) ∧ s.serialDevices.Nodup) ∧
      s.serialBaudRate ∈ supportedBaudRates ∧ 1 ≤ s.reconnectIntervalSeconds := by
  unfold checkSerial Settings.serial
  dsimp only
  simp only [check_bind_eq_ok, require_eq_ok, checkDevices_eq_ok, isSupportedBaudRate_iff, List.not_mem_nil,
    not_false_eq_true, and_true, Bool.not_eq_true', decide_eq_false_iff_not, not_lt]

lemma checkModbus_iff : checkModbus s.modbus = .ok () ↔
    (s.modbusEnabled = true → s.modbusPort ≠ [] ∧ s.modbusBaudRate ∈ supportedBaudRates ∧
      1 ≤ s.pollIntervalMs ∧ 1 ≤ s.responseTimeoutMs) := by
  unfold checkModbus Settings.modbus
  cases s.modbusEnabled with
  | true =>
    simp only [if_true, check_bind_eq_ok, require_eq_ok, isSupportedBaudRate_iff, Bool.not_eq_true',
      Bool.or_eq_false_iff, decide_eq_false_iff_not, not_lt, List.isEmpty_eq_false_iff, ne_eq, forall_const]
  | false =>
    exact ⟨fun _ => nofun, fun _ => rfl⟩

lemma checkCan_iff : checkCan s.can = .ok () ↔
    (s.canEnabled = true → s.canInterface ≠ []) ∧ 1 ≤ s.heartbeatTimeoutSeconds := by
  unfold checkCan Settings.can
  dsimp only
  simp only [check_bind_eq_ok, require_eq_ok, refused_iff, nonempty_iff, positive_iff]

lemma checkMqtt_iff : checkMqtt s.mqtt = .ok () ↔
    s.mqttHost ≠ [] ∧ s.topicPrefix ≠ [] ∧ 1 ≤ s.cacheRetryIntervalSeconds ∧ (s.password ≠ [] → s.username ≠ []) ∧
      (s.tlsEnabled = true → s.caFile ≠ []) ∧ (s.certificateFile = [] ↔ s.privateKeyFile = []) ∧
      (s.tlsInsecure = true → s.tlsEnabled = true) := by
  have hcredentials : (!(s.username.isEmpty && !s.password.isEmpty)) = true ↔ (s.password ≠ [] → s.username ≠ []) := by
    rw [refused_iff, Bool.not_not, List.isEmpty_iff, List.isEmpty_iff, ne_eq, ne_eq, not_imp_not]
  have hinsecure : (!(!s.tlsEnabled && s.tlsInsecure)) = true ↔ (s.tlsInsecure = true → s.tlsEnabled = true) := by
    cases s.tlsEnabled with
    | true => simp
    | false => simp
  unfold checkMqtt Settings.mqtt Settings.tls
  dsimp only
  simp only [check_bind_eq_ok, require_eq_ok, hcredentials, together_iff, hinsecure, refused_iff, nonempty_iff,
    positive_iff]

lemma checkEndpoints_iff : checkEndpoints library s.config = .ok () ↔
    (s.tcpEnabled = true → s.tcpHost ≠ []) ∧ s.httpHost ≠ [] ∧
      (s.httpEnabled = true → s.httpHost = ascii "localhost" ∨ library.inetPton (cString s.httpHost) = true) ∧
      s.cachePath ≠ [] ∧ (s.cacheType = ascii "sqlite" ∨ s.cacheType = ascii "file") ∧ s.logPath ≠ [] ∧
      s.logLevel ∈ [ascii "DEBUG", ascii "INFO", ascii "WARN", ascii "ERROR"] := by
  have haddress : isValidHttpHost library s.httpHost = true ↔
      s.httpHost = ascii "localhost" ∨ library.inetPton (cString s.httpHost) = true := by
    rw [isValidHttpHost, Bool.or_eq_true, decide_eq_true_eq]
  have htype : (!(decide (s.cacheType ≠ ascii "sqlite") && decide (s.cacheType ≠ ascii "file"))) = true ↔
      s.cacheType = ascii "sqlite" ∨ s.cacheType = ascii "file" := by
    simp only [Bool.not_eq_true', Bool.and_eq_false_iff, decide_eq_false_iff_not, not_not]
  have hlevel : isValidLogLevel s.logLevel = true ↔
      s.logLevel ∈ [ascii "DEBUG", ascii "INFO", ascii "WARN", ascii "ERROR"] := by
    simp only [isValidLogLevel, Bool.or_eq_true, decide_eq_true_eq, List.mem_cons, List.not_mem_nil, or_false,
      or_assoc]
  unfold checkEndpoints Settings.config Settings.tcp Settings.http Settings.cache Settings.log
  dsimp only
  simp only [check_bind_eq_ok, require_eq_ok, htype, refused_iff, nonempty_iff, Bool.not_not, haddress, hlevel]

lemma checkInputs_iff : (!(s.serialDevices.isEmpty && !s.modbusEnabled && !s.canEnabled)) = true ↔
    s.serialDevices ≠ [] ∨ s.modbusEnabled = true ∨ s.canEnabled = true := by
  simp only [Bool.not_and, Bool.not_not, Bool.or_eq_true, Bool.not_eq_true', List.isEmpty_eq_false_iff, or_assoc]

/-- A section with a condition on its settings, and what comes after it. -/
lemma section_bind_eq_ok {α β : Type} {x : Loader α} {P : Prop} {value : α}
    (h : ∀ {a}, x = .ok a ↔ P ∧ value = a) {f : α → Loader β} {r : β} :
    (x >>= f) = .ok r ↔ P ∧ f value = .ok r := by
  rw [bind_eq_ok]
  constructor
  · rintro ⟨a, hx, hf⟩
    obtain ⟨hp, rfl⟩ := h.mp hx
    exact ⟨hp, hf⟩
  · rintro ⟨hp, hf⟩
    exact ⟨value, h.mpr ⟨hp, rfl⟩, hf⟩

/-- The conditions that the sections check before their numbers are narrowed. -/
structure InRange (s : Settings) : Prop where
  slaveId : 1 ≤ s.slaveId ∧ s.slaveId ≤ 247
  functionCode : s.functionCode = 3 ∨ s.functionCode = 4
  startAddress : 0 ≤ s.startAddress ∧ s.startAddress ≤ 65535
  registerCount : 1 ≤ s.registerCount ∧ s.registerCount ≤ 125
  mqttPort : 1 ≤ s.mqttPort ∧ s.mqttPort ≤ 65535
  tcpPort : 1 ≤ s.tcpPort ∧ s.tcpPort ≤ 65535
  httpPort : 1 ≤ s.httpPort ∧ s.httpPort ≤ 65535

lemma WellTyped.mergeSections_eq_ok_iff (w : WellTyped library root) {c : GatewayConfig} :
    mergeSections library root {} = .ok c ↔
      InRange (settings library root) ∧ (settings library root).config = c := by
  simp only [mergeSections, w.load_serial, w.load_can, w.load_cache, w.load_log, section_bind_eq_ok w.load_modbus,
    section_bind_eq_ok w.load_mqtt, section_bind_eq_ok w.load_tcp, section_bind_eq_ok w.load_http, ok_bind]
  constructor
  · rintro ⟨⟨hslave, hfunction, hstart, hcount⟩, hmqtt, htcp, hhttp, h⟩
    exact ⟨⟨hslave, hfunction, hstart, hcount, hmqtt, htcp, hhttp⟩, Except.ok.inj h⟩
  · rintro ⟨⟨hslave, hfunction, hstart, hcount, hmqtt, htcp, hhttp⟩, rfl⟩
    exact ⟨⟨hslave, hfunction, hstart, hcount⟩, hmqtt, htcp, hhttp, rfl⟩

/-- The checks of the sections and of the merged configuration are the conditions on the settings. -/
lemma acceptable_iff : Acceptable library s ↔ InRange s ∧ checkConfig library s.config = .ok () := by
  have hchecks : checkConfig library s.config = .ok () ↔
      checkSerial s.serial = .ok () ∧ checkModbus s.modbus = .ok () ∧ checkCan s.can = .ok () ∧
        (!(s.serialDevices.isEmpty && !s.modbusEnabled && !s.canEnabled)) = true ∧
        checkMqtt s.mqtt = .ok () ∧ checkEndpoints library s.config = .ok () := by
    unfold checkConfig
    simp only [check_bind_eq_ok, require_eq_ok]
    exact Iff.rfl
  rw [hchecks, checkSerial_iff, checkModbus_iff, checkCan_iff, checkInputs_iff, checkMqtt_iff, checkEndpoints_iff]
  constructor
  · intro h
    exact ⟨⟨h.slaveId, h.functionCode, h.startAddress, h.registerCount, h.mqttPort, h.tcpPort, h.httpPort⟩,
      ⟨⟨h.devices_nonempty, h.devices_nodup⟩, h.serialBaudRate, h.reconnectInterval⟩, h.modbus,
      ⟨h.can, h.heartbeat⟩, h.input,
      ⟨h.mqttHost, h.topicPrefix, h.cacheRetryInterval, h.credentials, h.caFile, h.clientCertificate, h.insecure⟩,
      h.tcpHost, h.httpHost, h.httpAddress, h.cachePath, h.cacheType, h.logPath, h.logLevel⟩
  · rintro ⟨hrange, ⟨⟨hne, hnodup⟩, hbaud, hreconnect⟩, hmodbus, ⟨hcan, hheartbeat⟩, hinput,
      ⟨hmqttHost, htopic, hretry, hcredentials, hca, hclient, hinsecure⟩,
      htcp, hhttpHost, haddress, hcachePath, hcacheType, hlogPath, hlogLevel⟩
    exact {
      devices_nonempty := hne
      devices_nodup := hnodup
      serialBaudRate := hbaud
      reconnectInterval := hreconnect
      slaveId := hrange.slaveId
      functionCode := hrange.functionCode
      startAddress := hrange.startAddress
      registerCount := hrange.registerCount
      modbus := hmodbus
      can := hcan
      heartbeat := hheartbeat
      input := hinput
      mqttPort := hrange.mqttPort
      tcpPort := hrange.tcpPort
      httpPort := hrange.httpPort
      mqttHost := hmqttHost
      topicPrefix := htopic
      cacheRetryInterval := hretry
      credentials := hcredentials
      caFile := hca
      clientCertificate := hclient
      insecure := hinsecure
      tcpHost := htcp
      httpHost := hhttpHost
      httpAddress := haddress
      cachePath := hcachePath
      cacheType := hcacheType
      logPath := hlogPath
      logLevel := hlogLevel }

/-- A well-typed document is accepted if and only if its settings meet the conditions, and then they are what
the configuration is made of. -/
theorem loadGatewayConfig_accepts_iff (w : WellTyped library root) :
    ((∃ c, loadGatewayConfig library (.ok root) {} = .ok c) ↔ Acceptable library (settings library root)) ∧
    ∀ c, loadGatewayConfig library (.ok root) {} = .ok c → c = (settings library root).config := by
  have hload : ∀ c, loadGatewayConfig library (.ok root) {} = .ok c ↔
      Acceptable library (settings library root) ∧ (settings library root).config = c := by
    intro c
    rw [acceptable_iff, loadGatewayConfig, require_bind_eq_ok, section_bind_eq_ok w.mergeSections_eq_ok_iff,
      check_bind_eq_ok, and_assoc]
    constructor
    · rintro ⟨-, hrange, hchecked, h⟩
      exact ⟨hrange, hchecked, Except.ok.inj h⟩
    · rintro ⟨hrange, hchecked, rfl⟩
      exact ⟨w.isMap, hrange, hchecked, rfl⟩
  refine ⟨⟨?_, ?_⟩, ?_⟩
  · rintro ⟨c, h⟩
    exact ((hload c).mp h).1
  · intro h
    exact ⟨_, (hload _).mpr ⟨h, rfl⟩⟩
  · intro c h
    exact ((hload c).mp h).2.symm

/-- A document that leaves most settings out. -/
def shortDocument : YamlNode :=
  .map [(.scalar (ascii "serial"), .map [(.scalar (ascii "devices"), .sequence [])]),
    (.scalar (ascii "modbus"), .map [(.scalar (ascii "enabled"), .scalar (ascii "true")),
      (.scalar (ascii "baud_rate"), .scalar (ascii "1200")), (.scalar (ascii "baudrate"), .scalar (ascii "9600"))]),
    (.scalar (ascii "log"), .map [(.scalar (ascii "level"), .scalar (ascii "warn"))])]

theorem loadGatewayConfig_accepts_iff_short :
    WellTyped plainLibrary shortDocument ∧ Acceptable plainLibrary (settings plainLibrary shortDocument) := by
  have w : WellTyped plainLibrary shortDocument := ⟨rfl, by decide, by decide, by decide⟩
  refine ⟨w, ?_⟩
  rw [← (loadGatewayConfig_accepts_iff w).1]
  exact ⟨_, rfl⟩

end EdgeGateway.Config
