import EdgeGateway.Lib.CallTree
import EdgeGateway.Model.GatewayConfig

/-!
# The life of the MQTT client

The constructor and the destructor of `mqtt/mqtt_client.cpp`, over the calls to mosquitto, and the options that
`run_gateway` gives to them.
-/

namespace EdgeGateway
open CallTree

structure MqttClientOptions where
  username : Text := []
  password : Text := []
  tlsEnabled : Bool := false
  caFile : Text := []
  certificateFile : Text := []
  privateKeyFile : Text := []
  tlsInsecure : Bool := false

namespace MqttClientOptions

/-- `options.empty() ? nullptr : options.c_str()`. -/
def cStringOrNull (s : Text) : Option Text :=
  if s = [] then none else some (cString s)

end MqttClientOptions

inductive MqttCallback where
  | connect
  | disconnect
  | publish
deriving DecidableEq

/-- The calls of mosquitto on the one client, without the client. Those that return an error code answer with the
text of the error. `new` answers whether there is a client. -/
inductive MosquittoOp where
  | libInit
  | new
  | usernamePwSet (username : Text) (password : Option Text)
  | tlsSet (caFile : Text) (certificateFile privateKeyFile : Option Text)
  | tlsInsecureSet (value : Bool)
  | callbackSet (callback : MqttCallback)
  | reconnectDelaySet (delay delayMax : Nat) (exponentialBackoff : Bool)
  | connectAsync (host : Text) (port : Int) (keepalive : Nat)
  | loopStart
  | storeConnected (value : Bool)
  | notifyAll
  | disconnect
  | loopStop (force : Bool)
  | destroy
  | libCleanup
  | printOut (line : Text)
  | printError (line : Text)

abbrev MosquittoOp.Ans : MosquittoOp → Type
  | .libInit => Option Text
  | .new => Bool
  | .usernamePwSet _ _ => Option Text
  | .tlsSet _ _ _ => Option Text
  | .tlsInsecureSet _ => Option Text
  | .callbackSet _ => Unit
  | .reconnectDelaySet _ _ _ => Option Text
  | .connectAsync _ _ _ => Option Text
  | .loopStart => Option Text
  | .storeConnected _ => Unit
  | .notifyAll => Unit
  | .disconnect => Unit
  | .loopStop _ => Unit
  | .destroy => Unit
  | .libCleanup => Unit
  | .printOut _ => Unit
  | .printError _ => Unit

abbrev mosquittoSignature : Signature :=
  ⟨MosquittoOp, MosquittoOp.Ans⟩

abbrev MosquittoCall := Prog mosquittoSignature

/-- The members of the client that the destructor looks at. -/
structure MqttHandles where
  libraryInitialized : Bool := false
  client : Bool := false
  networkLoopStarted : Bool := false
deriving DecidableEq

namespace MqttSetup
open MqttClientOptions

def perform (o : MosquittoOp) : MosquittoCall o.Ans :=
  Prog.perform (E := mosquittoSignature) o

/-- Whether a call succeeded, with a line on the console if it did not. -/
def succeeded (message : Text) (result : Option Text) : MosquittoCall Bool :=
  match result with
  | none => return true
  | some error => do
    perform (.printError (ascii "[ERROR] " ++ message ++ ascii ": " ++ error))
    return false

def configureAuthentication (options : MqttClientOptions) : MosquittoCall Bool := do
  if options.username = [] then
    return true
  else
    let result ← perform (.usernamePwSet (cString options.username) (cStringOrNull options.password))
    succeeded (ascii "MQTT authentication setup failed") result

def configureTls (options : MqttClientOptions) : MosquittoCall Bool := do
  if options.tlsEnabled then
    let result ← perform (.tlsSet (cString options.caFile) (cStringOrNull options.certificateFile)
      (cStringOrNull options.privateKeyFile))
    if ← succeeded (ascii "MQTT TLS setup failed") result then
      let result ← perform (.tlsInsecureSet options.tlsInsecure)
      succeeded (ascii "MQTT TLS hostname policy failed") result
    else
      return false
  else
    return true

def configureSecurity (options : MqttClientOptions) : MosquittoCall Bool := do
  if ← configureAuthentication options then
    configureTls options
  else
    return false

/-- The part of `initialize` with a secured client: whether the network loop has been started. -/
def connect (host : Text) (port : UInt16) (options : MqttClientOptions) : MosquittoCall Bool := do
  perform (.callbackSet .connect)
  perform (.callbackSet .disconnect)
  perform (.callbackSet .publish)
  let result ← perform (.reconnectDelaySet 1 30 true)
  if ← succeeded (ascii "MQTT reconnect policy failed") result then
    let result ← perform (.connectAsync (cString host) port.toNat 60)
    if ← succeeded (ascii "MQTT connect setup failed") result then
      let result ← perform .loopStart
      if ← succeeded (ascii "MQTT network loop failed") result then
        perform (.printOut (ascii "[INFO] MQTT client initialized, broker=" ++ host ++ ascii ":" ++
          decimal port.toNat ++
          ascii ", authentication=" ++ ascii (if options.username = [] then "disabled" else "enabled") ++
          ascii ", tls=" ++ ascii (if options.tlsEnabled then "enabled" else "disabled")))
        return true
      else
        return false
    else
      return false
  else
    return false

/-- `initialize`, which the constructor calls. -/
def initializeClient (host : Text) (port : UInt16) (options : MqttClientOptions) : MosquittoCall MqttHandles := do
  let result ← perform .libInit
  if ← succeeded (ascii "mosquitto library init failed") result then
    if ← perform .new then
      if ← configureSecurity options then
        let started ← connect host port options
        return { libraryInitialized := true, client := true, networkLoopStarted := started }
      else
        return { libraryInitialized := true, client := true }
    else
      perform (.printError (ascii "[ERROR] mosquitto client creation failed"))
      return { libraryInitialized := true }
  else
    return {}

/-- The destructor. -/
def destruct (handles : MqttHandles) : MosquittoCall Unit := do
  perform (.storeConnected false)
  perform .notifyAll
  (if handles.client then do
    (if handles.networkLoopStarted then do
      perform .disconnect
      perform (.loopStop true)
    else
      return ())
    perform .destroy
  else
    return ())
  (if handles.libraryInitialized then perform .libCleanup else return ())

end MqttSetup

namespace Gateway

/-- The options that `run_gateway` makes of the configuration. -/
def mqttOptions (c : Config.MqttConfig) : MqttClientOptions where
  username := c.username
  password := c.password
  tlsEnabled := c.tls.enabled
  caFile := c.tls.caFile
  certificateFile := c.tls.certificateFile
  privateKeyFile := c.tls.privateKeyFile
  tlsInsecure := c.tls.insecure

/-- From the construction of the MQTT client in `run_gateway` to its destruction. `publish` and the callbacks in
between are modelled elsewhere. -/
def mqttLife (c : Config.MqttConfig) : MosquittoCall MqttHandles := do
  let handles ← MqttSetup.initializeClient c.host c.port (mqttOptions c)
  MqttSetup.destruct handles
  return handles

end Gateway

end EdgeGateway
