import EdgeGateway.Lib.Threads
import EdgeGateway.Model.ReliablePublisher

/-!
# The MQTT client

`publish` and the callbacks of `mqtt/mqtt_client.cpp`. Threads call `publish` from inside the mutex of the
reliable publisher, and the network thread of mosquitto runs the callbacks. Each access to what they share
is a call of its own.
-/

namespace EdgeGateway
open CallTree

/-- What `publish` and the callbacks share. -/
structure MqttClient where
  connected : Bool := false
  acknowledgedMessageIds : Finset Int := ∅

namespace MqttClient

def onConnect (c : MqttClient) (resultCode : Int) : MqttClient :=
  { c with connected := resultCode = 0 }

def onDisconnect (c : MqttClient) : MqttClient :=
  { c with connected := false }

/-- The critical section of `on_publish`. -/
def onPublish (c : MqttClient) (messageId : Int) : MqttClient :=
  { c with acknowledgedMessageIds := insert messageId c.acknowledgedMessageIds }

end MqttClient

/-- Calls of a publishing thread. `mosquittoPublish` answers with the text of its error or the id of the
message. `wait_for` is in two parts: `beginWait` answers whether the predicate holds at once, and if not it
releases the mutex, which `endWait` takes again. `called` and `returned` do nothing: they mark where a call
of `publish` begins and ends. The calls of the publisher to its cache, its metrics and the console stay as
they are. -/
inductive MqttOp where
  | lockPublisher
  | unlockPublisher
  | called (message : CachedMessage)
  | returned (message : CachedMessage) (result : Bool)
  | loadConnected
  | lockAcknowledgments
  | unlockAcknowledgments
  | clearAcknowledged
  | mosquittoPublish (topic payload : Text)
  | beginWait (messageId : Int)
  | endWait (messageId : Int)
  | findAcknowledged (messageId : Int)
  | eraseAcknowledged (messageId : Int)
  | print (line : Text)
  | publisher (o : PublisherOp)

abbrev MqttOp.Ans : MqttOp → Type
  | .lockPublisher => Unit
  | .unlockPublisher => Unit
  | .called _ => Unit
  | .returned _ _ => Unit
  | .loadConnected => Bool
  | .lockAcknowledgments => Unit
  | .unlockAcknowledgments => Unit
  | .clearAcknowledged => Unit
  | .mosquittoPublish _ _ => Except Text Int
  | .beginWait _ => Bool
  | .endWait _ => Unit
  | .findAcknowledged _ => Bool
  | .eraseAcknowledged _ => Unit
  | .print _ => Unit
  | .publisher o => o.Ans

abbrev mqttSignature : Signature :=
  ⟨MqttOp, MqttOp.Ans⟩

namespace MqttClient

abbrev Call := Prog mqttSignature

def perform (o : MqttOp) : Call o.Ans :=
  .perform (E := mqttSignature) o

def print (line : Text) : Call Unit :=
  perform (.print line)

def intMax : Nat := 2147483647

/-- `wait_for` with the predicate of `publish`. -/
def waitFor (messageId : Int) : Call Unit := do
  if ← perform (.beginWait messageId) then
    return ()
  else
    perform (.endWait messageId)

/-- The part of `publish` after the wait. -/
def evaluate (topic : Text) (messageId : Int) : Call Bool := do
  if ← perform (.findAcknowledged messageId) then
    perform (.eraseAcknowledged messageId)
    print (ascii "[INFO] MQTT publish acknowledged, topic=" ++ topic ++ ascii ", message_id=" ++
      decimal messageId.toNat)
    perform .unlockAcknowledgments
    return true
  else
    print (ascii "[WARN] MQTT PUBACK timeout or connection lost, topic=" ++ topic)
    perform .unlockAcknowledgments
    return false

/-- The part of `publish` that holds the mutex. -/
def exchange (topic payload : Text) : Call Bool := do
  perform .lockAcknowledgments
  perform .clearAcknowledged
  match ← perform (.mosquittoPublish (cString topic) payload) with
  | .error error =>
    print (ascii "[ERROR] MQTT publish failed, topic=" ++ topic ++ ascii ", error=" ++ error)
    perform .unlockAcknowledgments
    return false
  | .ok messageId =>
    waitFor messageId
    evaluate topic messageId

/-- `publish`, where `client` says whether `client_` is set. -/
def publish (client : Bool) (topic payload : Text) : Call Bool := do
  if client && (← perform .loadConnected) then
    if payload.length > intMax then
      print (ascii "[ERROR] MQTT payload is too large")
      return false
    else
      exchange topic payload
  else
    print (ascii "[WARN] MQTT unavailable, topic=" ++ topic)
    return false

/-- The calls of the publisher, with `publish` in place of those to the client. -/
def serve (client : Bool) : (o : PublisherOp) → Call o.Ans
  | .mqttPublish _ message => do
    perform (.called message)
    let result ← publish client message.topic message.payload
    perform (.returned message result)
    return result
  | o => perform (.publisher o)

/-- An operation of the publisher, inside of its mutex. -/
def locked {α : Type} (client : Bool) (p : ReliablePublisher.Call α) : Call Unit := do
  perform .lockPublisher
  let _ ← p.interpret (serve client)
  perform .unlockPublisher

end MqttClient

end EdgeGateway
