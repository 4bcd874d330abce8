import EdgeGateway.Lib.CallTree
import EdgeGateway.Model.Metrics
import EdgeGateway.Model.SqliteCache

/-!
# The reliable publisher

`ReliablePublisher` of `mqtt/reliable_publisher.cpp`, written over the calls it makes: the MQTT client,
the message cache, the metrics and the console. Its mutex makes the two operations exclude each
other, so each is one program.
-/

namespace EdgeGateway
open CallTree

inductive PublishStatus where
  | published
  | deferred
  | failed
deriving DecidableEq

/-- Where in the source `MqttClient::publish` is called: in `publish`, or in the loop of
`flush_cache` for the message at a position of the loaded list. -/
inductive PublishSite where
  | direct
  | replay (index : Nat)
deriving DecidableEq

inductive PublisherOp where
  | mqttPublish (site : PublishSite) (message : CachedMessage)
  | append (message : CachedMessage)
  | loadAll
  | removeFirst (count : Nat)
  | metric (update : MetricUpdate)
  | print (line : Text)

abbrev PublisherOp.Ans : PublisherOp → Type
  | .mqttPublish _ _ => Bool
  | .append _ => Bool
  | .loadAll => List CachedMessage
  | .removeFirst _ => Bool
  | .metric _ => Unit
  | .print _ => Unit

abbrev publisherSignature : Signature :=
  ⟨PublisherOp, PublisherOp.Ans⟩

/-- The publisher's own state: whether `runtime_metrics_` is set. -/
structure ReliablePublisher where
  runtimeMetrics : Bool

namespace ReliablePublisher

abbrev Call := Prog publisherSignature

def mqttPublish (site : PublishSite) (message : CachedMessage) : Call Bool :=
  .perform (E := publisherSignature) (.mqttPublish site message)

def cacheAppend (message : CachedMessage) : Call Bool :=
  .perform (E := publisherSignature) (.append message)

def cacheLoadAll : Call (List CachedMessage) :=
  .perform (E := publisherSignature) .loadAll

def cacheRemoveFirst (count : Nat) : Call Bool :=
  .perform (E := publisherSignature) (.removeFirst count)

def print (line : Text) : Call Unit :=
  .perform (E := publisherSignature) (.print line)

/-- `if (runtime_metrics_ != nullptr)` around an update. -/
def metric (p : ReliablePublisher) (update : MetricUpdate) : Call Unit :=
  if p.runtimeMetrics then .perform (E := publisherSignature) (.metric update) else return ()

/-- `if (runtime_metrics_ != nullptr)` around `set_cache_depth(message_cache_.load_all().size())`. -/
def setDepthFromCache (p : ReliablePublisher) : Call Unit :=
  if p.runtimeMetrics then do
    let messages ← cacheLoadAll
    p.metric (.setCacheDepth messages.length)
  else
    return ()

def construct (p : ReliablePublisher) : Call Unit :=
  p.setDepthFromCache

def publish (p : ReliablePublisher) (message : CachedMessage) : Call PublishStatus := do
  if ← mqttPublish .direct message then
    p.metric (.add .mqttPublishSuccess 1)
    return .published
  else
    p.metric (.add .mqttPublishFailed 1)
    if ← cacheAppend message then
      p.metric (.add .cacheEnqueue 1)
      p.setDepthFromCache
      print (ascii "[WARN] mqtt unavailable, message cached, topic=" ++ message.topic)
      return .deferred
    else
      print (ascii "[ERROR] mqtt publish and local cache both failed, topic=" ++ message.topic)
      return .failed

/-- The loop of `flush_cache` over the messages still to be sent, returning the final
`published_count`. -/
def replay (p : ReliablePublisher) (total publishedCount : Nat) : List CachedMessage → Call Nat
  | [] => return publishedCount
  | message :: rest => do
    if ← mqttPublish (.replay publishedCount) message then
      p.metric (.add .mqttPublishSuccess 1)
      p.replay total (publishedCount + 1) rest
    else
      p.metric (.add .mqttPublishFailed 1)
      print (ascii "[WARN] cache replay stopped, published=" ++ decimal publishedCount ++
        ascii ", remaining=" ++ decimal (total - publishedCount))
      return publishedCount

def flushCache (p : ReliablePublisher) : Call Nat := do
  p.metric (.add .cacheFlushAttempt 1)
  let messages ← cacheLoadAll
  p.metric (.setCacheDepth messages.length)
  if messages.isEmpty then
    return 0
  else
    let publishedCount ← p.replay messages.length 0 messages
    if publishedCount = 0 then
      return 0
    else if ← cacheRemoveFirst publishedCount then
      p.metric (.setCacheDepth (messages.length - publishedCount))
      print (ascii "[INFO] cache replay complete, published=" ++ decimal publishedCount ++
        ascii ", remaining=" ++ decimal (messages.length - publishedCount))
      return publishedCount
    else
      print (ascii "[ERROR] failed to update cache after replay")
      return publishedCount

end ReliablePublisher

end EdgeGateway
