import EdgeGateway.Model.Text

/-!
# Runtime metrics

The counters and gauges of `app/runtime_metrics.cpp` that the modelled components record.
-/

namespace EdgeGateway

inductive Counter where
  | framesParsed
  | framesInvalid
  | crcErrors
  | lengthErrors
  | mqttPublishSuccess
  | mqttPublishFailed
  | tcpPublishSuccess
  | tcpPublishFailed
  | cacheEnqueue
  | cacheFlushAttempt
  | protocolError
  | modbusError
  | canError
deriving DecidableEq

/-- An atomic update of the metrics. -/
inductive MetricUpdate where
  | add (counter : Counter) (count : Nat)
  | setCacheDepth (depth : Nat)
deriving DecidableEq

structure RuntimeMetrics where
  counter : Counter → Nat
  cacheDepth : Nat

namespace RuntimeMetrics

def zero : RuntimeMetrics :=
  ⟨fun _ => 0, 0⟩

def apply (m : RuntimeMetrics) : MetricUpdate → RuntimeMetrics
  | .add counter count => { m with counter := Function.update m.counter counter (m.counter counter + count) }
  | .setCacheDepth depth => { m with cacheDepth := depth }

end RuntimeMetrics

end EdgeGateway
