import Outbound.Time

/-! # Metric events

What is measured about calls: completed requests, repeated attempts, waits for tokens and failures.

* `MetricEvent` lists the events; `isHttpRequest`, `isRetry`, `isRateLimit` and `isError` tell them
  apart.
* `MemoryMetrics` is a sink that keeps every event. -/

namespace Outbound

/-- Something measured about a call. -/
inductive MetricEvent where
  /-- A request was answered. -/
  | httpRequest (method path : String) (status : Nat) (duration : Duration)
  /-- A further attempt is to be made. -/
  | retry (attempt : Nat) (endpoint : String)
  /-- A call waits for a token. -/
  | rateLimit (endpoint : String) (wait : Duration)
  /-- An operation failed. -/
  | error (operation kind : String)
  deriving DecidableEq, Repr

namespace MetricEvent

/-- Whether a request was answered. -/
def isHttpRequest : MetricEvent → Bool
  | .httpRequest _ _ _ _ => true
  | _ => false

/-- Whether a further attempt is to be made. -/
def isRetry : MetricEvent → Bool
  | .retry _ _ => true
  | _ => false

/-- Whether a call waits for a token. -/
def isRateLimit : MetricEvent → Bool
  | .rateLimit _ _ => true
  | _ => false

/-- Whether an operation failed. -/
def isError : MetricEvent → Bool
  | .error _ _ => true
  | _ => false

end MetricEvent

/-- A sink in memory, with the events it has kept, the oldest first. -/
structure MemoryMetrics where
  /-- The events. -/
  events : List MetricEvent := []
  deriving DecidableEq, Repr

namespace MemoryMetrics

/-- The sink after one more event. -/
def record (metrics : MemoryMetrics) (event : MetricEvent) : MemoryMetrics :=
  ⟨metrics.events ++ [event]⟩

/-- The sink after events. -/
def ofEvents (events : List MetricEvent) : MemoryMetrics := events.foldl record {}

/-- The answered requests. -/
def httpRequests (metrics : MemoryMetrics) : List MetricEvent :=
  metrics.events.filter MetricEvent.isHttpRequest

/-- The further attempts. -/
def retries (metrics : MemoryMetrics) : List MetricEvent :=
  metrics.events.filter MetricEvent.isRetry

/-- The waits for tokens. -/
def rateLimits (metrics : MemoryMetrics) : List MetricEvent :=
  metrics.events.filter MetricEvent.isRateLimit

/-- The failures. -/
def errors (metrics : MemoryMetrics) : List MetricEvent :=
  metrics.events.filter MetricEvent.isError

end MemoryMetrics

end Outbound
