import Outbound.Middleware

/-! # Observed calls

An observed call is logged when it starts and when it ends, and measured when it ends: a response by
method, path template and status, a failure by its kind.

* `Observe.transport` is the observed transport. -/

namespace Outbound

/-- How calls are observed. -/
structure Observe where
  /-- Where it is logged and measured. -/
  sink : Sink
  /-- The memo of path templates. -/
  memo : MemoId := .shared

namespace Observe

/-- The level at which a response is logged: client and server errors ask for attention. -/
def levelOf (status : Status) : Level := if 400 ≤ status.code then .warn else .debug

/-- Logs and measures how a call ended. -/
def report (observe : Observe) (request : Request) (outcome : Outcome) (duration : Duration) :
    Call Unit := do
  let method : Field := ⟨"method", request.method.text⟩
  let url : Field := ⟨"url", request.uri.render⟩
  let spent : Field := ⟨"duration_ms", toString duration.millis⟩
  match outcome with
  | .error failure =>
      observe.sink.log .error "http request failed" [method, url, spent, ⟨"error", failure.message⟩]
      observe.sink.measure (.error "http_request" failure.kind)
  | .ok response =>
      let status := response.status
      observe.sink.log (levelOf status) "http request completed"
        [method, url, ⟨"status", toString status.code⟩, spent]
      let template ← Call.perform (.template observe.memo request.uri.path)
      observe.sink.measure (.httpRequest request.method.text template status.code duration)

/-- The observed transport. -/
def transport (observe : Observe) (inner : Transport) : Transport := fun request => do
  observe.sink.log .debug "http request started"
    [⟨"method", request.method.text⟩, ⟨"url", request.uri.render⟩, ⟨"path", request.uri.path⟩]
  let start ← Call.perform .clock
  let outcome ← inner request
  let finish ← Call.perform .clock
  observe.report request outcome (finish.since start)
  return outcome

/-- Observing as a layer. -/
def middleware (observe : Observe) : Middleware := ⟨"observe", observe.transport⟩

/-- The way of observing as text. -/
def describe (observe : Observe) : String :=
  Text.recordOf "ObserveLayer"
    [("logger", observe.sink.describeLogger), ("metrics", observe.sink.describeMetrics)]

end Observe

end Outbound
