import Outbound.Bucket
import Outbound.Failure
import Outbound.Http.Message
import Outbound.Telemetry.Log
import Outbound.Telemetry.Metric

/-! # Calls

A call is a program that asks its surroundings for effects and goes on with their answers: it logs,
looks at the clock, takes tokens from buckets, waits, and sends requests. What the effects do is
left to whoever runs the call, so that a call can be run against a virtual clock, against scripted
answers or for its trace alone.

* `Effect` lists the effects and `Effect.Answer` the types of their answers.
* `Call` is the monad of calls; `Call.run` runs one with given answers and a state, and
  `Call.run_bind` says that a composed call is run part by part.
* `Transport` is what turns a request into a call for its response. -/

namespace Outbound

/-! ## Effects -/

/-- Which memo of path templates is meant: the one shared by all, or that of a single layer. -/
inductive MemoId where
  /-- The shared memo. -/
  | shared
  /-- The memo of a layer. -/
  | ofLayer (number : Nat)
  deriving DecidableEq, Repr

/-- What a call asks of its surroundings. -/
inductive Effect where
  /-- To write a record. -/
  | log (record : LogRecord)
  /-- To count a metric event. -/
  | measure (event : MetricEvent)
  /-- To mark that a tagged layer is entered. -/
  | enter (tag : String)
  /-- To mark that a tagged layer is left, and whether with a response. -/
  | leave (tag : String) (succeeded : Bool)
  /-- To tell the time. -/
  | clock
  /-- To tell the template of a path by a memo. -/
  | template (memo : MemoId) (path : String)
  /-- To reserve a token of a bucket. -/
  | reserve (bucket : BucketId)
  /-- To put a reserved token back. -/
  | giveBack (bucket : BucketId)
  /-- To sleep for a while, unless a context is done before. -/
  | wait (sleeper : Sleeper) (context : Context) (delay : Duration)
  /-- To tell whether a context is done. -/
  | check (context : Context)
  /-- To send a request and wait for the response. -/
  | send (request : Request)
  /-- To let go of a response. -/
  | close (response : ResponseId)
  /-- To fire a token after a while, without waiting for it. -/
  | fireAfter (token : TokenId) (delay : Duration)

/-- The answer to an effect. -/
@[reducible] def Effect.Answer : Effect → Type
  | .log _ => Unit
  | .measure _ => Unit
  | .enter _ => Unit
  | .leave _ _ => Unit
  | .clock => Instant
  | .template _ _ => String
  | .reserve _ => Duration
  | .giveBack _ => Unit
  | .wait _ _ _ => Except CancelCause Unit
  | .check _ => Option CancelCause
  | .send _ => Except Failure Response
  | .close _ => Unit
  | .fireAfter _ _ => Unit

/-! ## Programs -/

/-- A program that asks for effects and ends with a value. -/
inductive Call (α : Type) : Type where
  /-- The program has ended. -/
  | done (value : α)
  /-- The program asks for an effect and goes on with the answer. -/
  | ask (effect : Effect) (next : effect.Answer → Call α)

namespace Call

/-- The program that goes on with the value of another one. -/
def bind {α β : Type} : Call α → (α → Call β) → Call β
  | .done value, further => further value
  | .ask effect next, further => .ask effect fun answer => (next answer).bind further

instance : Monad Call where
  pure := .done
  bind := Call.bind

/-- An ended program goes on at once. -/
@[simp] theorem done_bind {α β : Type} (value : α) (further : α → Call β) :
    (Call.done value >>= further) = further value := rfl

/-- What goes on behind a program goes on behind each of its answers. -/
@[simp] theorem ask_bind {α β : Type} (effect : Effect) (next : effect.Answer → Call α)
    (further : α → Call β) :
    (Call.ask effect next >>= further) = .ask effect fun answer => next answer >>= further := rfl

/-- Going on with an ended program changes nothing. -/
theorem bind_done {α : Type} (call : Call α) : (call >>= Call.done) = call := by
  induction call with
  | done value => rfl
  | ask effect next inductionHypothesis =>
      rw [ask_bind]
      congr 1
      funext answer
      exact inductionHypothesis answer

/-- Programs one behind the other may be grouped in any way. -/
theorem bind_assoc {α β γ : Type} (call : Call α) (middle : α → Call β) (last : β → Call γ) :
    ((call >>= middle) >>= last) = call >>= fun value => middle value >>= last := by
  induction call with
  | done value => rfl
  | ask effect next inductionHypothesis =>
      simp only [ask_bind]
      congr 1
      funext answer
      exact inductionHypothesis answer

/-- The program that asks for one effect. -/
def perform (effect : Effect) : Call effect.Answer := .ask effect .done

/-! ## Runs -/

/-- Runs a program: effects are answered from a state, which they may change. -/
def run {α σ : Type} (respond : (effect : Effect) → σ → effect.Answer × σ) :
    Call α → σ → α × σ
  | .done value, state => (value, state)
  | .ask effect next, state =>
      let (answer, after) := respond effect state
      (next answer).run respond after

/-- A composed program is run part by part. -/
theorem run_bind {α β σ : Type} (respond : (effect : Effect) → σ → effect.Answer × σ)
    (call : Call α) (further : α → Call β) (state : σ) :
    (call >>= further).run respond state =
      (further (call.run respond state).1).run respond (call.run respond state).2 := by
  induction call generalizing state with
  | done value => rfl
  | ask effect next inductionHypothesis =>
      simp only [ask_bind, run]
      exact inductionHypothesis _ _

end Call

/-! ## Telemetry of a part -/

/-- Where a part of a client logs and measures. -/
inductive Sink where
  /-- Nowhere. -/
  | silent
  /-- To the log and the metrics of the surroundings. -/
  | recorded
  deriving DecidableEq, Repr

namespace Sink

/-- Writes a record. -/
def log (sink : Sink) (level : Level) (message : String) (fields : List Field) : Call Unit :=
  match sink with
  | .silent => .done ()
  | .recorded => .perform (.log ⟨level, message, fields⟩)

/-- Counts a metric event. -/
def measure (sink : Sink) (event : MetricEvent) : Call Unit :=
  match sink with
  | .silent => .done ()
  | .recorded => .perform (.measure event)

/-- The kind of logger behind a sink, as text. -/
def describeLogger : Sink → String
  | .silent => "NoopLogger"
  | .recorded => "MemoryLogger"

/-- The kind of metrics behind a sink, as text. -/
def describeMetrics : Sink → String
  | .silent => "NoopMetrics"
  | .recorded => "MemoryMetrics"

end Sink

/-! ## Transports -/

/-- How a call ended: with a response or a failure. -/
abbrev Outcome := Except Failure Response

/-- What turns a request into a call. -/
abbrev Transport := Request → Call Outcome

/-- Whether the request may be sent again after an outcome. -/
def Outcome.isRetryable : Outcome → Bool
  | .ok response => response.status.isRetryable
  | .error failure => failure.isRetryable

/-- The transport that sends a request as it is. -/
def Transport.base : Transport := fun request => .perform (.send request)

end Outbound
