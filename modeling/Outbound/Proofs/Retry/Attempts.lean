import Mathlib.Order.Bounds.Defs
import Outbound.Middleware.Retry
import Outbound.Proofs.Call.Trace

/-! # Attempts of a repeated call

A repeated call makes attempts until one of them settles it, the attempts run out or the wait behind
an attempt is interrupted.

* `RetryPolicy.Attempts` describes the traces of a series of attempts;
  `RetryPolicy.attempts_of_yields` says that the repeating transport has no other traces.
* `Outcome.Retryable` are the outcomes after which the request may be sent again.
* `RetryPolicy.through_transport` puts any transport in place of the base that a repeated call sends
  its requests to. -/

namespace Outbound

/-! ## Telling -/

namespace Sink

/-- What a sink adds to a trace when it is told something. -/
def told : Sink → Exchange → Trace
  | .silent, _ => []
  | .recorded, exchange => [exchange]

/-- Writing a record is told to the sink. -/
@[simp] theorem yields_log_iff {sink : Sink} {level : Level} {message : String}
    {fields : List Field} {trace : Trace} {answer : Unit} :
    (sink.log level message fields).Yields trace answer ↔
      trace = sink.told ⟨.log ⟨level, message, fields⟩, ()⟩ := by
  cases sink with
  | silent => simp [log, told]
  | recorded => exact Call.yields_perform_iff

/-- Counting an event is told to the sink. -/
@[simp] theorem yields_measure_iff {sink : Sink} {event : MetricEvent} {trace : Trace}
    {answer : Unit} :
    (sink.measure event).Yields trace answer ↔ trace = sink.told ⟨.measure event, ()⟩ := by
  cases sink with
  | silent => simp [measure, told]
  | recorded => exact Call.yields_perform_iff

/-- Writing a record sends no request. -/
@[simp] theorem through_log (inner : Transport) (sink : Sink) (level : Level) (message : String)
    (fields : List Field) :
    (sink.log level message fields).through inner = sink.log level message fields := by
  cases sink <;> rfl

/-- Counting an event sends no request. -/
@[simp] theorem through_measure (inner : Transport) (sink : Sink) (event : MetricEvent) :
    (sink.measure event).through inner = sink.measure event := by cases sink <;> rfl

/-- A record is no outcome of a request. -/
@[simp] theorem outcomes_told_log (sink : Sink) (record : LogRecord) :
    (sink.told ⟨.log record, ()⟩).outcomes = [] := by cases sink <;> rfl

/-- An event is no outcome of a request. -/
@[simp] theorem outcomes_told_measure (sink : Sink) (event : MetricEvent) :
    (sink.told ⟨.measure event, ()⟩).outcomes = [] := by cases sink <;> rfl

/-- A record is no wait. -/
@[simp] theorem waits_told_log (sink : Sink) (record : LogRecord) :
    (sink.told ⟨.log record, ()⟩).waits = [] := by cases sink <;> rfl

/-- An event is no wait. -/
@[simp] theorem waits_told_measure (sink : Sink) (event : MetricEvent) :
    (sink.told ⟨.measure event, ()⟩).waits = [] := by cases sink <;> rfl

end Sink

/-! ## Retryable outcomes -/

/-- An outcome after which the request may be sent again: the transport failed, or the response has
the status 429 or one from 500 to 599. -/
inductive Outcome.Retryable : Outcome → Prop where
  /-- The transport failed. -/
  | transport (fault : TransportFault) : Retryable (.error (.transport fault))
  /-- The status of the response asks for another attempt. -/
  | status {response : Response}
      (code : response.status.code = 429 ∨
        (500 ≤ response.status.code ∧ response.status.code ≤ 599)) :
      Retryable (.ok response)

/-- The test for retryable outcomes finds just these. -/
theorem Outcome.isRetryable_eq_true_iff {outcome : Outcome} :
    Outcome.isRetryable outcome = true ↔ Outcome.Retryable outcome := by
  constructor
  · intro retryable
    match outcome with
    | .ok response => exact .status (response.status.isRetryable_iff.mp retryable)
    | .error (.transport fault) => exact .transport fault
  · rintro (fault | code)
    · rfl
    · exact (Status.isRetryable_iff _).mpr code

namespace RetryPolicy

variable {policy : RetryPolicy} {inner : Transport} {request : Request} {endpoint : String}

/-! ## Traces of a series -/

/-- The trace of letting go of a response. -/
def discardTrace : Outcome → Trace
  | .ok response => [⟨.close response.id, ()⟩]
  | .error _ => []

/-- The trace of telling that the attempts ran out. -/
def exhaustedTrace (policy : RetryPolicy) (endpoint : String) : Trace :=
  policy.sink.told ⟨.log ⟨.warn, "retries exhausted",
    [⟨"endpoint", endpoint⟩, ⟨"attempts", toString policy.maxAttempts⟩]⟩, ()⟩

/-- The trace of a pause: it is told of, the response is let go, and only then a wait begins. -/
def pauseTrace (policy : RetryPolicy) (context : Context) (endpoint : String) (made : Nat)
    (outcome : Outcome) (ending : Except CancelCause Unit) : Trace :=
  let wait := policy.waitAfter made outcome.toOption
  policy.sink.told ⟨.log ⟨.warn, "retrying request",
      [⟨"attempt", toString (made + 1)⟩, ⟨"endpoint", endpoint⟩, reason outcome,
        ⟨"wait_ms", toString wait.millis⟩]⟩, ()⟩
    ++ policy.sink.told ⟨.measure (.retry (made + 1) endpoint), ()⟩
    ++ discardTrace outcome
    ++ [⟨.wait policy.sleeper context wait, ending⟩]

/-- No request is sent when the attempts ran out. -/
@[simp] theorem outcomes_exhaustedTrace : (policy.exhaustedTrace endpoint).outcomes = [] :=
  Sink.outcomes_told_log ..

/-- Nothing is waited for when the attempts ran out. -/
@[simp] theorem waits_exhaustedTrace : (policy.exhaustedTrace endpoint).waits = [] :=
  Sink.waits_told_log ..

/-- No request is sent during a pause. -/
@[simp] theorem outcomes_pauseTrace {context : Context} {made : Nat} {outcome : Outcome}
    {ending : Except CancelCause Unit} :
    (policy.pauseTrace context endpoint made outcome ending).outcomes = [] := by
  cases outcome <;> simp [pauseTrace, discardTrace, Trace.outcomes_cons, Exchange.outcome?]

/-- A pause is a single wait. -/
@[simp] theorem waits_pauseTrace {context : Context} {made : Nat} {outcome : Outcome}
    {ending : Except CancelCause Unit} :
    (policy.pauseTrace context endpoint made outcome ending).waits = [ending] := by
  cases outcome <;> simp [pauseTrace, discardTrace, Trace.waits_cons, Exchange.waited?]

/-- The traces of a series of attempts, `made` of them having been made before, with the outcome of
the whole series. -/
inductive Attempts (policy : RetryPolicy) (inner : Transport) (request : Request)
    (endpoint : String) : Nat → Trace → Outcome → Prop where
  /-- An outcome that is not retryable settles the call. -/
  | settled {made : Nat} {sent : Trace} {outcome : Outcome}
      (attempt : (inner request).Yields sent outcome) (within : made < policy.maxAttempts)
      (final : Outcome.isRetryable outcome = false) :
      Attempts policy inner request endpoint made sent outcome
  /-- The last attempt was retryable, too. -/
  | exhausted {made : Nat} {sent : Trace} {outcome : Outcome}
      (attempt : (inner request).Yields sent outcome) (spent : made + 1 = policy.maxAttempts)
      (retryable : Outcome.isRetryable outcome = true) :
      Attempts policy inner request endpoint made (sent ++ policy.exhaustedTrace endpoint)
        (policy.giveUp outcome)
  /-- The wait for the next attempt is interrupted. -/
  | interrupted {made : Nat} {sent : Trace} {outcome : Outcome}
      (attempt : (inner request).Yields sent outcome) (spare : made + 1 < policy.maxAttempts)
      (retryable : Outcome.isRetryable outcome = true) (cause : CancelCause) :
      Attempts policy inner request endpoint made
        (sent ++ policy.pauseTrace request.callContext endpoint made outcome (.error cause))
        (.error (.retryAborted (made + 1) (.cancelled "retry backoff" cause)))
  /-- The next attempt is made after a wait. -/
  | repeated {made : Nat} {sent rest : Trace} {outcome result : Outcome}
      (attempt : (inner request).Yields sent outcome) (spare : made + 1 < policy.maxAttempts)
      (retryable : Outcome.isRetryable outcome = true)
      (others : Attempts policy inner request endpoint (made + 1) rest result) :
      Attempts policy inner request endpoint made
        (sent ++ (policy.pauseTrace request.callContext endpoint made outcome (.ok ()) ++ rest))
        result

/-- A response is let go by closing it. -/
theorem yields_discard_iff {outcome : Outcome} {trace : Trace} {answer : Unit} :
    (discard outcome).Yields trace answer ↔ trace = discardTrace outcome := by
  cases outcome with
  | ok response => exact Call.yields_perform_iff
  | error failure => simp [discard, discardTrace]

/-- A pause has the trace of a pause. -/
theorem yields_pause_iff {context : Context} {made : Nat} {outcome : Outcome} {trace : Trace}
    {ending : Except CancelCause Unit} :
    (policy.pause context endpoint made outcome).Yields trace ending ↔
      trace = policy.pauseTrace context endpoint made outcome ending := by
  simp only [pause, Call.yields_bind_iff, Sink.yields_log_iff, Sink.yields_measure_iff,
    yields_discard_iff]
  constructor
  · rintro ⟨_, _, _, rfl, rfl, _, _, _, rfl, rfl, _, _, _, rfl, rfl, waits⟩
    obtain rfl := Call.yields_perform_iff.mp waits
    simp only [pauseTrace, List.append_assoc]
  · rintro rfl
    refine ⟨_, _, (), ?_, rfl, _, _, (), rfl, rfl, _, _, (), rfl, rfl,
      Call.yields_perform_iff.mpr rfl⟩
    simp only [pauseTrace, List.append_assoc]

/-- A series of attempts has only such traces. -/
theorem attempts_of_yields {made further : Nat} {trace : Trace} {result : Outcome}
    (budget : made + further + 1 = policy.maxAttempts)
    (yields : (policy.attemptsFrom inner request endpoint made further).Yields trace result) :
    policy.Attempts inner request endpoint made trace result := by
  -- The attempts left count down while those made count up, so that their sum stays the limit.
  induction further generalizing made trace with
  | zero =>
      rw [attemptsFrom, Call.yields_bind_iff] at yields
      obtain ⟨sent, back, outcome, rfl, attempt, yields⟩ := yields
      split at yields
      next retryable =>
        obtain ⟨told, _, _, rfl, tells, ends⟩ := Call.yields_bind_iff.mp yields
        obtain rfl := Sink.yields_log_iff.mp tells
        obtain ⟨rfl, rfl⟩ := Call.yields_done_iff.mp ends
        rw [List.append_nil]
        exact .exhausted attempt budget retryable
      next final =>
        obtain ⟨rfl, rfl⟩ := Call.yields_done_iff.mp yields
        rw [List.append_nil]
        exact .settled attempt (by omega) (Bool.eq_false_iff.mpr final)
  | succ further inductionHypothesis =>
      rw [attemptsFrom, Call.yields_bind_iff] at yields
      obtain ⟨sent, back, outcome, rfl, attempt, yields⟩ := yields
      split at yields
      next retryable =>
        obtain ⟨paused, rest, ending, rfl, pauses, goesOn⟩ := Call.yields_bind_iff.mp yields
        obtain rfl := yields_pause_iff.mp pauses
        cases ending with
        | ok _ =>
            exact .repeated attempt (by omega) retryable (inductionHypothesis (by omega) goesOn)
        | error cause =>
            obtain ⟨rfl, rfl⟩ := Call.yields_done_iff.mp goesOn
            rw [List.append_nil]
            exact .interrupted attempt (by omega) retryable cause
      next final =>
        obtain ⟨rfl, rfl⟩ := Call.yields_done_iff.mp yields
        rw [List.append_nil]
        exact .settled attempt (by omega) (Bool.eq_false_iff.mpr final)

/-- The repeating transport tells the template of the path and makes a series of attempts, each with
the body in one piece. -/
theorem attempts_of_yields_transport {body : Option Body} {trace : Trace} {result : Outcome}
    (whole : buffered request.body = .ok body)
    (yields : (policy.transport inner request).Yields trace result) :
    ∃ endpoint series,
      trace = ⟨.template .shared request.uri.path, endpoint⟩ :: series ∧
        policy.Attempts inner { request with body } endpoint 0 series result := by
  rw [transport, whole] at yields
  obtain ⟨endpoint, series, rfl, attempts⟩ := Call.yields_ask_iff.mp yields
  have budget : 0 + (policy.maxAttempts - 1) + 1 = policy.maxAttempts := by
    have positive := policy.maxAttempts_pos
    omega
  exact ⟨endpoint, series, rfl, attempts_of_yields budget attempts⟩

/-! ## Any inner transport

The repeating transport uses the transport behind it only by passing requests on to it. -/

/-- A pause sends no request. -/
theorem through_pause (context : Context) (made : Nat) (outcome : Outcome) :
    (policy.pause context endpoint made outcome).through inner =
      policy.pause context endpoint made outcome := by
  have quiet : (discard outcome).through inner = discard outcome := by cases outcome <;> rfl
  simp only [pause, Call.through_bind, Sink.through_log, Sink.through_measure, quiet]
  rfl

/-- A series of attempts at the base becomes one at the transport that takes its place. -/
theorem through_attemptsFrom (made further : Nat) :
    (policy.attemptsFrom .base request endpoint made further).through inner =
      policy.attemptsFrom inner request endpoint made further := by
  have passed : (Transport.base request).through inner = inner request := Call.bind_done _
  induction further generalizing made with
  | zero =>
      simp only [attemptsFrom, Call.through_bind, passed]
      congr 1
      funext outcome
      split
      · simp only [tellExhausted, Call.through_bind, Sink.through_log]
        rfl
      · rfl
  | succ further inductionHypothesis =>
      simp only [attemptsFrom, Call.through_bind, passed]
      congr 1
      funext outcome
      split
      · simp only [Call.through_bind, through_pause]
        congr 1
        funext ending
        cases ending with
        | ok _ => exact inductionHypothesis (made + 1)
        | error cause => rfl
      · rfl

/-- The repeating transport around the base becomes the one around any other transport. -/
theorem through_transport :
    (policy.transport .base request).through inner = policy.transport inner request := by
  unfold transport
  cases buffered request.body with
  | error failure => rfl
  | ok body =>
      show Call.ask _ _ = Call.ask _ _
      congr 1
      funext endpoint
      exact through_attemptsFrom 0 _

/-- A run of the repeating transport around a transport yields what the run at the base does where
that transport serves the requests. -/
theorem yields_served {σ : Type} (policy : RetryPolicy) (inner : Transport) (request : Request)
    (respond : (effect : Effect) → σ → effect.Answer × σ) (state : σ) :
    (policy.transport .base request).Yields
      ((policy.transport .base request).exchanges (Call.serving respond inner) state)
      ((policy.transport inner request).run respond state).1 := by
  have sameRun : (policy.transport inner request).run respond state
      = (policy.transport .base request).run (Call.serving respond inner) state := by
    rw [← through_transport, Call.run_through]
  rw [sameRun]
  exact Call.yields_exchanges _ _ _

end RetryPolicy

end Outbound
