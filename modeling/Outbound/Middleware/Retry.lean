import Outbound.Backoff
import Outbound.Middleware

/-! # Repeated attempts

A call that ended in a retryable outcome is made again after a wait, until its attempts run out. The
body is read once, before the first attempt, and every attempt carries a copy of it. A response is
let go before the wait for the next attempt begins.

* `RetryPolicy.maxAttempts` is the most attempts of a call; `RetryPolicy.waitAfter` is the wait
  after an attempt.
* `RetryPolicy.transport` is the repeating transport, by recursion on the attempts left. -/

namespace Outbound

/-- When and how often calls are repeated. -/
structure RetryPolicy where
  /-- The attempts after the first one. -/
  maxRetries : Nat := 3
  /-- The schedule of waits. -/
  backoff : Backoff := ⟨.ofSeconds 1⟩
  /-- How the waits are carried out. -/
  sleeper : Sleeper := .timer
  /-- Where it is logged and measured. -/
  sink : Sink := .silent

namespace RetryPolicy

/-- The greatest number of attempts that can be counted. -/
def attemptLimit : Nat := UInt64.size - 1

/-- The most attempts of a call. -/
def maxAttempts (policy : RetryPolicy) : Nat := min (policy.maxRetries + 1) attemptLimit

/-- A call makes at least one attempt. -/
theorem maxAttempts_pos (policy : RetryPolicy) : 0 < policy.maxAttempts := by
  simp only [maxAttempts, attemptLimit, UInt64.size]
  omega

/-- The wait a response asks for, which only counts if there were too many requests. -/
def requestedWait? (response : Response) : Option Duration :=
  if response.status = .tooManyRequests then RetryAfter.ofHeaders? response.headers else none

/-- The wait after an attempt, counted from zero, given the response to it, if there was one. -/
def waitAfter (policy : RetryPolicy) (attempt : Nat) (last : Option Response) : Duration :=
  (last.bind requestedWait?).getD (policy.backoff.delay attempt)

/-! ## Attempts -/

/-- A body in one piece, or the failure in which it broke off. -/
def buffered : Option Body → Except Failure (Option Body)
  | none => .ok none
  | some body =>
      match body.read with
      | .ok bytes => .ok (some (.ofBytes bytes))
      | .error message => .error (.transport (.brokenBody message))

/-- What is told about an outcome that leads to another attempt. -/
def reason : Outcome → Field
  | .ok response => ⟨"status", toString response.status.code⟩
  | .error failure => ⟨"error", failure.message⟩

/-- Lets go of the response in an outcome. -/
def discard : Outcome → Call Unit
  | .ok response => .perform (.close response.id)
  | .error _ => .done ()

/-- The last outcome, once the attempts ran out. -/
def giveUp (policy : RetryPolicy) : Outcome → Outcome
  | .ok response => .ok { response with attempts := some policy.maxAttempts }
  | .error failure => .error (.retriesExhausted policy.maxAttempts failure)

/-- Tells that the attempts ran out. -/
def tellExhausted (policy : RetryPolicy) (endpoint : String) : Call Unit :=
  policy.sink.log .warn "retries exhausted"
    [⟨"endpoint", endpoint⟩, ⟨"attempts", toString policy.maxAttempts⟩]

/-- Waits for the next attempt; `made` attempts were made before the one with the given outcome. -/
def pause (policy : RetryPolicy) (context : Context) (endpoint : String) (made : Nat)
    (outcome : Outcome) : Call (Except CancelCause Unit) := do
  let wait := policy.waitAfter made outcome.toOption
  policy.sink.log .warn "retrying request"
    [⟨"attempt", toString (made + 1)⟩, ⟨"endpoint", endpoint⟩, reason outcome,
      ⟨"wait_ms", toString wait.millis⟩]
  policy.sink.measure (.retry (made + 1) endpoint)
  discard outcome
  Call.perform (.wait policy.sleeper context wait)

/-- Makes attempts, `made` of them having been made before; the number of further attempts behind
the next one counts down. -/
def attemptsFrom (policy : RetryPolicy) (inner : Transport) (request : Request)
    (endpoint : String) (made : Nat) : Nat → Call Outcome
  | 0 => do
      let outcome ← inner request
      if Outcome.isRetryable outcome then
        policy.tellExhausted endpoint
        return policy.giveUp outcome
      else return outcome
  | further + 1 => do
      let outcome ← inner request
      if Outcome.isRetryable outcome then
        match ← policy.pause request.callContext endpoint made outcome with
        | .ok () => attemptsFrom policy inner request endpoint (made + 1) further
        | .error cause =>
            return .error (.retryAborted (made + 1) (.cancelled "retry backoff" cause))
      else return outcome

/-- The repeating transport. -/
def transport (policy : RetryPolicy) (inner : Transport) : Transport := fun request => do
  match buffered request.body with
  | .error failure => return .error failure
  | .ok body =>
      let endpoint ← Call.perform (.template .shared request.uri.path)
      policy.attemptsFrom inner { request with body } endpoint 0 (policy.maxAttempts - 1)

/-- Repeating as a layer. -/
def middleware (policy : RetryPolicy) : Middleware := ⟨"retry", policy.transport⟩

/-- A policy as text. -/
def describe (policy : RetryPolicy) : String :=
  Text.recordOf "RetryPolicy"
    [("max_retries", toString policy.maxRetries), ("backoff", policy.backoff.describe),
      ("sleeper", policy.sleeper.describe)]

end RetryPolicy

end Outbound
