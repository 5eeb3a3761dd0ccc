import Outbound.Context
import Outbound.Http.Status
import Outbound.Http.Uri
import Outbound.Json.Fault
import Outbound.Url

/-! # Failures of calls

A call fails with a `Failure`. Some failures wrap another one: the call was repeated until its
attempts ran out, or the failure was named for the operation it happened in.

* `Failure.kind` is a short label, which an operation takes from the failure it wraps.
* `Failure.cancelCause?`, `Failure.status?` and `Failure.attempts?` look through wrappers.
* `Failure.message` words a failure and `Failure.sources` lists the wordings of what it wraps. -/

namespace Outbound

/-! ## Causes -/

/-- What went wrong below the outermost transport. -/
inductive TransportFault where
  /-- The transport reported a failure. -/
  | reported (message : String)
  /-- A body broke off before its end. -/
  | brokenBody (message : String)
  deriving DecidableEq, Repr

namespace TransportFault

/-- The wording for a body that broke off. -/
def brokenBodyText : String := "request or response body error"

/-- The wording of a fault. -/
def message : TransportFault → String
  | .reported message => message
  | .brokenBody _ => brokenBodyText

/-- The wordings of a fault and of what lies behind it. -/
def trail : TransportFault → List String
  | .reported message => [message]
  | .brokenBody message => [brokenBodyText, message]

end TransportFault

/-- Why a header field is refused. -/
inductive HeaderFault where
  /-- The name is no token. -/
  | name
  /-- A byte of the value is not allowed. -/
  | value
  deriving DecidableEq, Repr

/-- The wording for a refused header field. -/
def HeaderFault.message : HeaderFault → String
  | .name => "invalid HTTP header name"
  | .value => "failed to parse header value"

/-- Why a request cannot be made or passed on. -/
inductive RequestFault where
  /-- The method is no token. -/
  | method
  /-- The target is misspelled. -/
  | target (error : UriError)
  /-- A header field is refused. -/
  | header (fault : HeaderFault)
  /-- The target is no address a connection could be opened to. -/
  | address (uri : Uri) (error : UrlError)
  /-- Any other reason. -/
  | other (message : String)

/-- The wording for a refused request. -/
def RequestFault.message : RequestFault → String
  | .method => "invalid HTTP method"
  | .target error => error.message
  | .header fault => fault.message
  | .address uri error => uri.render ++ ": " ++ error.message
  | .other message => message

/-- Why a call failed. -/
inductive Failure where
  /-- The network call failed. -/
  | transport (fault : TransportFault)
  /-- A step of the call was interrupted. -/
  | cancelled (operation : String) (cause : CancelCause)
  /-- The call was interrupted while it waited for a token of a bucket. -/
  | rateLimitWait (label : String) (cause : CancelCause)
  /-- All attempts failed, the last one so. -/
  | retriesExhausted (attempts : Nat) (source : Failure)
  /-- The call was interrupted between two attempts. -/
  | retryAborted (attempts : Nat) (source : Failure)
  /-- The server failed. -/
  | server (operation : String) (status : Status) (attempts : Option Nat)
  /-- The server asked for fewer requests. -/
  | rateLimited (operation : String) (attempts : Option Nat)
  /-- The response has another status than expected. -/
  | unexpectedStatus (operation : String) (expected actual : Status)
  /-- The response has the expected status and no payload. -/
  | emptyResponse (operation : String)
  /-- The payload cannot be decoded. -/
  | undecodable (operation : String) (error : Json.DecodeError)
  /-- A failure within a named operation. -/
  | within (operation : String) (source : Failure)
  /-- The request is refused. -/
  | invalidRequest (fault : RequestFault)

namespace Failure

/-! ## Questions -/

/-- A short label for the kind of a failure. -/
def kind : Failure → String
  | .transport _ => "transport"
  | .cancelled _ _ => "cancelled"
  | .rateLimitWait _ _ => "rate_limit_wait"
  | .retriesExhausted _ _ => "retries_exhausted"
  | .retryAborted _ _ => "retry_aborted"
  | .server _ _ _ => "server"
  | .rateLimited _ _ => "rate_limited"
  | .unexpectedStatus _ _ _ => "api_status"
  | .emptyResponse _ => "empty_response"
  | .undecodable _ _ => "decode"
  | .within _ source => source.kind
  | .invalidRequest _ => "invalid_request"

/-- Whether the failure stems from the caller's own signal. -/
def isCancelled : Failure → Bool
  | .cancelled _ _ => true
  | .rateLimitWait _ _ => true
  | .retriesExhausted _ source => source.isCancelled
  | .retryAborted _ source => source.isCancelled
  | .within _ source => source.isCancelled
  | _ => false

/-- The cause by which the call was interrupted, if it was. -/
def cancelCause? : Failure → Option CancelCause
  | .cancelled _ cause => some cause
  | .rateLimitWait _ cause => some cause
  | .retriesExhausted _ source => source.cancelCause?
  | .retryAborted _ source => source.cancelCause?
  | .within _ source => source.cancelCause?
  | _ => none

/-- Whether the request may be sent again after the failure. -/
def isRetryable : Failure → Bool
  | .transport _ => true
  | _ => false

/-- The status that was seen, if the failure is about one. -/
def status? : Failure → Option Status
  | .server _ status _ => some status
  | .rateLimited _ _ => some .tooManyRequests
  | .unexpectedStatus _ _ actual => some actual
  | .within _ source => source.status?
  | _ => none

/-- The attempts that were made, if they were counted. -/
def attempts? : Failure → Option Nat
  | .retriesExhausted attempts _ => some attempts
  | .retryAborted attempts _ => some attempts
  | .server _ _ attempts => attempts
  | .rateLimited _ attempts => attempts
  | .within _ source => source.attempts?
  | _ => none

/-! ## Text -/

/-- The closing words on the attempts made, if they were counted. -/
def afterAttempts : Option Nat → String
  | none => ""
  | some count => ", failed after " ++ toString count ++ " attempts"

/-- The wording of a failure. -/
def message : Failure → String
  | .transport fault => "transport error: " ++ fault.message
  | .cancelled operation cause => operation ++ " interrupted: " ++ cause.message
  | .rateLimitWait label cause =>
      "rate limit wait for " ++ label ++ " abandoned: " ++ cause.message
  | .retriesExhausted attempts source =>
      "request failed after " ++ toString attempts ++ " attempts: " ++ source.message
  | .retryAborted attempts source =>
      "retry aborted after " ++ toString attempts ++ " attempts: " ++ source.message
  | .server operation status attempts =>
      operation ++ ": server error (status " ++ status.describe ++ ")" ++ afterAttempts attempts
  | .rateLimited operation attempts =>
      operation ++ ": rate limited by server (status 429)" ++ afterAttempts attempts
  | .unexpectedStatus operation expected actual =>
      operation ++ ": unexpected status " ++ actual.describe ++ " (expected "
        ++ expected.describe ++ ")"
  | .emptyResponse operation => operation ++ ": empty response"
  | .undecodable operation error =>
      operation ++ ": failed to decode response: " ++ error.message
  | .within operation source => operation ++ ": " ++ source.message
  | .invalidRequest fault => "invalid request: " ++ fault.message

/-- The wordings of what a failure wraps, from the outside in. -/
def sources : Failure → List String
  | .transport fault => fault.trail
  | .cancelled _ cause => [cause.message]
  | .rateLimitWait _ cause => [cause.message]
  | .retriesExhausted _ source => source.message :: source.sources
  | .retryAborted _ source => source.message :: source.sources
  | .undecodable _ error => [error.message]
  | .within _ source => source.message :: source.sources
  | _ => []

end Failure

/-! ## Failures of setting up -/

/-- Why a client or a part of it cannot be built. -/
inductive SetupError where
  /-- A bucket that holds no token. -/
  | rateLimit (limit : Nat)
  /-- A bucket that is never refilled, or at no finite rate. -/
  | refillRate (rate : Float)
  /-- A header field that is refused. -/
  | header (name : String) (fault : HeaderFault)
  /-- A base address that is refused. -/
  | baseUrl (url : String) (error : UrlError)
  /-- The settings of the connections are refused. -/
  | connection

/-- The wording for a part that cannot be built. -/
def SetupError.message : SetupError → String
  | .rateLimit limit =>
      "rate limit must allow at least one request (got " ++ toString limit ++ ")"
  | .refillRate rate =>
      "refill rate must be positive and finite (got " ++ Double.positionalText rate ++ ")"
  | .header name fault => "invalid header " ++ name ++ ": " ++ fault.message
  | .baseUrl url error => "invalid base url " ++ url ++ ": " ++ error.message
  | .connection => "failed to build http client: builder error"

end Outbound
