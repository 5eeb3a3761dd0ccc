import Outbound.Bucket.Plan
import Outbound.Middleware.Admission
import Outbound.Middleware.Credential
import Outbound.Middleware.Observe
import Outbound.Middleware.Retry
import Outbound.Network

/-! # Configurations of clients

A client is planned by optional settings. Building the plan checks its parts: the credential first,
then the base address, then the limit of requests.

* `ClientPlan.build` is the configuration of a plan.
* `ClientConfig.layers` are the layers of a client, from the outside in: observation, the
  credential, admission, repeated attempts. -/

namespace Outbound

/-! ## Configurations -/

/-- A checked configuration. -/
structure ClientConfig where
  /-- The base address without closing slashes. -/
  baseUrl : Option String
  /-- The attempts after the first one. -/
  maxRetries : Nat
  /-- The wait after the first attempt. -/
  initialWait : Duration
  /-- The client's own bucket. -/
  limiter : Option (Bucket Float)
  /-- What picks a bucket for a request, in place of the client's own. -/
  selector : Option Selector
  /-- Where calls are logged and measured. -/
  sink : Sink
  /-- How waits are carried out. -/
  sleeper : Sleeper
  /-- The credential added to every request. -/
  credential : Option Credential
  /-- The settings of the connections. -/
  connection : ConnectionSettings

namespace ClientConfig

/-- When and how often calls are repeated. -/
def retryPolicy (config : ClientConfig) : RetryPolicy :=
  { maxRetries := config.maxRetries
    backoff := ⟨config.initialWait⟩
    sleeper := config.sleeper
    sink := config.sink }

/-- How calls are observed. -/
def observe (config : ClientConfig) : Observe := { sink := config.sink }

/-- How calls are admitted, if they are limited: a selector comes before the own bucket. -/
def admission (config : ClientConfig) : Option Admission :=
  let ofSelector := fun selector =>
    ({ selector, sleeper := config.sleeper, sink := config.sink } : Admission)
  match config.selector, config.limiter with
  | some selector, _ => some (ofSelector selector)
  | none, some _ => some (ofSelector (.always .own))
  | none, none => none

/-- The layers of a client, from the outside in. -/
def layers (config : ClientConfig) : List Middleware :=
  let observed := Chain.empty.add config.observe.middleware
  let credited := observed.addOptional (config.credential.map Credential.middleware)
  let admitted := credited.addOptional (config.admission.map Admission.middleware)
  (admitted.add config.retryPolicy.middleware).layers

/-- The configuration as text, with the texts of buckets as given, which tell the state of a
moment. -/
def describe (bucketText : Bucket Float → String) (config : ClientConfig) : String :=
  Text.recordOf "ClientConfig"
    [("base_url", Text.optional (config.baseUrl.map Text.quoted)),
      ("max_retries", toString config.maxRetries),
      ("initial_wait", config.initialWait.describe),
      ("limiter", Text.optional (config.limiter.map bucketText)),
      ("selector", Text.optional (config.selector.map fun _ => Text.quoted "<selector>")),
      ("auth",
        Text.optional (config.credential.map fun credential => Text.quoted credential.name.text)),
      ("transport", config.connection.describe)]

/-- The configuration as text, if it has no bucket. -/
def describe? (config : ClientConfig) : Option String :=
  match config.limiter with
  | some _ => none
  | none => some (config.describe fun _ => "")

end ClientConfig

/-! ## Plans -/

/-- What a client is to be like. -/
structure ClientPlan where
  /-- The base address. -/
  baseUrl : Option String := none
  /-- The attempts after the first one. -/
  maxRetries : Nat := 3
  /-- The wait after the first attempt. -/
  initialWait : Duration := .ofSeconds 1
  /-- The number of requests allowed in a minute. -/
  perMinute : Option Nat := none
  /-- What picks a bucket for a request. -/
  selector : Option Selector := none
  /-- Where calls are logged and measured. -/
  sink : Sink := .silent
  /-- How waits are carried out. -/
  sleeper : Sleeper := .timer
  /-- The credential added to every request. -/
  credential : Option CredentialPlan := none
  /-- The settings of the connections. -/
  connection : ConnectionSettings := {}

namespace ClientPlan

/-- A base address without closing slashes, if it is an address. -/
def checkedBase (url : String) : Except SetupError String :=
  match Url.parse url with
  | .ok _ => .ok (String.ofList (url.toList.reverse.dropWhile (· == '/')).reverse)
  | .error error => .error (.baseUrl url error)

/-- An optional part, checked if it is there. -/
def checked {α β : Type} (check : α → Except SetupError β) :
    Option α → Except SetupError (Option β)
  | none => .ok none
  | some part => do return some (← check part)

/-- The configuration of a plan. -/
def build (plan : ClientPlan) (now : Instant) : Except SetupError ClientConfig := do
  let credential ← checked CredentialPlan.build plan.credential
  let baseUrl ← checked checkedBase plan.baseUrl
  let limiter ← checked (fun count => BucketPlan.build (.perMinute count) now) plan.perMinute
  return {
    baseUrl, limiter, credential
    maxRetries := plan.maxRetries
    initialWait := plan.initialWait
    selector := plan.selector
    sink := plan.sink
    sleeper := plan.sleeper
    connection := plan.connection }

end ClientPlan

end Outbound
