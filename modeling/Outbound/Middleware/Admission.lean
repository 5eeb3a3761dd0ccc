import Outbound.Middleware

/-! # Admission of calls

Before a call is passed on it takes a token of the bucket that is selected for its request. If the
token does not exist yet the call waits for it; if it is interrupted then, it puts the token back.

* `Selector` picks a bucket and a label for a request: by the start of its path (`PathRoutes`), by
  its method (`MethodRoutes`) or always the same. A request may be let through without a token.
* `Admission.transport` is the transport behind the admission. -/

namespace Outbound

/-! ## Selection -/

/-- The bucket of a request, if it needs a token, and the label under which its waits are told. -/
structure Selection where
  /-- The bucket. -/
  bucket : Option BucketId
  /-- The label. -/
  label : String
  deriving DecidableEq, Repr

/-- What picks a bucket for a request. -/
abbrev Selector := Request → Selection

/-- The label of the bucket of a client. -/
def Selection.defaultLabel : String := "default"

/-- The selection of a bucket for every request. -/
def Selector.always (bucket : BucketId) : Selector := fun _ =>
  ⟨some bucket, Selection.defaultLabel⟩

/-- Selections by the start of the path, the first that fits. -/
structure PathRoutes where
  /-- Starts of paths with their selections. -/
  routes : List (String × Selection)
  /-- The selection of all other paths. -/
  fallback : Selection

namespace PathRoutes

/-- The selection of a path. -/
def ofPath (routes : PathRoutes) (path : String) : Selection :=
  match routes.routes.find? fun route => route.1.toList.isPrefixOf path.toList with
  | some route => route.2
  | none => routes.fallback

/-- The selection of a request. -/
def selector (routes : PathRoutes) : Selector := fun request => routes.ofPath request.uri.path

/-- The routes as text. -/
def describe (routes : PathRoutes) : String :=
  let pair := fun (route : String × Selection) =>
    "(" ++ Text.quoted route.1 ++ ", " ++ Text.quoted route.2.label ++ ")"
  Text.recordOf "PathPrefixSelector"
    [("routes", Text.listOf (routes.routes.map pair)),
      ("fallback", Text.quoted routes.fallback.label)]

end PathRoutes

/-- Selections by the method, the first that fits. -/
structure MethodRoutes where
  /-- Methods with their selections. -/
  routes : List (String × Selection)
  /-- The selection of all other methods. -/
  fallback : Selection

/-- The selection of a request by its method. -/
def MethodRoutes.selector (routes : MethodRoutes) : Selector := fun request =>
  match routes.routes.find? fun route => route.1 == request.method.text with
  | some route => route.2
  | none => routes.fallback

/-! ## Waiting for a token -/

/-- How calls are admitted. -/
structure Admission where
  /-- What picks the bucket. -/
  selector : Selector
  /-- How the waits are carried out. -/
  sleeper : Sleeper := .timer
  /-- Where waits are logged and measured. -/
  sink : Sink := .silent

namespace Admission

/-- Waits for a reserved token of a bucket. -/
def await (admission : Admission) (context : Context) (bucket : BucketId) (label : String)
    (delay : Duration) : Call (Except Failure Unit) := do
  admission.sink.log .info "rate limit wait"
    [⟨"endpoint", label⟩, ⟨"wait_ms", toString delay.millis⟩]
  admission.sink.measure (.rateLimit label delay)
  match ← Call.perform (.wait admission.sleeper context delay) with
  | .ok () => return .ok ()
  | .error cause =>
      Call.perform (.giveBack bucket)
      return .error (.rateLimitWait label cause)

/-- Takes a token for a request. -/
def admitted (admission : Admission) (request : Request) : Call (Except Failure Unit) := do
  let selection := admission.selector request
  match selection.bucket with
  | none => return .ok ()
  | some bucket =>
      let delay ← Call.perform (.reserve bucket)
      if delay = 0 then return .ok ()
      else admission.await request.callContext bucket selection.label delay

/-- The transport behind the admission. -/
def transport (admission : Admission) (inner : Transport) : Transport := fun request => do
  match ← admission.admitted request with
  | .ok () => inner request
  | .error failure => return .error failure

/-- Admission as a layer. -/
def middleware (admission : Admission) : Middleware := ⟨"rate_limit", admission.transport⟩

end Admission

end Outbound
