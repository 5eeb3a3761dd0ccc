import Outbound.Client
import Outbound.Middleware.Plan
import Outbound.Schedule

/-! # Sessions

A session makes the calls of a client in a scripted world, step by step, and tells what each step
resulted in and what was seen meanwhile.

* `SessionPlan.build` checks the parts of a session: first the buckets, then the client.
* `CallPlan.program` is a planned call, from the making of the request to the reading of the body.
* `Session.step` makes a step. -/

namespace Outbound

/-! ## Planned calls -/

/-- What is asked of the context of a call. -/
structure ContextPlan where
  /-- A time after which the call expires. -/
  timeout : Option Duration := none
  /-- An instant at which the call expires. -/
  deadline : Option Instant := none
  /-- A shared token. -/
  token : Option String := none
  /-- The time after which the token of the call fires. -/
  cancelAfter : Option Duration := none
  deriving DecidableEq, Repr

namespace ContextPlan

/-- The context for a call that starts now; `own` is the token of the call. -/
def context (plan : ContextPlan) (own : TokenId) (now : Instant) : Context :=
  let timed := match plan.timeout with
    | some timeout => Context.ofTimeout now timeout
    | none => .background
  let bounded := match plan.deadline with
    | some deadline => timed.deadlineAt deadline
    | none => timed
  let shared := match plan.token with
    | some name => bounded.withToken (.named name)
    | none => bounded
  match plan.cancelAfter with
  | some _ => shared.withToken own
  | none => shared

/-- Makes the context of a call, and sets its token to fire. -/
def program (plan : ContextPlan) (own : TokenId) : Call Context := do
  let now ← Call.perform .clock
  match plan.cancelAfter with
  | some delay => Call.perform (.fireAfter own delay)
  | none => pure ()
  return plan.context own now

end ContextPlan

/-- What a call is made for. -/
inductive Purpose where
  /-- The response. -/
  | response
  /-- The payload of a response. -/
  | payload (operation : String) (shape : Json.Shape) (expected : Status)
  /-- The status of a response. -/
  | confirmation (operation : String) (expected : Status)

/-- A planned call. -/
structure CallPlan where
  /-- The method. -/
  method : String := "GET"
  /-- The path. -/
  path : String
  /-- The header fields, in order. -/
  headers : List (String × Bytes) := []
  /-- The body. -/
  body : Option Body := none
  /-- The context, if there is one. -/
  context : Option ContextPlan := none
  /-- What the call is made for. -/
  purpose : Purpose := .response

/-- What a call resulted in. -/
inductive CallResult where
  /-- A response, its body read to the end. -/
  | response (status : Status) (headers : Headers) (body : Except TransportFault Bytes)
      (attempts : Option Nat)
  /-- A payload. -/
  | payload (value : Json.Value)
  /-- The expected status. -/
  | confirmed
  /-- A failure. -/
  | failed (failure : Failure)

/-- The bytes of a body, or how it broke off. -/
def Body.bytes (body : Body) : Except TransportFault Bytes :=
  body.read.mapError TransportFault.brokenBody

namespace CallPlan

/-- The header fields with those of given texts behind them. -/
def addHeaders (headers : Headers) : List (String × Bytes) → Except HeaderFault Headers
  | [] => .ok headers
  | (name, bytes) :: others =>
      match HeaderName.ofText? name with
      | none => .error .name
      | some known =>
          match HeaderValue.ofBytes? bytes with
          | none => .error .value
          | some value => addHeaders (headers.append known value) others

/-- The request of a plan. -/
def request (plan : CallPlan) (client : Client) : Except Failure Request :=
  match Method.ofText? plan.method with
  | none => .error (.invalidRequest .method)
  | some method => do
      let request ← client.request method plan.path
      match addHeaders .empty plan.headers with
      | .ok headers => return { request with headers, body := plan.body }
      | .error fault => .error (.invalidRequest (.header fault))

/-- Makes the call for its purpose. -/
def pursue (purpose : Purpose) (client : Client) (request : Request) : Call CallResult := do
  match purpose with
  | .response =>
      match ← client.execute request with
      | .error failure => return .failed failure
      | .ok response =>
          Call.perform (.close response.id)
          return .response response.status response.headers response.body.bytes response.attempts
  | .payload operation shape expected =>
      match ← client.sendJson operation shape expected request with
      | .ok value => return .payload value
      | .error failure => return .failed failure
  | .confirmation operation expected =>
      match ← client.sendNoContent operation expected request with
      | .ok () => return .confirmed
      | .error failure => return .failed failure

/-- The call of a plan; `own` is its token. -/
def program (plan : CallPlan) (client : Client) (own : TokenId) : Call CallResult := do
  match plan.request client with
  | .error failure => return .failed failure
  | .ok request =>
      match plan.context with
      | none => pursue plan.purpose client request
      | some contextPlan =>
          let context ← contextPlan.program own
          pursue plan.purpose client (request.attach context)

end CallPlan

/-! ## Sessions -/

/-- The client of a session. -/
inductive ClientDesign where
  /-- A client of a plan, with further layers next to the base. -/
  | planned (plan : ClientPlan) (extra : List LayerPlan)
  /-- A chain of layers; paths are whole targets. -/
  | layered (layers : List LayerPlan)

/-- What a session is to be like. -/
structure SessionPlan where
  /-- The shared buckets. -/
  buckets : List BucketPlan := []
  /-- The client. -/
  design : ClientDesign
  /-- The replies of the base. -/
  script : List Reply := []

/-- A session. -/
structure Session where
  /-- The client. -/
  client : Client
  /-- The world. -/
  world : World
  /-- The number of calls made. -/
  calls : Nat := 0

namespace SessionPlan

/-- The buckets of a session by their names. -/
def bucketsOf (own : Option (Bucket Float)) (shared : List (Bucket Float)) :
    BucketId → Bucket Float
  | .own => own.getD (.full 1 1 .start)
  | .shared index => shared.getD index (.full 1 1 .start)

/-- The client of a design and its own bucket. -/
def client : ClientDesign → Except SetupError (Client × Option (Bucket Float))
  | .planned plan extra => do
      let config ← plan.build .start
      let further ← LayerPlan.addAll .empty extra
      return (.ofConfig config .base further.layers, config.limiter)
  | .layered plans => do
      let collected ← LayerPlan.addAll .empty plans
      return ({ transport := collected.build .base, baseUrl := none,
                layers := collected.names }, none)

/-- The session of a plan. -/
def build (plan : SessionPlan) : Except SetupError Session := do
  let shared ← plan.buckets.mapM (·.build .start)
  let (client, own) ← client plan.design
  return { client, world := { buckets := bucketsOf own shared, script := plan.script } }

end SessionPlan

/-! ## Steps -/

/-- A step of a session. -/
inductive Step where
  /-- A request is made and not sent. -/
  | request (method path : String)
  /-- A call is made. -/
  | call (plan : CallPlan)
  /-- Calls are made side by side. -/
  | sideBySide (plans : List CallPlan)
  /-- Time passes. -/
  | advance (duration : Duration)
  /-- A shared token is fired. -/
  | fire (token : String)
  /-- The balance of a bucket is looked at. -/
  | available (bucket : BucketId)
  /-- A token of a bucket is taken if there is one. -/
  | tryAcquire (bucket : BucketId)

/-- What a step resulted in. -/
inductive StepResult where
  /-- A request, or why there is none. -/
  | request (result : Except Failure Request)
  /-- The result of a call. -/
  | call (result : CallResult)
  /-- The results of several calls. -/
  | calls (results : List CallResult)
  /-- Nothing to tell. -/
  | done
  /-- A balance. -/
  | balance (tokens : Float)
  /-- Whether a token was taken. -/
  | acquired (success : Bool)

namespace Session

/-- The calls of plans, numbered on from those made before. -/
def programs (session : Session) (plans : List CallPlan) : List (Call CallResult) :=
  plans.mapIdx fun index plan => plan.program session.client (.own (session.calls + index))

/-- Makes a step in a world. -/
def result (session : Session) (world : World) : Step → StepResult × World
  | .request method path =>
      let plan : CallPlan := { method, path }
      (.request (plan.request session.client), world)
  | .call plan =>
      let (result, after) := world.perform (plan.program session.client (.own session.calls))
      (.call result, after)
  | .sideBySide plans =>
      let (results, after) := world.performAll (session.programs plans)
      (.calls results, after)
  | .advance duration => (.done, world.moveTo (world.now.after duration))
  | .fire token => (.done, world.fire (.named token) world.now)
  | .available bucket =>
      let (tokens, after) := (world.buckets bucket).available world.now
      (.balance tokens, world.setBucket bucket after)
  | .tryAcquire bucket =>
      let (success, after) := (world.buckets bucket).tryAcquire world.now
      (.acquired success, world.setBucket bucket after)

/-- The number of calls a step makes. -/
def callCount : Step → Nat
  | .call _ => 1
  | .sideBySide plans => plans.length
  | _ => 0

/-- Makes a step; the world afterwards holds the events of this step. -/
def step (session : Session) (step : Step) : StepResult × Session :=
  let (result, after) := session.result { session.world with events := [] } step
  (result, { session with world := after, calls := session.calls + callCount step })

/-- What is told about a step. -/
structure Report where
  /-- What the step resulted in. -/
  result : StepResult
  /-- What was seen meanwhile. -/
  events : List Event
  /-- The time afterwards. -/
  now : Instant

/-- Makes steps one after the other. -/
def steps (session : Session) : List Step → List Report × Session
  | [] => ([], session)
  | step :: others =>
      let (result, after) := session.step step
      let (reports, last) := after.steps others
      (⟨result, after.world.events, after.world.now⟩ :: reports, last)

end Session

end Outbound
