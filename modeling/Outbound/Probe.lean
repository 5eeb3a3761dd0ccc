import Outbound.World

/-! # Probing a context

A context is built, rides along with a request and is asked questions while time passes.

* `ContextProbe.context` is the context that governs the request.
* `ContextProbe.answer` answers a question in a world. -/

namespace Outbound

/-- How a context is built and carried. -/
structure ContextProbe where
  /-- A time after which it expires. -/
  timeout : Option Duration := none
  /-- Instants at which it expires. -/
  deadlines : List Instant := []
  /-- Whether it has the token of the probe. -/
  hasToken : Bool := false
  /-- Whether it rides along with the request. -/
  attached : Bool := true
  deriving DecidableEq, Repr

/-- A question to a context, or an event meanwhile. -/
inductive ProbeStep where
  /-- Time passes. -/
  | advance (duration : Duration)
  /-- The token is fired. -/
  | fire
  /-- The token is set to fire after a while. -/
  | fireAfter (delay : Duration)
  /-- Whether the context is done. -/
  | isDone
  /-- When the context expires. -/
  | deadline
  /-- By which cause the context will be done, waiting for it. -/
  | done
  /-- How a wait that races the context ends. -/
  | wait (sleeper : Sleeper) (delay : Duration)

/-- The answer to a question. -/
inductive ProbeAnswer where
  /-- Nothing to tell. -/
  | nothing
  /-- Whether the context is done. -/
  | isDone (answer : Bool)
  /-- When the context expires, if it does. -/
  | deadline (instant : Option Instant)
  /-- By which cause the context was done; none if it never is. -/
  | done (cause : Option CancelCause)
  /-- How a wait ended. -/
  | waited (outcome : Except CancelCause Unit)

namespace ContextProbe

/-- The token of the probe. -/
def token : TokenId := .own 0

/-- The context as it is built. -/
def built (probe : ContextProbe) (now : Instant) : Context :=
  let timed := match probe.timeout with
    | some timeout => Context.ofTimeout now timeout
    | none => .background
  let bounded := probe.deadlines.foldl Context.deadlineAt timed
  if probe.hasToken then bounded.withToken token else bounded

/-- The request the context rides along with, if it is attached. -/
def request (probe : ContextProbe) (now : Instant) : Request :=
  let bare : Request := { method := .get, uri := ⟨none, none, "/", none⟩ }
  if probe.attached then bare.attach (probe.built now) else bare

/-- The context that governs the request. -/
def context (probe : ContextProbe) (now : Instant) : Context := (probe.request now).callContext

/-- Answers a question. -/
def answer (context : Context) (world : World) : ProbeStep → ProbeAnswer × World
  | .advance duration => (.nothing, world.moveTo (world.now.after duration))
  | .fire => (.nothing, world.fire token world.now)
  | .fireAfter delay => (.nothing, world.fire token (Sleeper.timer.ends world.now delay))
  | .isDone => (.isDone (context.isDone world.signals world.now), world)
  | .deadline => (.deadline context.deadline, world)
  | .done =>
      let later := match context.firesAt? world.signals with
        | some instant => world.moveTo instant
        | none => world
      (.done (context.cause? later.signals later.now), later)
  | .wait sleeper delay =>
      let (outcome, later) := World.answer (.wait sleeper context delay) world
      (.waited outcome, later)

/-- Answers questions one after the other, each with the time afterwards. -/
def answers (context : Context) (world : World) : List ProbeStep → List (ProbeAnswer × Instant)
  | [] => []
  | step :: steps =>
      let (given, after) := answer context world step
      (given, after.now) :: answers context after steps

end ContextProbe

end Outbound
