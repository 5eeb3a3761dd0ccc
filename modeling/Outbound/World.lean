import Outbound.Call
import Outbound.Path.Memo

/-! # A scripted world

A world in which calls are run: a clock that only moves when a call waits, buckets, tokens, memos of
path templates, and a script of what the base answers to the requests sent to it, one after the
other. It keeps the list of everything that can be seen from outside.

* `World.begin` begins an effect: what can be seen of it at once, and a `Pending` effect with the
  instant at which it ends and what its end does.
* `World.answer` is the answer to an effect in a world where nothing else is under way, and
  `World.perform` runs a call there. -/

namespace Outbound

/-! ## Events and replies -/

/-- Something that can be seen from outside. -/
inductive Event where
  /-- A record was written. -/
  | log (record : LogRecord)
  /-- Something was measured. -/
  | metric (event : MetricEvent)
  /-- A sleep was asked for. -/
  | sleep (delay : Duration)
  /-- A request was sent. -/
  | send (request : Request) (instant : Instant)
  /-- A response was let go. -/
  | close (response : ResponseId)
  /-- A tagged layer was entered. -/
  | enter (tag : String)
  /-- A tagged layer was left. -/
  | leave (tag : String) (succeeded : Bool)

/-- What the base does with a request. -/
inductive Reaction where
  /-- It responds. -/
  | respond (status : Status) (headers : Headers) (body : Body)
  /-- It fails. -/
  | fail (failure : Failure)

/-- An entry of a script. -/
structure Reply where
  /-- The time it takes. -/
  latency : Duration := 0
  /-- The shared token that is fired then. -/
  fires : Option String := none
  /-- What is done then. -/
  reaction : Reaction

/-- The reply once a script has run out. -/
def Reply.plain : Reply := { reaction := .respond .ok .empty .empty }

/-! ## Worlds -/

/-- The state of a world. -/
structure World where
  /-- The time. -/
  now : Instant := .start
  /-- The buckets. -/
  buckets : BucketId → Bucket Float
  /-- The memos of path templates. -/
  memos : MemoId → { memo : Path.Memo // memo.Sound } := fun _ => ⟨.empty, Path.Memo.sound_empty⟩
  /-- When tokens fire. -/
  signals : Signals := .silent
  /-- The replies to the next requests. -/
  script : List Reply := []
  /-- The number of responses opened. -/
  opened : Nat := 0
  /-- What was seen, in order. -/
  events : List Event := []

/-- An effect under way. -/
structure Pending (α : Type) where
  /-- The instant at which it ends, given when tokens fire. -/
  endsAt : Signals → Instant
  /-- The answer at that instant, and what the end changes. -/
  finish : World → α × World

namespace World

/-- The world after something was seen. -/
def note (world : World) (event : Event) : World :=
  { world with events := world.events ++ [event] }

/-- The world at an instant, or as it is if the instant is past. -/
def moveTo (world : World) (instant : Instant) : World :=
  { world with now := max world.now instant }

/-- The world with a bucket in place of the one of that name. -/
def setBucket (world : World) (bucket : BucketId) (state : Bucket Float) : World :=
  { world with
    buckets := fun other => if other = bucket then state else world.buckets other }

/-- The world after a token was set to fire. -/
def fire (world : World) (token : TokenId) (instant : Instant) : World :=
  { world with signals := world.signals.fire token instant }

/-! ## Effects -/

/-- An effect that ends as it begins. -/
def ready {α : Type} (world : World) (answer : α) : Pending α × World :=
  (⟨fun _ => world.now, fun later => (answer, later)⟩, world)

/-- The template of a path by a memo, which keeps it. -/
def template (world : World) (memo : MemoId) (path : String) : String × World :=
  let known := world.memos memo
  let kept := known.val.normalize path
  (kept.1,
    { world with
      memos := fun other =>
        if other = memo then ⟨kept.2, Path.Memo.sound_normalize known.property path⟩
        else world.memos other })

/-- Delivers a reply whose time is over. -/
def deliver (world : World) (reply : Reply) : Outcome × World :=
  let signalled :=
    match reply.fires with
    | some name => world.fire (.named name) world.now
    | none => world
  match reply.reaction with
  | .fail failure => (.error failure, signalled)
  | .respond status headers body =>
      let id := signalled.opened + 1
      (.ok { id, status, headers, body }, { signalled with opened := id })

/-- Begins to send a request: the next reply of the script is on its way. -/
def beginSend (world : World) (request : Request) : Pending Outcome × World :=
  let reply := world.script.head?.getD .plain
  ({ endsAt := fun _ => Sleeper.timer.ends world.now reply.latency
     finish := fun later => later.deliver reply },
    { world.note (.send request world.now) with script := world.script.tail })

/-- Begins to wait. -/
def beginWait (world : World) (sleeper : Sleeper) (context : Context) (delay : Duration) :
    Pending (Except CancelCause Unit) × World :=
  let wait : Wait := ⟨context, sleeper.ends world.now delay⟩
  ({ endsAt := fun signals => wait.wakesAt signals world.now
     finish := fun later => (wait.outcome later.signals later.now, later) },
    world.note (.sleep delay))

/-- Begins an effect. -/
def begin (world : World) : (effect : Effect) → Pending effect.Answer × World
  | .log record => (world.note (.log record)).ready ()
  | .measure event => (world.note (.metric event)).ready ()
  | .enter tag => (world.note (.enter tag)).ready ()
  | .leave tag succeeded => (world.note (.leave tag succeeded)).ready ()
  | .clock => world.ready world.now
  | .template memo path =>
      let (template, after) := world.template memo path
      after.ready template
  | .reserve bucket =>
      let (delay, after) := (world.buckets bucket).reserveWait world.now
      (world.setBucket bucket after).ready delay
  | .giveBack bucket =>
      (world.setBucket bucket ((world.buckets bucket).giveBack world.now)).ready ()
  | .wait sleeper context delay => world.beginWait sleeper context delay
  | .check context => world.ready (context.cause? world.signals world.now)
  | .send request => world.beginSend request
  | .close response => (world.note (.close response)).ready ()
  | .fireAfter token delay => (world.fire token (Sleeper.timer.ends world.now delay)).ready ()

/-- The answer to an effect while nothing else is under way: the clock moves to its end. -/
def answer (effect : Effect) (world : World) : effect.Answer × World :=
  let (pending, begun) := world.begin effect
  pending.finish (begun.moveTo (pending.endsAt begun.signals))

/-- Runs a call while nothing else is under way. -/
def perform {α : Type} (world : World) (call : Call α) : α × World := call.run answer world

/-- A memo answers with the template of the path, whatever it was asked before. -/
theorem template_fst (world : World) (memo : MemoId) (path : String) :
    (world.template memo path).1 = Path.template path :=
  Path.Memo.normalize_fst (world.memos memo).property path

end World

end Outbound
