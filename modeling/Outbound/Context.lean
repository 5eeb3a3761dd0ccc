import Outbound.Time

/-! # Call contexts

A call may be cancelled by a token or by a deadline. A context holds at most one of each; a wait
races it, so that a wait ends when the sleep ends, when the token fires or when the deadline passes.

* `Context.isDone` asks a context whether it is done; `Context.cause?` is the cause that a waiting
  call notices: a fired token comes before a deadline, which is noticed by a timer.
* `Wait.wakesAt` is the instant at which a wait ends and `Wait.outcome` how it ends there.
* `Sleeper.dueAt` is the instant at which a sleep is due to end; a sleep that would leave the range
  of the clock is cut short. -/

namespace Outbound

/-- Why a wait or a call was interrupted. -/
inductive CancelCause where
  /-- The caller cancelled the call. -/
  | cancelled
  /-- The deadline of the call passed. -/
  | deadlineExceeded
  deriving DecidableEq, Repr

/-- The wording of a cause. -/
def CancelCause.message : CancelCause → String
  | .cancelled => "call cancelled"
  | .deadlineExceeded => "deadline exceeded"

/-- A short name for a cause. -/
def CancelCause.name : CancelCause → String
  | .cancelled => "cancelled"
  | .deadlineExceeded => "deadline"

/-- The cause of a short name. -/
def CancelCause.ofName? (name : String) : Option CancelCause :=
  [.cancelled, .deadlineExceeded].find? fun cause => cause.name == name

/-- A cancellation token: one that callers share by name, or one that belongs to a single call. -/
inductive TokenId where
  /-- A shared token. -/
  | named (name : String)
  /-- The token of one call. -/
  | own (number : Nat)
  deriving DecidableEq, Repr

/-- When each token fires, if it is to fire at all. -/
abbrev Signals := TokenId → Option Instant

namespace Signals

/-- No token fires. -/
def silent : Signals := fun _ => none

/-- The tokens after one of them was set to fire at an instant; a token fires once, at the earliest
instant it was set to. -/
def fire (signals : Signals) (token : TokenId) (instant : Instant) : Signals := fun other =>
  if other = token then
    match signals other with
    | some earlier => some (min earlier instant)
    | none => some instant
  else signals other

/-- Whether a token has fired by an instant. -/
def firedBy (signals : Signals) (token : TokenId) (now : Instant) : Bool :=
  match signals token with
  | some instant => instant ≤ now
  | none => false

end Signals

/-- The cancellation token and the deadline of a call. -/
structure Context where
  /-- The token by which the call is cancelled. -/
  token : Option TokenId
  /-- The instant by which the call is to end. -/
  deadline : Option Instant
  deriving DecidableEq, Repr

namespace Context

/-! ## Building -/

/-- The first instant beyond the range of the clock. -/
def clockEnd : Instant := ⟨0x8000000000000000 * 1000000000⟩

/-- A context that is never done. -/
def background : Context := ⟨none, none⟩

/-- A context cancelled through a token. -/
def ofToken (token : TokenId) : Context := ⟨some token, none⟩

/-- A context that expires a while from now; a while past the range of the clock is no deadline. -/
def ofTimeout (now : Instant) (timeout : Duration) : Context :=
  let deadline := now.after timeout
  ⟨none, if deadline < clockEnd then some deadline else none⟩

/-- The context with a deadline added; the earlier of two deadlines is kept. -/
def deadlineAt (context : Context) (deadline : Instant) : Context :=
  { context with
    deadline := some (match context.deadline with
      | some earlier => min earlier deadline
      | none => deadline) }

/-- The context with a token in place of the one it had. -/
def withToken (context : Context) (token : TokenId) : Context :=
  { context with token := some token }

/-! ## Being done -/

/-- Whether the token of a context has fired by an instant. -/
def tokenFired (context : Context) (signals : Signals) (now : Instant) : Bool :=
  match context.token with
  | some token => signals.firedBy token now
  | none => false

/-- Whether the deadline of a context has passed by an instant. -/
def deadlinePassed (context : Context) (now : Instant) : Bool :=
  match context.deadline with
  | some deadline => deadline ≤ now
  | none => false

/-- Whether a context is done at an instant. -/
def isDone (context : Context) (signals : Signals) (now : Instant) : Bool :=
  context.tokenFired signals now || context.deadlinePassed now

/-- Whether the timer for the deadline of a context has fired by an instant. -/
def timerFired (context : Context) (now : Instant) : Bool :=
  match context.deadline with
  | some deadline => deadline.tick ≤ now
  | none => false

/-- The cause by which a waiting call notices at an instant that its context is done, if it does. -/
def cause? (context : Context) (signals : Signals) (now : Instant) : Option CancelCause :=
  if context.tokenFired signals now then some .cancelled
  else if context.timerFired now then some .deadlineExceeded
  else none

/-- The earlier of two instants that may never come. -/
def earlier : Option Instant → Option Instant → Option Instant
  | some left, some right => some (min left right)
  | some left, none => some left
  | none, right => right

/-- The instant at which a waiting call notices that its context is done, if it ever is. Deadlines
are noticed by timers. -/
def firesAt? (context : Context) (signals : Signals) : Option Instant :=
  earlier (context.token.bind signals) (context.deadline.map Instant.tick)

end Context

/-! ## Waits -/

/-- A wait: a sleep until an instant that races a context. -/
structure Wait where
  /-- The context the sleep races. -/
  context : Context
  /-- The instant at which the sleep ends. -/
  sleepEnds : Instant
  deriving DecidableEq, Repr

namespace Wait

/-- The instant at which a wait under way ends. -/
def wakesAt (wait : Wait) (signals : Signals) (now : Instant) : Instant :=
  max now (match wait.context.firesAt? signals with
    | some instant => min instant wait.sleepEnds
    | none => wait.sleepEnds)

/-- How a wait ends at the instant at which it ends. -/
def outcome (wait : Wait) (signals : Signals) (now : Instant) : Except CancelCause Unit :=
  match wait.context.cause? signals now with
  | some cause => .error cause
  | none => .ok ()

end Wait

/-! ## Sleepers -/

/-- How the sleeps of a client are carried out. -/
inductive Sleeper where
  /-- By a timer of the clock. -/
  | timer
  /-- At once, without moving the clock. -/
  | immediate
  deriving DecidableEq, Repr

namespace Sleeper

/-- The instant at which a sleep begun at an instant is due to end. A sleep that would leave the
range of the clock is cut short: it is due far ahead. -/
def dueAt (now : Instant) (delay : Duration) : Instant :=
  let later := now.after delay
  if later < Context.clockEnd then later else now.after .farAhead

/-- The instant at which a sleep begun at an instant ends. -/
def ends (sleeper : Sleeper) (now : Instant) (delay : Duration) : Instant :=
  match sleeper with
  | .timer => (dueAt now delay).tick
  | .immediate => now

/-- The sleeper as text. -/
def describe : Sleeper → String
  | .timer => "TokioSleeper"
  | .immediate => "InstantSleeper"

/-- The instant at which sleeps made one after the other have ended. -/
def endsAll (sleeper : Sleeper) (now : Instant) (delays : List Duration) : Instant :=
  delays.foldl sleeper.ends now

end Sleeper

end Outbound
