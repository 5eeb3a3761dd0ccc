import Outbound.Time
import Outbound.Number.Double

/-! # Token buckets

A bucket holds up to a number of tokens and gains them at a steady rate. A reservation takes a
token that may not exist yet: the balance falls below zero and the holder waits until it would be
zero again. A cancelled reservation puts its token back.

The arithmetic is stated once, over any type of amounts. With doubles it is the arithmetic that
runs; with rational numbers it is the exact arithmetic that the doubles approach.

* `Bucket.refill`, `reserve`, `tryAcquire`, `available` and `giveBack` are the operations; each
  first refills the bucket up to its instant.
* `Duration.ofSecondsCapped` turns a wait in seconds into nanoseconds, at most one day. -/

namespace Outbound

/-! ## Amounts -/

/-- The numbers a bucket computes with: amounts of tokens, rates and lengths of time in seconds. -/
class Amount (α : Type) extends Add α, Sub α, Mul α, Div α, Neg α, LE α where
  /-- A whole number as an amount. -/
  count : Nat → α
  /-- A duration as a number of seconds. -/
  seconds : Duration → α
  /-- The order can be decided. -/
  decideLE : DecidableLE α

attribute [reducible, instance] Amount.decideLE

/-- A duration in seconds as a double: the whole seconds and the nanoseconds are rounded apart. -/
def Duration.toSeconds (duration : Duration) : Float :=
  Float.ofNat (duration.nanos / 1000000000)
    + Float.ofNat (duration.nanos % 1000000000) / Float.ofNat 1000000000

instance : Amount Float where
  count := Float.ofNat
  seconds := Duration.toSeconds
  decideLE := inferInstance

instance : Amount Rat where
  count := fun number => (number : Rat)
  seconds := fun duration => (duration.nanos : Rat) / 1000000000
  decideLE := inferInstance

/-- The lesser of two amounts. -/
def Amount.lesser {α : Type} [Amount α] (left right : α) : α :=
  if left ≤ right then left else right

/-! ## The bucket -/

/-- A token bucket. -/
structure Bucket (α : Type) where
  /-- The most tokens the bucket can hold. -/
  capacity : α
  /-- The tokens gained in a second. -/
  rate : α
  /-- The balance, negative while tokens are promised that do not exist yet. -/
  tokens : α
  /-- The instant up to which the bucket was refilled. -/
  refilledAt : Instant

namespace Bucket

variable {α : Type} [Amount α]

/-- A full bucket. -/
def full (capacity rate : α) (now : Instant) : Bucket α := ⟨capacity, rate, capacity, now⟩

/-- The bucket with the tokens gained by an instant, as far as they fit in. -/
def refill (bucket : Bucket α) (now : Instant) : Bucket α :=
  { bucket with
    tokens := Amount.lesser
      (bucket.tokens + Amount.seconds (now.since bucket.refilledAt) * bucket.rate) bucket.capacity
    refilledAt := now }

/-- The seconds until a balance is no longer negative. -/
def secondsUntilPaid (bucket : Bucket α) : α :=
  if Amount.count 0 ≤ bucket.tokens then Amount.count 0 else -bucket.tokens / bucket.rate

/-- Takes a token, now or in the future; answers with the seconds until it exists. -/
def reserve (bucket : Bucket α) (now : Instant) : α × Bucket α :=
  let refilled := bucket.refill now
  let taken := { refilled with tokens := refilled.tokens - Amount.count 1 }
  (taken.secondsUntilPaid, taken)

/-- Takes a token only if there is one. -/
def tryAcquire (bucket : Bucket α) (now : Instant) : Bool × Bucket α :=
  let refilled := bucket.refill now
  if Amount.count 1 ≤ refilled.tokens then
    (true, { refilled with tokens := refilled.tokens - Amount.count 1 })
  else (false, refilled)

/-- The balance at an instant. -/
def available (bucket : Bucket α) (now : Instant) : α × Bucket α :=
  let refilled := bucket.refill now
  (refilled.tokens, refilled)

/-- Puts a token back, as far as it fits in. -/
def giveBack (bucket : Bucket α) (now : Instant) : Bucket α :=
  let refilled := bucket.refill now
  { refilled with
    tokens := Amount.lesser (refilled.tokens + Amount.count 1) bucket.capacity }

end Bucket

/-- Which bucket is meant: that of a client itself, or one of those shared between clients. -/
inductive BucketId where
  /-- The client's own bucket. -/
  | own
  /-- A shared bucket. -/
  | shared (index : Nat)
  deriving DecidableEq, Repr

/-! ## Waits in nanoseconds -/

/-- A wait of some seconds in whole nanoseconds, to the nearest with ties to the even, and at most
one day. -/
def Duration.ofSecondsCapped (seconds : Float) : Duration :=
  match Double.magnitude? seconds with
  | some size => min ⟨size.timesNearest 1000000000⟩ .day
  | none => .day

/-- The wait for a reserved token, with the bucket after the reservation. -/
def Bucket.reserveWait (bucket : Bucket Float) (now : Instant) : Duration × Bucket Float :=
  let (seconds, after) := bucket.reserve now
  (.ofSecondsCapped seconds, after)

end Outbound
