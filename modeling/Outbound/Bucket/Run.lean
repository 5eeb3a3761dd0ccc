import Outbound.Bucket

/-! # Runs of a bucket

A bucket is used over time: tokens are reserved, reservations are cancelled, tokens are taken if
there are any, and the balance is looked at. Reservations are numbered in the order in which they
are made; each one can be cancelled once.

* `BucketRun.step` makes a step of a run, `BucketRun.steps` several with their answers. -/

namespace Outbound

/-- A step of a run. -/
inductive BucketStep where
  /-- Time passes. -/
  | advance (duration : Duration)
  /-- A token is reserved. -/
  | reserve
  /-- A reservation is cancelled. -/
  | cancel (reservation : Nat)
  /-- A token is taken if there is one. -/
  | tryAcquire
  /-- The balance is looked at. -/
  | available
  deriving DecidableEq, Repr

/-- The answer to a step. -/
inductive BucketAnswer (α : Type) where
  /-- Nothing to tell. -/
  | nothing
  /-- The seconds until a reserved token exists. -/
  | delay (seconds : α)
  /-- Whether a reservation was cancelled. -/
  | cancelled (success : Bool)
  /-- Whether a token was taken. -/
  | acquired (success : Bool)
  /-- The balance. -/
  | balance (tokens : α)

/-- A bucket in use. -/
structure BucketRun (α : Type) where
  /-- The bucket. -/
  bucket : Bucket α
  /-- The time. -/
  now : Instant
  /-- Whether each reservation is still held. -/
  held : List Bool := []

namespace BucketRun

variable {α : Type} [Amount α]

/-- A full bucket that was never used. -/
def fresh (capacity rate : α) : BucketRun α := ⟨.full capacity rate .start, .start, []⟩

/-- Makes a step. -/
def step (run : BucketRun α) : BucketStep → BucketAnswer α × BucketRun α
  | .advance duration => (.nothing, { run with now := run.now.after duration })
  | .reserve =>
      let (seconds, bucket) := run.bucket.reserve run.now
      (.delay seconds, { run with bucket, held := run.held ++ [true] })
  | .cancel reservation =>
      if run.held[reservation]? = some true then
        (.cancelled true,
          { run with
            bucket := run.bucket.giveBack run.now
            held := run.held.set reservation false })
      else (.cancelled false, run)
  | .tryAcquire =>
      let (success, bucket) := run.bucket.tryAcquire run.now
      (.acquired success, { run with bucket })
  | .available =>
      let (tokens, bucket) := run.bucket.available run.now
      (.balance tokens, { run with bucket })

/-- Makes steps, with their answers in order. -/
def steps (run : BucketRun α) : List BucketStep → List (BucketAnswer α) × BucketRun α
  | [] => ([], run)
  | step :: others =>
      let (answer, after) := run.step step
      let (answers, last) := after.steps others
      (answer :: answers, last)

end BucketRun

end Outbound
