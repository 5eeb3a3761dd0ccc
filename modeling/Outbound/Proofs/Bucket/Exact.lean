import Mathlib.Algebra.Order.Field.Basic
import Mathlib.Algebra.Order.Ring.Rat
import Mathlib.Tactic.FieldSimp
import Mathlib.Tactic.Linarith
import Mathlib.Tactic.Positivity
import Mathlib.Tactic.Ring
import Outbound.Bucket.Run

/-! # Buckets in exact arithmetic

The balance of a bucket at the time of a run, in rational numbers. Delays are neither rounded to
nanoseconds nor cut off at one day: a run whose delays all stay below a day is told exactly.

* `BucketRun.balance` is the balance that would be told now; `BucketRun.balance_le_capacity` bounds
  it.
* `BucketRun.balance_advance`, `balance_reserve`, `balance_cancel`, `balance_tryAcquire` and
  `balance_available` say what each step does to it, so that no proof has to look into the
  operations of the bucket again.
* `BucketRun.delay_reserve` is the delay of a reservation in terms of the balance behind it. -/

namespace Outbound

/-! ## Amounts and times -/

/-- The lesser of two rational numbers is their minimum. -/
theorem Amount.lesser_eq_min (left right : ℚ) : Amount.lesser left right = min left right :=
  (min_def left right).symm

/-- A duration in seconds. -/
def Duration.exactSeconds (duration : Duration) : ℚ := duration.nanos / 1000000000

/-- An instant in seconds on the clock. -/
def Instant.exactSeconds (instant : Instant) : ℚ := instant.nanos / 1000000000

/-- No duration is negative. -/
theorem Duration.exactSeconds_nonneg (duration : Duration) : 0 ≤ duration.exactSeconds := by
  unfold Duration.exactSeconds
  positivity

/-- The seconds add up when time passes. -/
theorem Instant.exactSeconds_after (instant : Instant) (duration : Duration) :
    (instant.after duration).exactSeconds = instant.exactSeconds + duration.exactSeconds := by
  simp only [exactSeconds, Duration.exactSeconds, nanos_after]
  push_cast
  ring

/-- Nothing has gone by since now. -/
theorem Instant.exactSeconds_since_self (instant : Instant) :
    (instant.since instant).exactSeconds = 0 := by
  simp [since, Duration.exactSeconds]

/-- The time gone by since an earlier instant grows with the time that passes. -/
theorem Instant.exactSeconds_after_since {earlier now : Instant} (order : earlier ≤ now)
    (duration : Duration) :
    ((now.after duration).since earlier).exactSeconds =
      (now.since earlier).exactSeconds + duration.exactSeconds := by
  rw [le_iff] at order
  have whole : (now.after duration).nanos - earlier.nanos
      = (now.nanos - earlier.nanos) + duration.nanos := by
    rw [nanos_after]
    omega
  simp only [since, Duration.exactSeconds, whole]
  push_cast
  ring

/-! ## Refilling -/

namespace Bucket

/-- The balance of a refilled bucket. -/
theorem tokens_refill (bucket : Bucket ℚ) (now : Instant) :
    (bucket.refill now).tokens =
      min (bucket.tokens + (now.since bucket.refilledAt).exactSeconds * bucket.rate)
        bucket.capacity :=
  Amount.lesser_eq_min _ _

/-- Refilling at once changes no balance that fits in. -/
theorem tokens_refill_self {bucket : Bucket ℚ} {now : Instant} (refilled : bucket.refilledAt = now)
    (fits : bucket.tokens ≤ bucket.capacity) : (bucket.refill now).tokens = bucket.tokens := by
  rw [tokens_refill, refilled, Instant.exactSeconds_since_self, zero_mul, add_zero,
    min_eq_left fits]

end Bucket

/-! ## The balance of a run -/

namespace BucketRun

/-- The balance that would be told now. -/
def balance (run : BucketRun ℚ) : ℚ := (run.bucket.available run.now).1

/-- The balance is that of the refilled bucket. -/
theorem balance_eq (run : BucketRun ℚ) :
    run.balance =
      min (run.bucket.tokens + (run.now.since run.bucket.refilledAt).exactSeconds * run.bucket.rate)
        run.bucket.capacity :=
  run.bucket.tokens_refill run.now

/-- A bucket never holds more than fits in. -/
theorem balance_le_capacity (run : BucketRun ℚ) : run.balance ≤ run.bucket.capacity := by
  rw [balance_eq]
  exact min_le_right _ _

/-- The balance of a bucket that was refilled just now. -/
theorem balance_of_refilled {run : BucketRun ℚ} (refilled : run.bucket.refilledAt = run.now)
    (fits : run.bucket.tokens ≤ run.bucket.capacity) : run.balance = run.bucket.tokens :=
  Bucket.tokens_refill_self refilled fits

/-! ## Steps -/

/-- While time passes tokens are gained as far as they fit in. -/
theorem balance_advance {run : BucketRun ℚ} (gains : 0 ≤ run.bucket.rate)
    (refilled : run.bucket.refilledAt ≤ run.now) (duration : Duration) :
    (run.step (.advance duration)).2.balance =
      min (run.balance + duration.exactSeconds * run.bucket.rate) run.bucket.capacity := by
  have more : 0 ≤ duration.exactSeconds * run.bucket.rate :=
    mul_nonneg duration.exactSeconds_nonneg gains
  rw [balance_eq, balance_eq]
  simp only [step]
  -- Gaining up to now and then further is gaining at once: the inner cut-off makes no difference.
  rw [Instant.exactSeconds_after_since refilled, add_mul, ← add_assoc, min_add, min_assoc,
    min_eq_right (le_add_of_nonneg_right more)]

/-- A reservation takes a token that may not exist yet. -/
theorem balance_reserve (run : BucketRun ℚ) : (run.step .reserve).2.balance = run.balance - 1 := by
  have fits : run.balance - 1 ≤ run.bucket.capacity := by
    have bound := run.balance_le_capacity
    linarith
  exact balance_of_refilled rfl fits

/-- The delay of a reservation is the time until the balance behind it is gained back. -/
theorem delay_reserve (run : BucketRun ℚ) :
    (run.bucket.reserve run.now).1 = max 0 (-(run.balance - 1)) / run.bucket.rate := by
  -- Both tests are on the refilled balance, which is that of the run by definition.
  show (if (0 : ℚ) ≤ run.balance - 1 then (0 : ℚ) else -(run.balance - 1) / run.bucket.rate) = _
  split
  next paid => rw [max_eq_left (by linarith), zero_div]
  next owed => rw [max_eq_right (by linarith)]

/-- A token that is put back counts as far as it fits in. -/
theorem balance_cancel {run : BucketRun ℚ} {reservation : Nat}
    (held : run.held[reservation]? = some true) :
    (run.step (.cancel reservation)).2.balance = min (run.balance + 1) run.bucket.capacity := by
  simp only [step, if_pos held]
  rw [balance_of_refilled rfl]
  · exact Amount.lesser_eq_min _ _
  · rw [Bucket.giveBack, Amount.lesser_eq_min]
    exact min_le_right _ _

/-- A reservation that is not held cannot be cancelled. -/
theorem step_cancel_of_not_held {run : BucketRun ℚ} {reservation : Nat}
    (free : run.held[reservation]? ≠ some true) : (run.step (.cancel reservation)).2 = run := by
  simp only [step, if_neg free]

/-- A token is taken at once if there is one. -/
theorem tryAcquire_eq_true_iff (run : BucketRun ℚ) :
    (run.bucket.tryAcquire run.now).1 = true ↔ 1 ≤ run.balance := by
  show (if (1 : ℚ) ≤ run.balance then _ else _ : Bool × Bucket ℚ).1 = true ↔ _
  split <;> simp [*]

/-- A token that is taken at once is missing. -/
theorem balance_tryAcquire_of_le {run : BucketRun ℚ} (enough : 1 ≤ run.balance) :
    (run.step .tryAcquire).2.balance = run.balance - 1 := by
  have fits : run.balance - 1 ≤ run.bucket.capacity := by
    have bound := run.balance_le_capacity
    linarith
  simp only [step]
  rw [show run.bucket.tryAcquire run.now = (true, _) from if_pos enough]
  exact balance_of_refilled rfl fits

/-- No token is taken if there is none. -/
theorem balance_tryAcquire_of_lt {run : BucketRun ℚ} (few : run.balance < 1) :
    (run.step .tryAcquire).2.balance = run.balance := by
  simp only [step]
  rw [show run.bucket.tryAcquire run.now = (false, _) from if_neg (not_le.mpr few)]
  exact balance_of_refilled rfl run.balance_le_capacity

/-- Looking at the balance does not change it. -/
theorem balance_available (run : BucketRun ℚ) :
    (run.step .available).2.balance = run.balance :=
  balance_of_refilled rfl run.balance_le_capacity

end BucketRun

end Outbound
