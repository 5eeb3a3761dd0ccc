import Mathlib.Algebra.Group.Nat.Defs
import Mathlib.Order.MinMax
import Outbound.Backoff

/-! # How the waits double

The wait of the schedule doubles with every attempt and is cut off at one day. The factor is counted
in 32 bits, so it cannot be written down from the attempt of number 32 on. From there on a schedule
waits for a whole day, however short its first wait was; only an empty first wait stays empty.

* `Backoff.doubled` is the wait of a schedule that doubles without bounds and is cut off at one day.
* `Backoff.nanos_delay` computes the wait of every attempt from it.
* `Backoff.doubles_iff` says at which attempts, and for which first waits, the schedule doubles. -/

namespace Outbound

namespace Backoff

variable (backoff : Backoff) {attempt : Nat}

/-- The nanoseconds of a wait that doubles with every attempt, up to one day. -/
def doubled (attempt : Nat) : Nat := min (backoff.initial.nanos * 2 ^ attempt) Duration.day.nanos

/-! ## The factor -/

/-- The factor of the first 32 attempts fits. -/
theorem factor?_of_lt (small : attempt < 32) : factor? attempt = some (2 ^ attempt) := by
  rw [factor?, if_pos small, Nat.one_shiftLeft]

/-- No later factor fits. -/
theorem factor?_of_le (large : 32 ≤ attempt) : factor? attempt = none :=
  if_neg (Nat.not_lt.mpr large)

/-! ## The wait -/

/-- A schedule whose first wait is empty has empty waits only. -/
theorem doubled_of_empty (empty : backoff.initial = 0) : backoff.doubled attempt = 0 := by
  rw [doubled, empty, Duration.nanos_zero, Nat.zero_mul, Nat.zero_min]

/-- The waits after the first 32 attempts double. A product that is not a duration any more is
longer than one day, so that nothing is lost there. -/
theorem nanos_delay_of_lt (small : attempt < 32) :
    (backoff.delay attempt).nanos = backoff.doubled attempt := by
  rw [delay, factor?_of_lt small, Option.bind_some, Duration.times?, doubled]
  by_cases fits : (⟨backoff.initial.nanos * 2 ^ attempt⟩ : Duration) ≤ Duration.longest
  · rw [if_pos fits]
    exact Duration.nanos_min _ _
  · have long : Duration.longest.nanos < backoff.initial.nanos * 2 ^ attempt :=
      Nat.lt_of_not_le fits
    have dayShorter : Duration.day.nanos < Duration.longest.nanos := by decide
    have nonempty : backoff.initial ≠ 0 := by
      intro empty
      rw [empty, Duration.nanos_zero, Nat.zero_mul] at long
      omega
    rw [if_neg fits, Nat.min_eq_right (by omega)]
    exact congrArg Duration.nanos (if_neg nonempty)

/-- The waits after all later attempts are one day, unless the first wait is empty. -/
theorem delay_of_le (large : 32 ≤ attempt) :
    backoff.delay attempt = if backoff.initial = 0 then 0 else .day := by
  rw [delay, factor?_of_le large, Option.bind_none]

/-- The wait after any attempt. -/
theorem nanos_delay (attempt : Nat) :
    (backoff.delay attempt).nanos =
      if attempt < 32 ∨ backoff.initial = 0 then backoff.doubled attempt
      else Duration.day.nanos := by
  by_cases small : attempt < 32
  · rw [if_pos (.inl small), nanos_delay_of_lt backoff small]
  · rw [delay_of_le backoff (Nat.le_of_not_lt small)]
    by_cases empty : backoff.initial = 0
    · rw [if_pos empty, if_pos (.inr empty), doubled_of_empty backoff empty, Duration.nanos_zero]
    · rw [if_neg empty, if_neg (not_or_intro small empty)]

/-! ## Where the waits double -/

/-- A wait is what doubling makes of the first one if its factor fits, if the first wait is empty,
or if the product reaches one day, and in no other case. -/
theorem nanos_delay_eq_doubled_iff (attempt : Nat) :
    (backoff.delay attempt).nanos = backoff.doubled attempt ↔
      attempt < 32 ∨ backoff.initial = 0 ∨
        Duration.day.nanos ≤ backoff.initial.nanos * 2 ^ attempt := by
  rw [nanos_delay, ← or_assoc]
  by_cases exact : attempt < 32 ∨ backoff.initial = 0
  · rw [if_pos exact]
    exact iff_of_true rfl (.inl exact)
  · rw [if_neg exact, doubled, eq_comm, min_eq_right_iff]
    exact (or_iff_right exact).symm

/-- A first wait that doubles to one day within 32 attempts is one of at least 20117 nanoseconds. -/
theorem day_le_iff {nanos : Nat} : Duration.day.nanos ≤ nanos * 2 ^ 32 ↔ 20117 ≤ nanos := by
  have day : Duration.day.nanos = 86400000000000 := rfl
  omega

/-- The law of the schedule. A wait is one day or, where its factor fits into 32 bits or the first
wait is empty, what doubling makes of the first one, up to one day. These two differ just where the
factor does not fit and the product is still shorter than one day. A schedule doubles all along just
if its first wait is empty or reaches one day within 32 attempts. -/
theorem doubles_iff (backoff : Backoff) :
    (∀ attempt, (backoff.delay attempt).nanos =
      if attempt < 32 ∨ backoff.initial = 0 then
        min (backoff.initial.nanos * 2 ^ attempt) Duration.day.nanos
      else Duration.day.nanos) ∧
    (∀ attempt,
      (backoff.delay attempt).nanos
          = min (backoff.initial.nanos * 2 ^ attempt) Duration.day.nanos ↔
        attempt < 32 ∨ backoff.initial = 0 ∨
          Duration.day.nanos ≤ backoff.initial.nanos * 2 ^ attempt) ∧
    ((∀ attempt, (backoff.delay attempt).nanos
        = min (backoff.initial.nanos * 2 ^ attempt) Duration.day.nanos) ↔
      backoff.initial = 0 ∨ 20117 ≤ backoff.initial.nanos) := by
  refine ⟨backoff.nanos_delay, backoff.nanos_delay_eq_doubled_iff, ?_, ?_⟩
  · intro always
    -- The first factor that does not fit decides.
    rcases (backoff.nanos_delay_eq_doubled_iff 32).mp (always 32) with small | empty | reached
    · exact absurd small (Nat.lt_irrefl 32)
    · exact .inl empty
    · exact .inr (day_le_iff.mp reached)
  · intro known attempt
    refine (backoff.nanos_delay_eq_doubled_iff attempt).mpr ?_
    by_cases small : attempt < 32
    · exact .inl small
    · rcases known with empty | long
      · exact .inr (.inl empty)
      · right
        right
        calc Duration.day.nanos
            ≤ backoff.initial.nanos * 2 ^ 32 := day_le_iff.mpr long
          _ ≤ backoff.initial.nanos * 2 ^ attempt :=
              Nat.mul_le_mul_left _ (Nat.pow_le_pow_right (by decide) (Nat.le_of_not_lt small))

/-- Not every wait is what doubling makes of the first one. A first wait of one nanosecond doubles
up to about two seconds and then jumps to one day, where doubling makes four seconds of it. -/
theorem not_doubling_of_nanosecond :
    ¬ ∀ (backoff : Backoff) (attempt : Nat),
        backoff.initial ≤ Duration.longest → attempt < UInt64.size →
          (backoff.delay attempt).nanos
            = min (backoff.initial.nanos * 2 ^ attempt) Duration.day.nanos := by
  intro all
  have jumped : (Backoff.mk ⟨1⟩).delay 32 = .day := by decide
  have fourSeconds : min (1 * 2 ^ 32) Duration.day.nanos = 4294967296 := by decide
  have same : ((Backoff.mk ⟨1⟩).delay 32).nanos = min (1 * 2 ^ 32) Duration.day.nanos :=
    all ⟨⟨1⟩⟩ 32 (by decide) (by decide)
  rw [jumped, fourSeconds] at same
  exact absurd same (by decide)

end Backoff

end Outbound
