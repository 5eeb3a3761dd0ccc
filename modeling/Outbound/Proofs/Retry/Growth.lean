import Outbound.Proofs.Retry.Backoff

/-! # How the waits grow

A wait is computed where its factor fits into 32 bits and the product is a duration, it is cut off
at one day, and where it cannot be computed it is one day or nothing at all. Told by one formula, a
wait is always the product of the first wait and a weight of the attempt, cut off at one day: a
factor that does not fit is as good as the whole day, which takes every first wait but the empty one
to the greatest wait. The weights grow with the attempt, and the waits with them.

* `Backoff.weight` is the weight of an attempt and `Backoff.nanos_delay_eq_min` the formula.
* `Backoff.delay_le_delay` compares the waits of two schedules after two attempts.
* `Backoff.delay_shape` puts together the order of the waits, their bound, where they are empty and
  what becomes of them where they cannot be computed. -/

namespace Outbound

namespace Backoff

variable {backoff : Backoff} {attempt later : Nat}

/-! ## Weights -/

/-- The weight of an attempt in its wait: the factor if it fits into 32 bits, and otherwise the
nanoseconds of one day. -/
def weight (attempt : Nat) : Nat := if attempt < 32 then 2 ^ attempt else Duration.day.nanos

/-- The weight of an attempt whose factor fits. -/
theorem weight_of_lt (small : attempt < 32) : weight attempt = 2 ^ attempt := if_pos small

/-- The weight of an attempt whose factor does not fit. -/
theorem weight_of_le (large : 32 ≤ attempt) : weight attempt = Duration.day.nanos :=
  if_neg (Nat.not_lt.mpr large)

/-- Every attempt has some weight. -/
theorem weight_pos (attempt : Nat) : 0 < weight attempt := by
  unfold weight
  split
  · exact Nat.two_pow_pos attempt
  · decide

/-- As long as the factor fits, every later attempt weighs more. The greatest factor that fits is
smaller than the nanoseconds of one day, so that this holds across the boundary as well. -/
theorem weight_lt_weight (earlier : attempt < later) (small : attempt < 32) :
    weight attempt < weight later := by
  rw [weight_of_lt small]
  by_cases fits : later < 32
  · rw [weight_of_lt fits]
    exact Nat.pow_lt_pow_right (by decide) earlier
  · rw [weight_of_le (Nat.le_of_not_lt fits)]
    calc 2 ^ attempt
        ≤ 2 ^ 31 := Nat.pow_le_pow_right (by decide) (by omega)
      _ < Duration.day.nanos := by decide

/-- No later attempt weighs less. -/
theorem weight_le_weight (earlier : attempt ≤ later) : weight attempt ≤ weight later := by
  by_cases small : attempt < 32
  · rcases Nat.lt_or_eq_of_le earlier with before | same
    · exact Nat.le_of_lt (weight_lt_weight before small)
    · rw [same]
  · have large : 32 ≤ attempt := Nat.le_of_not_lt small
    rw [weight_of_le large, weight_of_le (Nat.le_trans large earlier)]

/-! ## Waits by weights -/

/-- A first wait that is not empty has some nanoseconds. -/
theorem nanos_initial_pos (nonempty : backoff.initial ≠ 0) : 0 < backoff.initial.nanos :=
  Nat.pos_of_ne_zero fun zero => nonempty (Duration.ext zero)

/-- A wait is the first one times the weight of the attempt, up to one day. -/
theorem nanos_delay_eq_min (backoff : Backoff) (attempt : Nat) :
    (backoff.delay attempt).nanos
      = min (backoff.initial.nanos * weight attempt) Duration.day.nanos := by
  rw [nanos_delay]
  by_cases small : attempt < 32
  · rw [if_pos (.inl small), doubled, weight_of_lt small]
  · rw [weight_of_le (Nat.le_of_not_lt small)]
    by_cases empty : backoff.initial = 0
    · rw [if_pos (.inr empty), doubled_of_empty backoff empty, empty, Duration.nanos_zero,
        Nat.zero_mul, Nat.zero_min]
    · rw [if_neg (not_or_intro small empty),
        Nat.min_eq_right (Nat.le_mul_of_pos_left _ (nanos_initial_pos empty))]

/-- A schedule with a longer first wait waits no shorter, and no shorter after a later attempt. -/
theorem delay_le_delay {other : Backoff} (shorter : backoff.initial ≤ other.initial)
    (earlier : attempt ≤ later) : backoff.delay attempt ≤ other.delay later := by
  rw [Duration.le_iff, nanos_delay_eq_min, nanos_delay_eq_min]
  exact min_le_min_right _ (Nat.mul_le_mul shorter (weight_le_weight earlier))

/-- A schedule has an empty wait only if its first wait is empty, and then it has no other ones. -/
theorem delay_eq_zero_iff : backoff.delay attempt = 0 ↔ backoff.initial = 0 := by
  have day : Duration.day.nanos ≠ 0 := by decide
  have weighs : weight attempt ≠ 0 := Nat.ne_of_gt (weight_pos attempt)
  rw [Duration.ext_iff, nanos_delay_eq_min, Duration.nanos_zero, Nat.min_eq_zero_iff,
    or_iff_left day, Nat.mul_eq_zero, or_iff_left weighs, Duration.ext_iff, Duration.nanos_zero]

/-- A schedule with a first wait that is not empty waits longer after every later attempt, until it
waits for one day. -/
theorem delay_lt_delay (nonempty : backoff.initial ≠ 0) (earlier : attempt < later) :
    backoff.delay attempt < backoff.delay later ∨ backoff.delay later = .day := by
  -- Below the cut the later wait is its product; a factor that does not fit is never below it.
  by_cases reached : Duration.day.nanos ≤ backoff.initial.nanos * weight later
  · right
    rw [Duration.ext_iff, nanos_delay_eq_min, Nat.min_eq_right reached]
  · by_cases small : attempt < 32
    · left
      calc (backoff.delay attempt).nanos
          ≤ backoff.initial.nanos * weight attempt := by
            rw [nanos_delay_eq_min]
            exact Nat.min_le_left _ _
        _ < backoff.initial.nanos * weight later :=
            Nat.mul_lt_mul_of_pos_left (weight_lt_weight earlier small) (nanos_initial_pos nonempty)
        _ = (backoff.delay later).nanos := by
            rw [nanos_delay_eq_min, Nat.min_eq_left (Nat.le_of_not_le reached)]
    · right
      rw [delay_of_le backoff (by omega), if_neg nonempty]

/-- Where a wait cannot be computed, it is the greatest of its schedule. -/
theorem delay_le_of_overflow (overflow : (factor? attempt).bind backoff.initial.times? = none)
    (other : Nat) : backoff.delay other ≤ backoff.delay attempt := by
  by_cases empty : backoff.initial = 0
  · rw [delay_eq_zero_iff.mpr empty, delay_eq_zero_iff.mpr empty]
    exact Nat.le_refl _
  · have greatest : backoff.delay attempt = .day := by
      rw [delay, overflow]
      exact if_neg empty
    rw [greatest]
    exact delay_le_day backoff other

/-! ## The shape of a schedule -/

/-- The shape of a schedule. No wait is shorter than one before it, and none is longer than one day.
A longer first wait makes no wait shorter. A wait is empty just if the first one is. Where a wait
cannot be computed, because its factor does not fit into 32 bits or because the product is not a
duration any more, no wait of the schedule is longer. And a schedule that is not empty does grow:
each wait is longer than those before it, until it is one day. -/
theorem delay_shape (backoff : Backoff) :
    (∀ attempt later, attempt ≤ later →
      backoff.delay attempt ≤ backoff.delay later ∧ backoff.delay later ≤ .day) ∧
    (∀ other : Backoff, backoff.initial ≤ other.initial →
      ∀ attempt, backoff.delay attempt ≤ other.delay attempt) ∧
    (∀ attempt, backoff.delay attempt = 0 ↔ backoff.initial = 0) ∧
    (∀ attempt, (factor? attempt).bind backoff.initial.times? = none →
      ∀ other, backoff.delay other ≤ backoff.delay attempt) ∧
    (backoff.initial ≠ 0 → ∀ attempt later, attempt < later →
      backoff.delay attempt < backoff.delay later ∨ backoff.delay later = .day) := by
  refine ⟨?_, ?_, ?_, ?_, ?_⟩
  · intro attempt later earlier
    exact ⟨delay_le_delay (Nat.le_refl _) earlier, delay_le_day backoff later⟩
  · intro other shorter attempt
    exact delay_le_delay shorter (Nat.le_refl attempt)
  · intro attempt
    exact delay_eq_zero_iff
  · intro attempt overflow
    exact delay_le_of_overflow overflow
  · intro nonempty attempt later
    exact delay_lt_delay nonempty

/-- The shape around the first factor that does not fit, for first waits of one and of two
nanoseconds, and around the first product that is not a duration, for the longest first wait. -/
theorem delay_shape_nanosecond :
    (31 ≤ 32 ∧ (Backoff.mk ⟨1⟩).delay 31 ≤ (Backoff.mk ⟨1⟩).delay 32 ∧
      (Backoff.mk ⟨1⟩).delay 32 ≤ .day) ∧
    ((⟨1⟩ : Duration) ≤ ⟨2⟩ ∧ (Backoff.mk ⟨1⟩).delay 31 ≤ (Backoff.mk ⟨2⟩).delay 31) ∧
    ((factor? 32).bind (Duration.mk 1).times? = none ∧
      (Backoff.mk ⟨1⟩).delay 40 ≤ (Backoff.mk ⟨1⟩).delay 32) ∧
    ((factor? 1).bind Duration.longest.times? = none ∧
      (Backoff.mk .longest).delay 40 ≤ (Backoff.mk .longest).delay 1) ∧
    ((⟨1⟩ : Duration) ≠ 0 ∧ 30 < 31 ∧ (Backoff.mk ⟨1⟩).delay 30 < (Backoff.mk ⟨1⟩).delay 31) := by
  have nanosecond := delay_shape ⟨⟨1⟩⟩
  have longest := delay_shape ⟨.longest⟩
  have noFactor : (factor? 32).bind (Duration.mk 1).times? = none := by decide
  have noProduct : (factor? 1).bind Duration.longest.times? = none := by decide
  have grown := nanosecond.2.2.2.2 (by decide) 30 31 (by decide)
  refine ⟨⟨by decide, nanosecond.1 31 32 (by decide)⟩,
    ⟨by decide, nanosecond.2.1 ⟨⟨2⟩⟩ (by decide) 31⟩,
    ⟨noFactor, nanosecond.2.2.2.1 32 noFactor 40⟩,
    ⟨noProduct, longest.2.2.2.1 1 noProduct 40⟩,
    by decide, by decide, grown.resolve_right (by decide)⟩

end Backoff

end Outbound
