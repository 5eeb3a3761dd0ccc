/-! # Durations and instants

Time is counted in whole nanoseconds. A `Duration` is a length of time and an `Instant` a point on
the clock, which starts at zero.

* `Duration.longest` is the longest duration that can be written down.
* `Instant.tick` is the instant at which a timer fires: on a whole millisecond, and on the last tick
  at the latest. `Instant.min_le_tick` says that no timer fires early but for that.
* `Duration.describe` is the short text of a duration, in its largest fitting unit. -/

namespace Outbound

/-- A length of time, in nanoseconds. -/
@[ext] structure Duration where
  /-- The whole nanoseconds. -/
  nanos : Nat
  deriving DecidableEq, Repr

/-- A point in time, as the nanoseconds since the clock was started. -/
@[ext] structure Instant where
  /-- The nanoseconds since the clock was started. -/
  nanos : Nat
  deriving DecidableEq, Repr

namespace Duration

/-! ## Order and sums -/

instance : LE Duration := ⟨fun left right => left.nanos ≤ right.nanos⟩

instance : LT Duration := ⟨fun left right => left.nanos < right.nanos⟩

instance (left right : Duration) : Decidable (left ≤ right) :=
  inferInstanceAs (Decidable (left.nanos ≤ right.nanos))

instance (left right : Duration) : Decidable (left < right) :=
  inferInstanceAs (Decidable (left.nanos < right.nanos))

instance : Min Duration := ⟨fun left right => if left ≤ right then left else right⟩

instance : Zero Duration := ⟨⟨0⟩⟩

instance : Add Duration := ⟨fun left right => ⟨left.nanos + right.nanos⟩⟩

/-- Durations are ordered as their nanoseconds. -/
theorem le_iff {left right : Duration} : left ≤ right ↔ left.nanos ≤ right.nanos := Iff.rfl

/-- The nanoseconds of the shorter of two durations. -/
@[simp] theorem nanos_min (left right : Duration) :
    (min left right).nanos = min left.nanos right.nanos := by
  show (if left.nanos ≤ right.nanos then left else right).nanos = _
  split <;> omega

/-- The empty duration has no nanoseconds. -/
@[simp] theorem nanos_zero : (0 : Duration).nanos = 0 := rfl

/-- The nanoseconds of a sum. -/
@[simp] theorem nanos_add (left right : Duration) :
    (left + right).nanos = left.nanos + right.nanos := rfl

/-! ## Units -/

/-- A whole number of seconds. -/
def ofSeconds (count : Nat) : Duration := ⟨count * 1000000000⟩

/-- A whole number of milliseconds. -/
def ofMillis (count : Nat) : Duration := ⟨count * 1000000⟩

/-- One day, the longest wait of a bucket and of the backoff schedule. -/
def day : Duration := ofSeconds 86400

/-- About thirty years, the length of a sleep that would leave the range of the clock. -/
def farAhead : Duration := ofSeconds (30 * 365 * 86400)

/-- The longest duration: the greatest 64-bit count of seconds and a nanosecond less than one
second more. -/
def longest : Duration := ⟨UInt64.size * 1000000000 - 1⟩

/-- The whole milliseconds in a duration. -/
def millis (duration : Duration) : Nat := duration.nanos / 1000000

/-- A multiple of a duration, if it is not longer than the longest duration. -/
def times? (duration : Duration) (factor : Nat) : Option Duration :=
  let product : Duration := ⟨duration.nanos * factor⟩
  if product ≤ longest then some product else none

/-! ## Text -/

/-- The fraction `part / 10 ^ places` as a decimal point and its digits, without closing zeros;
empty for a fraction of zero. -/
def fractionText (part places : Nat) : String :=
  let digits := (Nat.toDigits 10 part).reverse
  let padded := (digits ++ List.replicate (places - digits.length) '0').dropWhile (· == '0')
  if padded.isEmpty then "" else "." ++ String.ofList padded.reverse

/-- A duration in its largest unit of which it holds at least one, with the decimals it needs. -/
def describe (duration : Duration) : String :=
  let inUnit (unit places : Nat) (symbol : String) : String :=
    toString (duration.nanos / unit) ++ fractionText (duration.nanos % unit) places ++ symbol
  if 1000000000 ≤ duration.nanos then inUnit 1000000000 9 "s"
  else if 1000000 ≤ duration.nanos then inUnit 1000000 6 "ms"
  else if 1000 ≤ duration.nanos then inUnit 1000 3 "µs"
  else toString duration.nanos ++ "ns"

/-- The sum of durations. -/
def total (durations : List Duration) : Duration := durations.foldl (· + ·) 0

end Duration

namespace Instant

/-! ## The clock -/

/-- The instant at which the clock is started. -/
def start : Instant := ⟨0⟩

instance : LE Instant := ⟨fun left right => left.nanos ≤ right.nanos⟩

instance : LT Instant := ⟨fun left right => left.nanos < right.nanos⟩

instance (left right : Instant) : Decidable (left ≤ right) :=
  inferInstanceAs (Decidable (left.nanos ≤ right.nanos))

instance (left right : Instant) : Decidable (left < right) :=
  inferInstanceAs (Decidable (left.nanos < right.nanos))

instance : Min Instant := ⟨fun left right => if left ≤ right then left else right⟩

instance : Max Instant := ⟨fun left right => if left ≤ right then right else left⟩

/-- Instants are ordered as their nanoseconds. -/
theorem le_iff {left right : Instant} : left ≤ right ↔ left.nanos ≤ right.nanos := Iff.rfl

/-- An instant is before another one just if it has fewer nanoseconds. -/
theorem lt_iff {left right : Instant} : left < right ↔ left.nanos < right.nanos := Iff.rfl

/-- The nanoseconds of the earlier of two instants. -/
@[simp] theorem nanos_min (left right : Instant) :
    (min left right).nanos = min left.nanos right.nanos := by
  show (if left.nanos ≤ right.nanos then left else right).nanos = _
  split <;> omega

/-- The nanoseconds of the later of two instants. -/
@[simp] theorem nanos_max (left right : Instant) :
    (max left right).nanos = max left.nanos right.nanos := by
  show (if left.nanos ≤ right.nanos then right else left).nanos = _
  split <;> omega

/-- The instant a duration later. -/
def after (instant : Instant) (wait : Duration) : Instant := ⟨instant.nanos + wait.nanos⟩

/-- The time gone by since an earlier instant; nothing if that instant is still to come. -/
def since (now earlier : Instant) : Duration := ⟨now.nanos - earlier.nanos⟩

/-- The first whole millisecond that is not before an instant. -/
def wholeMillis (instant : Instant) : Instant := ⟨(instant.nanos + 999999) / 1000000 * 1000000⟩

/-- The last instant at which a timer can fire. Timers count milliseconds in 64 bits, and the two
greatest counts do not stand for instants. -/
def lastTick : Instant := ⟨(UInt64.size - 3) * 1000000⟩

/-- The instant at which a timer fires that is set for an instant: on the first whole millisecond
that is not before it, and on the last tick at the latest. -/
def tick (instant : Instant) : Instant := min instant.wholeMillis lastTick

/-- The nanoseconds of the instant a duration later. -/
@[simp] theorem nanos_after (instant : Instant) (wait : Duration) :
    (instant.after wait).nanos = instant.nanos + wait.nanos := rfl

/-- The nanoseconds of a tick. -/
theorem nanos_tick (instant : Instant) :
    instant.tick.nanos = min instant.wholeMillis.nanos lastTick.nanos := nanos_min ..

/-- No whole millisecond is taken that is before the instant. -/
theorem le_wholeMillis (instant : Instant) : instant ≤ instant.wholeMillis := by
  simp only [le_iff, wholeMillis]
  omega

/-- No timer fires behind the last tick. -/
theorem tick_le_lastTick (instant : Instant) : instant.tick ≤ lastTick := by
  rw [le_iff, nanos_tick]
  exact Nat.min_le_right ..

/-- No timer fires before the instant it was set for, unless that lies behind the last tick. -/
theorem min_le_tick (instant : Instant) : min instant lastTick ≤ instant.tick := by
  have later := le_iff.mp instant.le_wholeMillis
  rw [le_iff, nanos_min, nanos_tick]
  omega

/-- A timer that is set for an instant before the last tick fires on a whole millisecond. -/
theorem tick_of_lt {instant : Instant} (inRange : instant.wholeMillis < lastTick) :
    instant.tick = instant.wholeMillis := by
  rw [Instant.ext_iff, nanos_tick]
  exact Nat.min_eq_left (Nat.le_of_lt inRange)

/-- A timer fires by the tick of another one just if the instant it was set for comes by then, where
an instant behind the last tick counts as that. -/
theorem tick_le_tick_iff {instant other : Instant} :
    instant.tick ≤ other.tick ↔ min instant lastTick ≤ other.tick := by
  simp only [le_iff, tick, wholeMillis, nanos_min]
  omega

end Instant

end Outbound
