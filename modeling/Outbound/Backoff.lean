import Outbound.Time
import Outbound.Http.Header

/-! # Waits between attempts

The wait after a failed attempt doubles from attempt to attempt. The doubling is done on a 32-bit
factor and a bounded duration; where either of them runs out, the wait is one day, which is also its
greatest value. A server may ask for a wait of its own by a whole number of seconds.

* `Backoff.delay` is the wait after an attempt; `Backoff.delay_le_day` bounds it.
* `RetryAfter.seconds?` reads a whole number of seconds, digit by digit, up to 64 bits;
  `RetryAfter.ofHeaders?` takes it from the first field of that name. -/

namespace Outbound

/-- A schedule of waits, given by its first one. -/
structure Backoff where
  /-- The wait after the first attempt. -/
  initial : Duration
  deriving DecidableEq, Repr

namespace Backoff

/-- The factor of a wait, `2 ^ attempt`, if it fits into 32 bits. -/
def factor? (attempt : Nat) : Option Nat :=
  if attempt < 32 then some (1 <<< attempt) else none

/-- The wait after the attempt of a given number, counted from zero. -/
def delay (backoff : Backoff) (attempt : Nat) : Duration :=
  match (factor? attempt).bind backoff.initial.times? with
  | some product => min product .day
  | none => if backoff.initial = 0 then 0 else .day

/-- No wait is longer than a day. -/
theorem delay_le_day (backoff : Backoff) (attempt : Nat) : backoff.delay attempt ≤ .day := by
  unfold delay
  split
  · rw [Duration.le_iff, Duration.nanos_min]
    omega
  · split
    · decide
    · exact Nat.le_refl _

/-- The schedule as text. -/
def describe (backoff : Backoff) : String :=
  "Backoff \x7b initial: " ++ backoff.initial.describe ++ " \x7d"

end Backoff

namespace RetryAfter

/-- Whether a character is cut off at the ends of a header text. -/
def isBlank (character : Char) : Bool := character == ' ' || character == '\t'

/-- A text without blanks at its ends. -/
def trim (text : List Char) : List Char :=
  ((text.dropWhile isBlank).reverse.dropWhile isBlank).reverse

/-- A number with one more digit, if it stays below `2 ^ 64`. -/
def push? (number : Nat) (digit : Char) : Option Nat :=
  if digit.isDigit then
    let longer := number * 10 + (digit.toNat - '0'.toNat)
    if longer < UInt64.size then some longer else none
  else none

/-- The number written by one or more digits, if it is below `2 ^ 64`. -/
def number? (digits : List Char) : Option Nat :=
  if digits.isEmpty then none else digits.foldlM push? 0

/-- The number written by digits with an optional plus sign. -/
def seconds? (text : List Char) : Option Nat :=
  match text with
  | '+' :: digits => number? digits
  | digits => number? digits

/-- The wait a server asks for by the first field of that name. Anything but a whole number of
seconds asks for nothing. -/
def ofHeaders? (headers : Headers) : Option Duration := do
  let value ← headers.first? .retryAfter
  let text ← value.text?
  let count ← seconds? (trim text)
  return .ofSeconds count

end RetryAfter

end Outbound
