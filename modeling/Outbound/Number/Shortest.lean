import Outbound.Number.Double

/-! # Shortest decimals

The decimal with the fewest digits that reads back as a given double. All doubles nearer to a value
than to its neighbours form an interval, and a decimal of `count` digits lies in it exactly if one
of the two decimals around the value on that grid does, so the two are tested for one digit, then
for two, and so on.

* `Decimal.shortest` finds the decimal, of two hits on one grid the nearer.
* `Decimal.positional` writes it without an exponent.
* `Decimal.compact` writes it with a decimal point, and with an exponent if it is very large or
  very small. -/

namespace Outbound

/-- The non-negative number `digits * 10 ^ exponent`. -/
structure Decimal where
  /-- The digits, as a whole number. -/
  digits : Nat
  /-- The exponent of ten. -/
  exponent : Int
  deriving DecidableEq, Repr

/-- A power of ten. -/
def powerOfTen (exponent : Nat) : Nat := Nat.pow 10 exponent

/-- Which of two equally near decimals is taken. -/
inductive Tie where
  /-- The greater one. -/
  | up
  /-- The one with an even last digit. -/
  | even
  deriving DecidableEq, Repr

/-- A positive value and the interval of the numbers that round to it, over one denominator. -/
structure RoundingInterval where
  /-- The lower end times the denominator. -/
  low : Nat
  /-- The value times the denominator. -/
  middle : Nat
  /-- The upper end times the denominator. -/
  high : Nat
  /-- The common denominator. -/
  denominator : Nat
  /-- Whether the ends themselves round to the value. -/
  closed : Bool

namespace RoundingInterval

/-- The interval of a double: half way to its neighbours on either side. Below a power of two the
neighbour is twice as near. An end rounds to the mantissa that is even. -/
def ofBinary (value : Binary) : RoundingInterval :=
  let lowStep := if value.mantissa = Double.hiddenBit ∧ value.exponent ≠ -1074 then 1 else 2
  let scale : Nat := 1 <<< (value.exponent - 2).toNat
  { low := (4 * value.mantissa - lowStep) * scale
    middle := 4 * value.mantissa * scale
    high := (4 * value.mantissa + 2) * scale
    denominator := 1 <<< (2 - value.exponent).toNat
    closed := value.mantissa % 2 == 0 }

/-- The exponent of the leading decimal digit of the value. -/
def leadingExponent (interval : RoundingInterval) : Int :=
  let whole := interval.middle / interval.denominator
  if whole ≠ 0 then (Nat.toDigits 10 whole).length - 1
  else
    let inverse := (interval.denominator + interval.middle - 1) / interval.middle
    Int.negOfNat (Nat.toDigits 10 (inverse - 1)).length

/-- Whether a decimal lies in the interval. -/
def contains (interval : RoundingInterval) (decimal : Decimal) : Bool :=
  let scaled := decimal.digits * powerOfTen decimal.exponent.toNat * interval.denominator
  let unit := powerOfTen (-decimal.exponent).toNat
  if interval.closed then
    decide (interval.low * unit ≤ scaled) && decide (scaled ≤ interval.high * unit)
  else decide (interval.low * unit < scaled) && decide (scaled < interval.high * unit)

/-- The digits of the greatest decimal with a given exponent that is not above the value. -/
def floorDigits (interval : RoundingInterval) (exponent : Int) : Nat :=
  interval.middle * powerOfTen (-exponent).toNat
    / (interval.denominator * powerOfTen exponent.toNat)

/-- The decimal of a given exponent nearest to the value that reads back as it, if there is one. -/
def nearest? (interval : RoundingInterval) (tie : Tie) (exponent : Int) : Option Decimal :=
  let below : Decimal := ⟨interval.floorDigits exponent, exponent⟩
  let above : Decimal := ⟨below.digits + 1, exponent⟩
  let remainder :=
    interval.middle * powerOfTen (-exponent).toNat
      % (interval.denominator * powerOfTen exponent.toNat)
  let middle := interval.denominator * powerOfTen exponent.toNat
  let takeBelow :=
    if 2 * remainder = middle then
      match tie with
      | .up => false
      | .even => below.digits % 2 == 0
    else decide (2 * remainder < middle)
  match interval.contains below, interval.contains above with
  | true, true => some (if takeBelow then below else above)
  | true, false => some below
  | false, true => some above
  | false, false => none

end RoundingInterval

namespace Decimal

/-- The same number without closing zeros among its digits; the bound limits the zeros removed. -/
def trimmed (decimal : Decimal) : Nat → Decimal
  | 0 => decimal
  | bound + 1 =>
      if decimal.digits ≠ 0 ∧ decimal.digits % 10 = 0 then
        trimmed ⟨decimal.digits / 10, decimal.exponent + 1⟩ bound
      else decimal

/-- The decimal with the fewest digits that reads back as the value, of those the nearest.
Seventeen digits are always enough. -/
def shortest (tie : Tie) (value : Binary) : Decimal :=
  if value.mantissa = 0 then ⟨0, 0⟩
  else
    let interval := RoundingInterval.ofBinary value
    let lead := interval.leadingExponent
    let found :=
      (List.range 17).findSome? fun further => interval.nearest? tie (lead - (further : Nat))
    (found.getD ⟨interval.floorDigits (lead - 16), lead - 16⟩).trimmed 17

/-! ## Text -/

/-- The digits without an exponent: zeros are added up to the decimal point, and the point is only
written if digits follow it. -/
def positional (decimal : Decimal) : String :=
  let digits := Nat.toDigits 10 decimal.digits
  match decimal.exponent with
  | .ofNat zeros =>
      if decimal.digits = 0 then "0" else String.ofList (digits ++ List.replicate zeros '0')
  | .negSucc further =>
      let places := further + 1
      let padded := List.replicate (places + 1 - digits.length) '0' ++ digits
      let whole := padded.length - places
      String.ofList (padded.take whole) ++ "." ++ String.ofList (padded.drop whole)

/-- The digits with a decimal point. From `10 ^ -5` up to `10 ^ 16` the number is written out, with
at least one decimal; beyond that one digit stands before the point and an exponent follows. -/
def compact (decimal : Decimal) : String :=
  let digits := Nat.toDigits 10 decimal.digits
  let lead : Int := decimal.exponent + digits.length - 1
  if -5 ≤ lead ∧ lead ≤ 15 then
    if decimal.exponent < 0 then decimal.positional else decimal.positional ++ ".0"
  else
    let fraction := digits.drop 1
    String.ofList (digits.take 1)
      ++ (if fraction.isEmpty then "" else "." ++ String.ofList fraction)
      ++ "e" ++ (if lead < 0 then "-" else "+") ++ toString lead.natAbs

end Decimal

namespace Double

/-- The sign of a number as it is written. -/
def signText (value : Float) : String := if signBit value then "-" else ""

/-- A double without an exponent, in the fewest digits that read back. -/
def positionalText (value : Float) : String :=
  match magnitude? value with
  | some size => signText value ++ (Decimal.shortest .up size).positional
  | none => if value.isNaN then "NaN" else signText value ++ "inf"

/-- A finite double with a decimal point or an exponent, in the fewest digits that read back. -/
def compactText (value : Float) : String :=
  match magnitude? value with
  | some size => signText value ++ (Decimal.shortest .even size).compact
  | none => if value.isNaN then "NaN" else signText value ++ "inf"

end Double

end Outbound
