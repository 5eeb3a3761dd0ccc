/-! # The value of a double

A finite double is a whole number times a power of two. Reading its bits that way lets every later
rounding be done on whole numbers.

* `Double.magnitude?` is the absolute value of a finite double.
* `Binary.timesNearest` is a multiple of a value, rounded to the nearest whole number with ties to
  the even one. -/

namespace Outbound

/-- The non-negative number `mantissa * 2 ^ exponent`. -/
structure Binary where
  /-- The whole-number factor. -/
  mantissa : Nat
  /-- The exponent of two. -/
  exponent : Int
  deriving DecidableEq, Repr

namespace Double

/-- The bits of a double as a natural number. -/
def bits (value : Float) : Nat := value.toBits.toNat

/-- The leading bit of a mantissa, which is not stored. -/
def hiddenBit : Nat := 0x10000000000000

/-- Whether the sign bit is set; it is for a negative zero too. -/
def signBit (value : Float) : Bool := bits value >>> 63 == 1

/-- The biased exponent of a double: 2047 for infinities and not-a-number. -/
def biasedExponent (value : Float) : Nat := (bits value >>> 52) % 2048

/-- The fraction field of a double. -/
def fraction (value : Float) : Nat := bits value % hiddenBit

/-- The absolute value of a finite double. -/
def magnitude? (value : Float) : Option Binary :=
  match biasedExponent value with
  | 0 => some ⟨fraction value, -1074⟩
  | biased + 1 =>
      if biased + 1 = 2047 then none else some ⟨fraction value + hiddenBit, biased - 1074⟩

/-- Whether a double is neither infinite nor not-a-number. -/
def isFinite (value : Float) : Bool := (magnitude? value).isSome

end Double

/-! ## Rounding to whole numbers -/

/-- The quotient rounded to the nearest whole number, a half going to the even one. -/
def divNearestEven (numerator denominator : Nat) : Nat :=
  let quotient := numerator / denominator
  let remainder := numerator % denominator
  if 2 * remainder < denominator then quotient
  else if denominator < 2 * remainder then quotient + 1
  else quotient + quotient % 2

/-- The value times a whole number, rounded to the nearest whole number with ties to the even. -/
def Binary.timesNearest (value : Binary) (factor : Nat) : Nat :=
  match value.exponent with
  | .ofNat power => (value.mantissa * factor) <<< power
  | .negSucc power => divNearestEven (value.mantissa * factor) (1 <<< (power + 1))

end Outbound
