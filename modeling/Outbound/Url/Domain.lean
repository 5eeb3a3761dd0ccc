import Outbound.Bytes
import Outbound.Text.Hex

/-! # Domains

A host that is no address is a domain: percent escapes are decoded, the characters are folded to
their plain lower-case form, and what is left must be free of the characters that separate the parts
of a locator. A label that starts with `xn--` must be readable as an encoded label.

Each character is judged alone. Rules that look at its neighbours are left out, in both directions:
a joiner is refused wherever it stands, also in a label where the letters around it would allow it
(`xn--mgba3gch31f060k`), and a label is accepted whatever its writing directions are and whether or
not its characters are composed.

* `Domain.ofHost?` folds and checks a host.
* `Punycode.decode?` reads an encoded label, by recursion on what is left of it. -/

namespace Outbound

/-! ## Percent escapes -/

/-- The bytes with each percent sign before two hexadecimal digits read as the byte they write. -/
def percentDecode : Bytes → Bytes
  | 0x25 :: first :: second :: others =>
      let high := Char.ofNat first.toNat
      let low := Char.ofNat second.toNat
      if isHexDigit high && isHexDigit low then
        UInt8.ofNat (hexValue high * 16 + hexValue low) :: percentDecode others
      else 0x25 :: percentDecode (first :: second :: others)
  | byte :: others => byte :: percentDecode others
  | [] => []

/-! ## Encoded labels -/

namespace Punycode

/-- The value of a digit of an encoded label. -/
def digit? (character : Char) : Option Nat :=
  if 'a' ≤ character && character ≤ 'z' then some (character.toNat - 'a'.toNat)
  else if 'A' ≤ character && character ≤ 'Z' then some (character.toNat - 'A'.toNat)
  else if character.isDigit then some (character.toNat - '0'.toNat + 26)
  else none

/-- The threshold of a digit at a position, which the bias shifts. -/
def threshold (position bias : Nat) : Nat :=
  if position ≤ bias then 1 else if bias + 26 ≤ position then 26 else position - bias

/-- Divides a delta by thirty-five until it is small; the bound limits the divisions. -/
def shrink (delta steps : Nat) : Nat → Nat × Nat
  | 0 => (delta, steps)
  | bound + 1 => if 455 < delta then shrink (delta / 35) (steps + 36) bound else (delta, steps)

/-- The bias after a delta. -/
def adapt (delta count : Nat) (first : Bool) : Nat :=
  let halved := if first then delta / 700 else delta / 2
  let start := halved + halved / count
  let (rest, steps) := shrink start 0 (start.log2 + 1)
  steps + 36 * rest / (rest + 38)

/-- Reads one delta: digits up to the first one below its threshold. -/
def delta? (bias : Nat) : List Char → (position weight sum : Nat) → Option (Nat × List Char)
  | [], _, _, _ => none
  | character :: others, position, weight, sum =>
      match digit? character with
      | none => none
      | some value =>
          let limit := threshold position bias
          let total := sum + value * weight
          if value < limit then some (total, others)
          else delta? bias others (position + 36) (weight * (36 - limit)) total

/-- Reads the deltas and inserts the characters they stand for; the bound limits their number. -/
def insertAll (text : List Char) (code index bias : Nat) (characters : List Char) :
    Nat → Option (List Char)
  | 0 => if text.isEmpty then some characters else none
  | bound + 1 =>
      if text.isEmpty then some characters
      else
        match delta? bias text 36 1 index with
        | none => none
        | some (position, others) =>
            let count := characters.length + 1
            let code := code + position / count
            let place := position % count
            if code < 0x110000 ∧ ¬ (0xD800 ≤ code ∧ code < 0xE000) then
              insertAll others code (place + 1) (adapt (position - index) count (index == 0))
                (characters.take place ++ Char.ofNat code :: characters.drop place) bound
            else none

/-- The characters of an encoded label. -/
def decode? (text : List Char) : Option (List Char) :=
  let behind := (text.reverse.takeWhile (· != '-')).reverse
  let plain := text.take (text.length - behind.length - 1)
  insertAll behind 128 0 72 plain behind.length

end Punycode

/-! ## Characters of a domain -/

namespace Domain

/-- The characters of ASCII that may not stand in a domain, controls aside. -/
def separators : List Char := " #%/:<>?@[\\]^|".toList

/-- The ranges of characters beyond ASCII that may not stand in a domain: controls, blanks, joiners,
directions, private use and what is no character. The joiners (`0x200C` and `0x200D`) are refused
here whatever their neighbours are, which is narrower than the rule for domains. -/
def refused : List (Nat × Nat) :=
  [(0x80, 0xA0), (0x1680, 0x1680), (0x2000, 0x200A), (0x200C, 0x200F), (0x2028, 0x202F),
    (0x205F, 0x205F), (0x2061, 0x2063), (0x2065, 0x206F), (0x3000, 0x3000), (0xE000, 0xF8FF),
    (0xFDD0, 0xFDEF), (0xFFF0, 0xFFFF), (0xE0000, 0x10FFFF)]

/-- The ranges of characters that are left out of a domain. -/
def ignored : List (Nat × Nat) :=
  [(0xAD, 0xAD), (0x34F, 0x34F), (0x200B, 0x200B), (0x2060, 0x2060), (0x2064, 0x2064),
    (0xFE00, 0xFE0F), (0xFEFF, 0xFEFF)]

/-- Whether a character lies in one of some ranges. -/
def within (ranges : List (Nat × Nat)) (character : Char) : Bool :=
  ranges.any fun (first, last) => first ≤ character.toNat && character.toNat ≤ last

/-- The plain form of a character: lower case, full-width forms as ASCII, and one kind of full stop;
nothing for a character that is left out. -/
def fold (character : Char) : List Char :=
  let code := character.toNat
  if within ignored character then []
  else if code = 0x3002 ∨ code = 0xFF61 then ['.']
  else if 0xFF01 ≤ code ∧ code ≤ 0xFF5E then [(Char.ofNat (code - 0xFEE0)).toLower]
  else [character.toLower]

/-- Whether a folded character may stand in a domain. -/
def isAllowed (character : Char) : Bool :=
  if character.toNat < 0x80 then
    decide (0x20 < character.toNat) && character.toNat != 0x7F && !separators.contains character
  else !within refused character

/-- Whether a label is written out, or encoded in a way that can be read and was needed. -/
def isLabel (label : List Char) : Bool :=
  if label.take 4 = "xn--".toList then
    match Punycode.decode? (label.drop 4) with
    | none => false
    | some characters =>
        (characters.any fun character => decide (0x80 ≤ character.toNat))
          && characters.all isAllowed
  else true

/-- The domain a host stands for, if it stands for one. -/
def ofHost? (host : String) : Option (List Char) := do
  let text ← (percentDecode (Bytes.ofText host)).text?
  let domain := text.toList.flatMap fold
  if domain.all isAllowed && (domain.splitOn '.').all isLabel then some domain else none

end Domain

end Outbound
