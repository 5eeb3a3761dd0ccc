/-! # Hexadecimal digits

Identifiers, addresses and escapes are written in hexadecimal digits of ASCII.

* `isHexDigit` tells the digits, `hexValue` gives their values, `numberInBase` reads several.
* `hexText` writes a number, `bytesOfHex` reads bytes and `hexOfBytes` writes them. -/

namespace Outbound

/-- Whether a character is a hexadecimal digit of ASCII. -/
def isHexDigit (character : Char) : Bool :=
  character.isDigit || ('a' ≤ character && character ≤ 'f') || ('A' ≤ character && character ≤ 'F')

/-- The value of a hexadecimal digit. -/
def hexValue (digit : Char) : Nat :=
  if digit.isDigit then digit.toNat - '0'.toNat
  else if 'a' ≤ digit then digit.toNat - 'a'.toNat + 10
  else digit.toNat - 'A'.toNat + 10

/-- The number written by digits in a base. -/
def numberInBase (base : Nat) (digits : List Char) : Nat :=
  digits.foldl (fun number digit => number * base + hexValue digit) 0

/-- A number in hexadecimal digits, with zeros in front up to a width. -/
def hexText (width number : Nat) : String :=
  let digits := Nat.toDigits 16 number
  String.ofList (List.replicate (width - digits.length) '0' ++ digits)

/-- The bytes written by pairs of digits. -/
def bytesOfHex : List Char → List UInt8
  | high :: low :: others => UInt8.ofNat (numberInBase 16 [high, low]) :: bytesOfHex others
  | _ => []

/-- Bytes in pairs of digits. -/
def hexOfBytes (bytes : List UInt8) : String :=
  String.join (bytes.map fun byte => hexText 2 byte.toNat)

end Outbound
