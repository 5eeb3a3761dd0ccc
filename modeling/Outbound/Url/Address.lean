import Outbound.Text.Hex

/-! # Host addresses

Hosts may be written as numeric addresses. A version 4 address has up to four numbers, each in
decimal, octal or hexadecimal, the last of which fills the bytes that are left. A version 6 address
has eight groups of hexadecimal digits; one run of zero groups may be left out, and the last two
groups may be written as four decimal numbers.

* `Ipv4.endsInNumber` tells which domains must be version 4 addresses, and `Ipv4.isAddress` which
  are.
* `Ipv6.isAddress` tells the texts of version 6 addresses. -/

namespace Outbound

namespace Ipv4

/-- The number a part of an address writes, if it writes one: hexadecimal behind `0x`, octal behind
a zero, decimal otherwise. A lone `0x` writes zero. -/
def number? (part : List Char) : Option Nat :=
  match part with
  | [] => none
  | '0' :: 'x' :: digits | '0' :: 'X' :: digits =>
      if digits.all isHexDigit then some (numberInBase 16 digits) else none
  | '0' :: digit :: digits =>
      if (digit :: digits).all fun character => '0' ≤ character && character ≤ '7' then
        some (numberInBase 8 (digit :: digits))
      else none
  | digits => if digits.all Char.isDigit then some (numberInBase 10 digits) else none

/-- The parts of a domain; an empty part at the end does not count. -/
def parts (domain : List Char) : List (List Char) :=
  let all := domain.splitOn '.'
  if all.getLast? = some [] then all.dropLast else all

/-- Whether the last part of a domain is a number, so that the domain has to be an address. -/
def endsInNumber (domain : List Char) : Bool :=
  match (parts domain).getLast? with
  | none => false
  | some [] => false
  | some last => last.all Char.isDigit || (number? last).isSome

/-- Whether a domain is an address: at most four numbers, the last of which fits into the bytes the
others leave, and each other into one byte. -/
def isAddress (domain : List Char) : Bool :=
  let all := parts domain
  match all.mapM number? with
  | none => false
  | some numbers =>
      let room := 1 <<< (8 * (5 - all.length))
      decide (all.length ≤ 4) && numbers.dropLast.all (· ≤ 255)
        && (numbers.getLast?.map fun last => decide (last < room)).getD false

end Ipv4

namespace Ipv6

/-- Whether a text is one group: up to four hexadecimal digits. -/
def isGroup (text : List Char) : Bool :=
  decide (1 ≤ text.length) && decide (text.length ≤ 4) && text.all isHexDigit

/-- Whether a text is a decimal number below 256 without leading zeros. -/
def isDecimalByte (text : List Char) : Bool :=
  decide (1 ≤ text.length) && text.all Char.isDigit && (text == ['0'] || text.head? != some '0')
    && decide (numberInBase 10 text ≤ 255)

/-- Whether a text is four decimal numbers with points between them. -/
def isQuad (text : List Char) : Bool :=
  let numbers := text.splitOn '.'
  numbers.length == 4 && numbers.all isDecimalByte

/-- The number of groups that a text stands for, groups with colons between them; the last two may
be written as four decimal numbers if that is allowed. -/
def groupCount? (quadAllowed : Bool) (text : List Char) : Option Nat :=
  if text.isEmpty then some 0
  else
    let groups := text.splitOn ':'
    let last := groups.getLast?.getD []
    if groups.all isGroup then some groups.length
    else if quadAllowed && groups.dropLast.all isGroup && isQuad last then some (groups.length + 1)
    else none

/-- The text before and behind the first pair of colons. -/
def splitAtGap : List Char → Option (List Char × List Char)
  | ':' :: ':' :: others => some ([], others)
  | character :: others => (splitAtGap others).map fun (front, back) => (character :: front, back)
  | [] => none

/-- Whether a text is a version 6 address. -/
def isAddress (text : List Char) : Bool :=
  match splitAtGap text with
  | none => !text.isEmpty && groupCount? true text == some 8
  | some (front, back) =>
      match groupCount? false front, groupCount? true back with
      | some left, some right => decide (left + right ≤ 7)
      | _, _ => false

end Ipv6

end Outbound
