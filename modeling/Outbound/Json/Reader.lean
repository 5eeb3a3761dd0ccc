import Outbound.Json.Fault
import Outbound.Text.Hex

/-! # Reading payload values

The value in a payload is read from front to back. A reader answers with what it read and the bytes
behind it, or with a fault. A fault is located either at the last byte taken (`faultAt`) or one byte
further, at the byte looked at (`faultPeek`).

* `Json.readNumber`, `Json.readText` and `Json.readValue` read numbers, texts and whole values.
* `Json.skipValue` passes over a value without keeping it.
* Numbers are scaled by doubles: digits are gathered in 64 bits and the rest only moves the
  exponent. -/

namespace Outbound.Json

/-- A fault at the last byte taken. -/
def faultAt {α : Type} (cause : Cause) (rest : Bytes) : Except Fault α :=
  .error ⟨cause, rest.length⟩

/-- A fault at the byte looked at, or at the end of the payload. -/
def faultPeek {α : Type} (cause : Cause) (rest : Bytes) : Except Fault α :=
  .error ⟨cause, rest.length - 1⟩

/-! ## Characters -/

/-- Whether a byte is a blank between tokens. -/
def isBlank (byte : UInt8) : Bool := byte == 0x20 || byte == 0x0A || byte == 0x09 || byte == 0x0D

/-- The bytes behind leading blanks. -/
def skipBlanks (rest : Bytes) : Bytes := rest.dropWhile isBlank

/-- Whether a byte is a decimal digit. -/
def isDigit (byte : UInt8) : Bool := 0x30 ≤ byte && byte ≤ 0x39

/-- The value of a decimal digit. -/
def digitValue (byte : UInt8) : Nat := byte.toNat - 0x30

/-- Whether a byte starts an exponent. -/
def isExponentMark (byte : UInt8) : Bool := byte == 0x65 || byte == 0x45

/-- Reads the letters of a word, behind its first one. -/
def readWord : Bytes → Bytes → Except Fault Bytes
  | [], rest => .ok rest
  | _ :: _, [] => faultAt .endInValue []
  | letter :: letters, byte :: rest =>
      if byte = letter then readWord letters rest else faultAt .expectedIdent rest

/-- Reads the rest of `null`. -/
def readNull (rest : Bytes) : Except Fault Bytes := readWord [0x75, 0x6C, 0x6C] rest

/-- Reads the rest of `true`. -/
def readTrue (rest : Bytes) : Except Fault Bytes := readWord [0x72, 0x75, 0x65] rest

/-- Reads the rest of `false`. -/
def readFalse (rest : Bytes) : Except Fault Bytes := readWord [0x61, 0x6C, 0x73, 0x65] rest

/-! ## Numbers -/

/-- The greatest number of 64 bits. -/
def maxWord : Nat := UInt64.size - 1

/-- The greatest exponent that is counted. -/
def maxExponent : Nat := 0x7FFFFFFF

/-- A power of ten as a double. -/
def powerOfTen (exponent : Nat) : Float := Float.ofScientific 1 false exponent

/-- A double divided by a power of ten, in steps that powers of ten reach; the bound limits the
steps. Nothing is left of any double after three of them. -/
def divideByTens (value : Float) (exponent : Nat) : Nat → Float
  | 0 => value
  | bound + 1 =>
      if exponent ≤ 308 then value / powerOfTen exponent
      else if value == 0 then value
      else divideByTens (value / powerOfTen 308) (exponent - 308) bound

/-- The double written by digits and an exponent. -/
def scaled (negative : Bool) (digits : Nat) (exponent : Int) (rest : Bytes) :
    Except Fault (Float × Bytes) :=
  let value := Float.ofNat digits
  let signed (size : Float) : Float := if negative then -size else size
  match exponent with
  | .ofNat power =>
      if power ≤ 308 then
        let size := value * powerOfTen power
        if Double.isFinite size then .ok (signed size, rest) else faultAt .numberOutOfRange rest
      else if value == 0 then .ok (signed value, rest)
      else faultAt .numberOutOfRange rest
  | .negSucc further => .ok (signed (divideByTens value (further + 1) 4), rest)

/-- Reads the further digits of an exponent. -/
def readExponentDigits (negative : Bool) (digits : Nat) (start : Int) (down : Bool)
    (exponent : Nat) : Bytes → Except Fault (Float × Bytes)
  | byte :: rest =>
      if isDigit byte then
        let longer := exponent * 10 + digitValue byte
        if longer ≤ maxExponent then readExponentDigits negative digits start down longer rest
        else if digits ≠ 0 && !down then faultAt .numberOutOfRange rest
        else .ok (if negative then -0.0 else 0.0, rest.dropWhile isDigit)
      else
        scaled negative digits (if down then start - exponent else start + exponent) (byte :: rest)
  | [] => scaled negative digits (if down then start - exponent else start + exponent) []

/-- Reads an exponent behind its mark. -/
def readExponent (negative : Bool) (digits : Nat) (start : Int) (rest : Bytes) :
    Except Fault (Float × Bytes) :=
  let down := rest.head? = some 0x2D
  let unsigned := if down || rest.head? = some 0x2B then rest.drop 1 else rest
  match unsigned with
  | [] => faultAt .endInValue []
  | byte :: others =>
      if isDigit byte then readExponentDigits negative digits start down (digitValue byte) others
      else faultAt .invalidNumber others

/-- Goes on behind the digits of a fraction. -/
def afterFraction (negative : Bool) (digits : Nat) (exponent : Int) (rest : Bytes) :
    Except Fault (Float × Bytes) :=
  match rest with
  | byte :: others =>
      if isExponentMark byte then readExponent negative digits exponent others
      else scaled negative digits exponent rest
  | [] => scaled negative digits exponent rest

/-- Reads a fraction behind its point; digits beyond 64 bits are passed over. -/
def readFraction (negative : Bool) (digits : Nat) (start : Int) (places : Nat) :
    Bytes → Except Fault (Float × Bytes)
  | byte :: rest =>
      if isDigit byte then
        let longer := digits * 10 + digitValue byte
        if longer ≤ maxWord then readFraction negative longer start (places + 1) rest
        else afterFraction negative digits (start - places) (rest.dropWhile isDigit)
      else if places = 0 then faultPeek .invalidNumber (byte :: rest)
      else afterFraction negative digits (start - places) (byte :: rest)
  | [] =>
      if places = 0 then faultPeek .endInValue []
      else afterFraction negative digits (start - places) []

/-- Reads on behind more digits than 64 bits hold. -/
def readLongNumber (negative : Bool) (digits : Nat) (rest : Bytes) :
    Except Fault (Float × Bytes) :=
  let further := rest.takeWhile isDigit
  match rest.drop further.length with
  | 0x2E :: others => readFraction negative digits further.length 0 others
  | others => afterFraction negative digits further.length others

/-- A number as it was written: whole, or a double. -/
inductive Number where
  /-- A whole number of 64 bits. -/
  | integer (value : Int)
  /-- Any other number. -/
  | double (value : Float)

/-- A number as a payload value. -/
def Value.ofNumber : Number → Value
  | .integer value => .integer value
  | .double value => .double value

/-- The number written by digits without fraction and exponent. A negative zero is a double. -/
def ofDigits (negative : Bool) (digits : Nat) : Number :=
  if !negative then .integer digits
  else if digits ≠ 0 && decide (digits ≤ 0x8000000000000000) then .integer (-digits)
  else .double (-Float.ofNat digits)

/-- Goes on behind the digits of a whole number. -/
def afterDigits (negative : Bool) (digits : Nat) (rest : Bytes) : Except Fault (Number × Bytes) :=
  match rest with
  | 0x2E :: others => do
      let (value, behind) ← readFraction negative digits 0 0 others
      return (.double value, behind)
  | byte :: others =>
      if isExponentMark byte then do
        let (value, behind) ← readExponent negative digits 0 others
        return (.double value, behind)
      else .ok (ofDigits negative digits, rest)
  | [] => .ok (ofDigits negative digits, [])

/-- Reads the further digits of a number. -/
def readDigits (negative : Bool) (digits : Nat) : Bytes → Except Fault (Number × Bytes)
  | byte :: rest =>
      if isDigit byte then
        let longer := digits * 10 + digitValue byte
        if longer ≤ maxWord then readDigits negative longer rest
        else do
          let (value, behind) ← readLongNumber negative digits (byte :: rest)
          return (.double value, behind)
      else afterDigits negative digits (byte :: rest)
  | [] => afterDigits negative digits []

/-- Reads a number behind its sign. -/
def readNumber (negative : Bool) (rest : Bytes) : Except Fault (Number × Bytes) :=
  match rest with
  | [] => faultAt .endInValue []
  | 0x30 :: others =>
      match others with
      | byte :: _ =>
          if isDigit byte then faultPeek .invalidNumber others else afterDigits negative 0 others
      | [] => afterDigits negative 0 others
  | byte :: others =>
      if isDigit byte then readDigits negative (digitValue byte) others
      else faultAt .invalidNumber others

/-! ## Texts -/

/-- The state between two bytes of a text. -/
inductive TextState where
  /-- Between two characters. -/
  | plain
  /-- Behind a backslash. -/
  | escape
  /-- Behind digits of an escape; `first` is the half of a character that came before, if any. -/
  | digits (first : Option Nat) (read : List Char)
  /-- Behind the first half of a character. -/
  | half (first : Nat)
  /-- Behind the first half of a character and a backslash. -/
  | halfEscape (first : Nat)

/-- What a byte of a text leads to. -/
inductive TextStep where
  /-- The text goes on in a state, with further bytes to be kept. -/
  | next (state : TextState) (kept : Bytes)
  /-- The text ends. -/
  | close
  /-- The byte cannot stand here. -/
  | fault (cause : Cause)

/-- A character that was written by escapes. -/
def TextStep.character (code : Nat) : TextStep :=
  .next .plain (Bytes.ofText (String.singleton (Char.ofNat code)))

/-- The byte that a single letter stands for behind a backslash. -/
def escapedByte? (letter : UInt8) : Option UInt8 :=
  match letter with
  | 0x22 => some 0x22
  | 0x5C => some 0x5C
  | 0x2F => some 0x2F
  | 0x62 => some 0x08
  | 0x66 => some 0x0C
  | 0x6E => some 0x0A
  | 0x72 => some 0x0D
  | 0x74 => some 0x09
  | _ => none

/-- What a number of four digits leads to. Characters beyond 16 bits are written in two halves. -/
def TextStep.ofCode (first : Option Nat) (code : Nat) : TextStep :=
  let isSecond := 0xDC00 ≤ code ∧ code ≤ 0xDFFF
  match first with
  | some half =>
      if isSecond then .character ((half - 0xD800) * 0x400 + (code - 0xDC00) + 0x10000)
      else .fault .loneSurrogate
  | none =>
      if isSecond then .fault .loneSurrogate
      else if 0xD800 ≤ code ∧ code ≤ 0xDBFF then .next (.half code) []
      else .character code

/-- What the next byte of a text leads to. -/
def TextState.step (state : TextState) (byte : UInt8) : TextStep :=
  match state with
  | .plain =>
      if byte = 0x22 then .close
      else if byte = 0x5C then .next .escape []
      else if byte < 0x20 then .fault .controlCharacter
      else .next .plain [byte]
  | .escape =>
      if byte = 0x75 then .next (.digits none []) []
      else
        match escapedByte? byte with
        | some meant => .next .plain [meant]
        | none => .fault .invalidEscape
  | .digits first read =>
      let longer := read ++ [Char.ofNat byte.toNat]
      if longer.length < 4 then .next (.digits first longer) []
      else if longer.all isHexDigit then .ofCode first (numberInBase 16 longer)
      else .fault .invalidEscape
  | .half first => if byte = 0x5C then .next (.halfEscape first) [] else .fault .endOfEscape
  | .halfEscape first =>
      if byte = 0x75 then .next (.digits (some first) []) [] else .fault .endOfEscape

/-- Reads the bytes of a text up to its closing quotation mark, `gathered` being those before, the
last one first. -/
def readTextBytes (state : TextState) (gathered : Bytes) : Bytes → Except Fault (Bytes × Bytes)
  | [] => faultAt .endInText []
  | byte :: rest =>
      match state.step byte with
      | .next further kept => readTextBytes further (kept.reverse ++ gathered) rest
      | .close => .ok (gathered.reverse, rest)
      | .fault cause => faultAt cause rest

/-- Reads a text behind its opening quotation mark. -/
def readText (rest : Bytes) : Except Fault (String × Bytes) := do
  let (bytes, behind) ← readTextBytes .plain [] rest
  match bytes.text? with
  | some text => return (text, behind)
  | none =>
      let position := (Bytes.illFormedAt? (rest.take (rest.length - behind.length))).getD 0
      faultAt .invalidCodePoint (rest.drop (position + 1))

/-! ## Lists and objects -/

/-- Whether a list has a further item, and the bytes from it on. -/
def nextItem (first : Bool) (rest : Bytes) : Except Fault (Bool × Bytes) :=
  match skipBlanks rest with
  | [] => faultPeek .endInList []
  | 0x5D :: others => .ok (false, 0x5D :: others)
  | byte :: others =>
      if first then .ok (true, byte :: others)
      else if byte = 0x2C then
        match skipBlanks others with
        | [] => faultPeek .endInValue []
        | 0x5D :: behind => faultPeek .trailingComma (0x5D :: behind)
        | behind => .ok (true, behind)
      else faultPeek .expectedListEnd (byte :: others)

/-- Whether an object has a further member, and the bytes behind the opening mark of its name. -/
def nextMember (first : Bool) (rest : Bytes) : Except Fault (Bool × Bytes) :=
  match skipBlanks rest with
  | [] => faultPeek .endInObject []
  | 0x7D :: others => .ok (false, 0x7D :: others)
  | byte :: others =>
      if first then
        if byte = 0x22 then .ok (true, others) else faultPeek .keyMustBeText (byte :: others)
      else if byte = 0x2C then
        match skipBlanks others with
        | [] => faultPeek .endInValue []
        | 0x22 :: behind => .ok (true, behind)
        | 0x7D :: behind => faultPeek .trailingComma (0x7D :: behind)
        | behind => faultPeek .keyMustBeText behind
      else faultPeek .expectedObjectEnd (byte :: others)

/-- Reads the colon behind a name. -/
def readColon (rest : Bytes) : Except Fault Bytes :=
  match skipBlanks rest with
  | [] => faultPeek .endInObject []
  | 0x3A :: others => .ok others
  | others => faultPeek .expectedColon others

/-- Reads the end of a list. -/
def endList (rest : Bytes) : Except Fault Bytes :=
  match skipBlanks rest with
  | [] => faultPeek .endInList []
  | 0x5D :: others => .ok others
  | 0x2C :: others =>
      match skipBlanks others with
      | 0x5D :: behind => faultPeek .trailingComma (0x5D :: behind)
      | behind => faultPeek .trailingCharacters behind
  | others => faultPeek .trailingCharacters others

/-- Reads the end of an object. -/
def endObject (rest : Bytes) : Except Fault Bytes :=
  match skipBlanks rest with
  | [] => faultPeek .endInObject []
  | 0x7D :: others => .ok others
  | 0x2C :: others => faultPeek .trailingComma (0x2C :: others)
  | others => faultPeek .trailingCharacters others

/-! ## Values -/

/-- The depth to which lists and objects may be nested, and one more. -/
def depthLimit : Nat := 128

mutual

/-- Reads a value; `depth` containers may still be opened, less one, and the bound limits the
values and items read. -/
def readValueWithin (depth : Nat) (rest : Bytes) : Nat → Except Fault (Value × Bytes)
  | 0 => faultPeek .endInValue []
  | bound + 1 =>
      match skipBlanks rest with
      | [] => faultPeek .endInValue []
      | 0x6E :: others => do
          let behind ← readNull others
          return (.null, behind)
      | 0x74 :: others => do
          let behind ← readTrue others
          return (.bool true, behind)
      | 0x66 :: others => do
          let behind ← readFalse others
          return (.bool false, behind)
      | 0x2D :: others => do
          let (number, behind) ← readNumber true others
          return (Value.ofNumber number, behind)
      | 0x22 :: others => do
          let (text, behind) ← readText others
          return (.text text, behind)
      | 0x5B :: others =>
          if depth ≤ 1 then faultPeek .recursionLimit (0x5B :: others)
          else do
            let (items, behind) ← readItems (depth - 1) true others bound
            let behind ← endList behind
            return (.array items, behind)
      | 0x7B :: others =>
          if depth ≤ 1 then faultPeek .recursionLimit (0x7B :: others)
          else do
            let (members, behind) ← readMembers (depth - 1) true [] others bound
            let behind ← endObject behind
            return (.object members, behind)
      | byte :: others =>
          if isDigit byte then do
            let (number, behind) ← readNumber false (byte :: others)
            return (Value.ofNumber number, behind)
          else faultPeek .expectedValue (byte :: others)

/-- Reads the items of a list up to its end. -/
def readItems (depth : Nat) (first : Bool) (rest : Bytes) :
    Nat → Except Fault (List Value × Bytes)
  | 0 => faultPeek .endInList []
  | bound + 1 => do
      let (more, others) ← nextItem first rest
      if more then
        let (item, behind) ← readValueWithin depth others bound
        let (items, behind) ← readItems depth false behind bound
        return (item :: items, behind)
      else return ([], others)

/-- Reads the members of an object up to its end; a later member takes the place of an earlier one
of its name. -/
def readMembers (depth : Nat) (first : Bool) (members : List (String × Value)) (rest : Bytes) :
    Nat → Except Fault (List (String × Value) × Bytes)
  | 0 => faultPeek .endInObject []
  | bound + 1 => do
      let (more, others) ← nextMember first rest
      if more then
        let (name, behind) ← readText others
        let behind ← readColon behind
        let (value, behind) ← readValueWithin depth behind bound
        readMembers depth false (Value.putMember members name value) behind bound
      else return (members, others)

end

/-- A bound on the values and items in so many bytes. -/
def boundOf (rest : Bytes) : Nat := 2 * rest.length + 2

/-- Reads a value. -/
def readValue (rest : Bytes) : Except Fault (Value × Bytes) :=
  readValueWithin depthLimit rest (boundOf rest)

/-! ## Passing over values -/

/-- The state between two bytes of a text that is passed over. -/
inductive SkipState where
  /-- Between two characters. -/
  | plain
  /-- Behind a backslash. -/
  | escape
  /-- Behind digits of an escape. -/
  | digits (read : List Char)

/-- Passes over the bytes of a text up to its closing quotation mark. Halves of characters need not
match. -/
def skipTextBytes (state : SkipState) : Bytes → Except Fault Bytes
  | [] => faultAt .endInText []
  | byte :: rest =>
      match state with
      | .plain =>
          if byte = 0x22 then .ok rest
          else if byte = 0x5C then skipTextBytes .escape rest
          else if byte < 0x20 then faultAt .controlCharacter (byte :: rest)
          else skipTextBytes .plain rest
      | .escape =>
          if byte = 0x75 then skipTextBytes (.digits []) rest
          else if (escapedByte? byte).isSome then skipTextBytes .plain rest
          else faultAt .invalidEscape rest
      | .digits read =>
          let longer := read ++ [Char.ofNat byte.toNat]
          if longer.length < 4 then skipTextBytes (.digits longer) rest
          else if longer.all isHexDigit then skipTextBytes .plain rest
          else faultAt .invalidEscape rest

/-- Passes over a text behind its opening quotation mark. -/
def skipText (rest : Bytes) : Except Fault Bytes := skipTextBytes .plain rest

/-- Passes over an exponent behind its mark. -/
def skipExponent (rest : Bytes) : Except Fault Bytes :=
  let unsigned :=
    if rest.head? = some 0x2D || rest.head? = some 0x2B then rest.drop 1 else rest
  match unsigned with
  | byte :: others =>
      if isDigit byte then .ok (others.dropWhile isDigit) else faultAt .invalidNumber others
  | [] => faultAt .invalidNumber []

/-- Passes over what follows the whole part of a number. -/
def skipAfterDigits (rest : Bytes) : Except Fault Bytes :=
  let afterPlaces (rest : Bytes) : Except Fault Bytes :=
    match rest with
    | byte :: others => if isExponentMark byte then skipExponent others else .ok rest
    | [] => .ok []
  match rest with
  | 0x2E :: others =>
      let places := others.takeWhile isDigit
      if places.isEmpty then faultPeek .invalidNumber others
      else afterPlaces (others.drop places.length)
  | _ => afterPlaces rest

/-- Passes over a number behind its sign. -/
def skipNumber (rest : Bytes) : Except Fault Bytes :=
  match rest with
  | 0x30 :: others =>
      if (others.head?.map isDigit).getD false then faultPeek .invalidNumber others
      else skipAfterDigits others
  | byte :: others =>
      if isDigit byte then skipAfterDigits (others.dropWhile isDigit)
      else faultAt .invalidNumber others
  | [] => faultAt .invalidNumber []

/-- The containers a value that is passed over stands in: true for an object, false for a list. -/
abbrev Enclosing := List Bool

/-- Passes over the name of a member and its colon. -/
def skipName (rest : Bytes) : Except Fault Bytes :=
  match skipBlanks rest with
  | [] => faultPeek .endInObject []
  | 0x22 :: others => do
      let behind ← skipText others
      readColon behind
  | others => faultPeek .keyMustBeText others

mutual

/-- Passes over a value and all that encloses it, without a limit to the nesting. -/
def skipFrom (enclosing : Enclosing) (rest : Bytes) : Nat → Except Fault Bytes
  | 0 => faultPeek .endInValue []
  | bound + 1 =>
      match skipBlanks rest with
      | [] => faultPeek .endInValue []
      | 0x6E :: others => do skipBehind enclosing true (← readNull others) bound
      | 0x74 :: others => do skipBehind enclosing true (← readTrue others) bound
      | 0x66 :: others => do skipBehind enclosing true (← readFalse others) bound
      | 0x2D :: others => do skipBehind enclosing true (← skipNumber others) bound
      | 0x22 :: others => do
          skipBehind enclosing true (← skipText others) bound
      | 0x5B :: others => skipBehind (false :: enclosing) false others bound
      | 0x7B :: others => skipBehind (true :: enclosing) false others bound
      | byte :: others =>
          if isDigit byte then do
            skipBehind enclosing true (← skipNumber (byte :: others)) bound
          else faultPeek .expectedValue (byte :: others)

/-- Goes on behind a value or behind the opening of a container: `behindItem` tells which. -/
def skipBehind (enclosing : Enclosing) (behindItem : Bool) (rest : Bytes) :
    Nat → Except Fault Bytes
  | 0 => faultPeek .endInValue []
  | bound + 1 =>
      match enclosing with
      | [] => .ok rest
      | inObject :: outer =>
          let nextValue (others : Bytes) : Except Fault Bytes := do
            if inObject then skipFrom enclosing (← skipName others) bound
            else skipFrom enclosing others bound
          match skipBlanks rest with
          | [] => faultPeek (if inObject then .endInObject else .endInList) []
          | byte :: others =>
              if byte = 0x2C && behindItem then nextValue others
              else if byte = (if inObject then 0x7D else 0x5D) then
                skipBehind outer true others bound
              else if behindItem then
                faultPeek (if inObject then .expectedObjectEnd else .expectedListEnd)
                  (byte :: others)
              else nextValue (byte :: others)

end

/-- Passes over a value. -/
def skipValue (rest : Bytes) : Except Fault Bytes := skipFrom [] rest (2 * boundOf rest)

end Outbound.Json
