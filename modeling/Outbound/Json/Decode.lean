import Outbound.Json.Reader

/-! # Decoding payloads

A payload is decoded for a wanted shape: any value, a value of one kind, or a record of named texts.
The null value stands for no value at all.

* `Json.decode` decodes a whole payload; nothing but blanks may follow the value.
* `Json.parse` reads a whole payload as a value, null included.
* A scalar of the wrong kind is located behind it, a container before its bracket, and a record that
  lacks a field behind its end. -/

namespace Outbound.Json

/-! ## Shapes -/

/-- A field of a record, which holds a text. -/
structure TextField where
  /-- The name of the field. -/
  name : String
  /-- Whether the field may be null or missing. -/
  optional : Bool

/-- What a payload is decoded to. -/
inductive Shape where
  /-- Any value. -/
  | any
  /-- A text. -/
  | text
  /-- A whole number from zero to the greatest of 64 bits. -/
  | natural
  /-- A truth value. -/
  | flag
  /-- A list of texts. -/
  | texts
  /-- A record of texts: its title and its fields. -/
  | record (title : String) (fields : List TextField)

/-- The wording for what a shape wants. -/
def Shape.wanted : Shape → String
  | .any => "any value"
  | .text => "a string"
  | .natural => "u64"
  | .flag => "a boolean"
  | .texts => "a sequence"
  | .record title _ => "struct " ++ title

/-- The wording for a list that is to hold the fields of a record. -/
def recordWanted (title : String) (fields : List TextField) : String :=
  "struct " ++ title ++ " with " ++ toString fields.length ++ " elements"

/-! ## Refusals -/

/-- A number, as found where something else was wanted. -/
def Number.found : Number → Found
  | .integer value => .integer value
  | .double value => .double value

/-- Refuses the value at hand where something else is wanted. Its own faults come first. -/
def refuse {α : Type} (wanted : String) (rest : Bytes) : Except Fault α :=
  match rest with
  | [] => faultPeek .endInValue []
  | 0x6E :: others => do faultAt (.invalidType .null wanted) (← readNull others)
  | 0x74 :: others => do faultAt (.invalidType (.bool true) wanted) (← readTrue others)
  | 0x66 :: others => do faultAt (.invalidType (.bool false) wanted) (← readFalse others)
  | 0x2D :: others => do
      let (number, behind) ← readNumber true others
      faultAt (.invalidType number.found wanted) behind
  | 0x22 :: others => do
      let (text, behind) ← readText others
      faultAt (.invalidType (.text text) wanted) behind
  | 0x5B :: others => faultAt (.invalidType .sequence wanted) (0x5B :: others)
  | 0x7B :: others => faultAt (.invalidType .map wanted) (0x7B :: others)
  | byte :: others =>
      if isDigit byte then do
        let (number, behind) ← readNumber false (byte :: others)
        faultAt (.invalidType number.found wanted) behind
      else faultPeek .expectedValue (byte :: others)

/-! ## Values of one kind -/

/-- Reads a text. -/
def decodeText (rest : Bytes) : Except Fault (Value × Bytes) :=
  match skipBlanks rest with
  | 0x22 :: others => do
      let (text, behind) ← readText others
      return (.text text, behind)
  | others => refuse Shape.text.wanted others

/-- Accepts a number that is whole and not negative. -/
def acceptNatural (number : Number) (behind : Bytes) : Except Fault (Value × Bytes) :=
  match number with
  | .integer value =>
      if 0 ≤ value then .ok (.integer value, behind)
      else faultAt (.invalidValue (.integer value) Shape.natural.wanted) behind
  | .double value => faultAt (.invalidType (.double value) Shape.natural.wanted) behind

/-- Reads a whole number that is not negative. -/
def decodeNatural (rest : Bytes) : Except Fault (Value × Bytes) :=
  match skipBlanks rest with
  | [] => faultPeek .endInValue []
  | 0x2D :: others => do
      let (number, behind) ← readNumber true others
      acceptNatural number behind
  | byte :: others =>
      if isDigit byte then do
        let (number, behind) ← readNumber false (byte :: others)
        acceptNatural number behind
      else refuse Shape.natural.wanted (byte :: others)

/-- Reads a truth value. -/
def decodeFlag (rest : Bytes) : Except Fault (Value × Bytes) :=
  match skipBlanks rest with
  | 0x74 :: others => do return (.bool true, ← readTrue others)
  | 0x66 :: others => do return (.bool false, ← readFalse others)
  | others => refuse Shape.flag.wanted others

/-- Reads the texts of a list up to its end; the bound limits their number. -/
def decodeItems (first : Bool) (rest : Bytes) : Nat → Except Fault (List Value × Bytes)
  | 0 => faultPeek .endInList []
  | bound + 1 => do
      let (more, others) ← nextItem first rest
      if more then
        let (item, behind) ← decodeText others
        let (items, behind) ← decodeItems false behind bound
        return (item :: items, behind)
      else return ([], others)

/-- Reads a list of texts. -/
def decodeTexts (rest : Bytes) : Except Fault (Value × Bytes) :=
  match skipBlanks rest with
  | 0x5B :: others => do
      let (items, behind) ← decodeItems true others (others.length + 1)
      return (.array items, ← endList behind)
  | others => refuse Shape.texts.wanted others

/-! ## Records -/

/-- Reads the text of a field. -/
def decodeField (field : TextField) (rest : Bytes) : Except Fault (Value × Bytes) :=
  match skipBlanks rest with
  | 0x6E :: others =>
      if field.optional then do return (.null, ← readNull others)
      else decodeText (0x6E :: others)
  | others => decodeText others

/-- The bytes behind the end of a list, or as far as it was looked for. -/
def pastListEnd (rest : Bytes) : Bytes :=
  match skipBlanks rest with
  | 0x5D :: others => others
  | 0x2C :: others => skipBlanks others
  | others => others

/-- The bytes behind the end of an object, or as far as it was looked for. -/
def pastObjectEnd (rest : Bytes) : Bytes :=
  match skipBlanks rest with
  | 0x7D :: others => others
  | others => others

/-- Reads the fields of a record from a list, in their order; `count` of them were read before. -/
def decodeFieldList (wanted : String) (count : Nat) (rest : Bytes) :
    List TextField → Except Fault (List (String × Value) × Bytes)
  | [] => .ok ([], rest)
  | field :: fields => do
      let (more, others) ← nextItem (count == 0) rest
      if more then
        let (value, behind) ← decodeField field others
        let (members, behind) ← decodeFieldList wanted (count + 1) behind fields
        return ((field.name, value) :: members, behind)
      else faultAt (.invalidLength count wanted) (pastListEnd others)

/-- Reads the members of an object that are fields of a record and passes over the others; the bound
limits their number. -/
def decodeMembers (fields : List TextField) (first : Bool) (members : List (String × Value))
    (rest : Bytes) : Nat → Except Fault (List (String × Value) × Bytes)
  | 0 => faultPeek .endInObject []
  | bound + 1 => do
      let (more, others) ← nextMember first rest
      if more then
        let (name, behind) ← readText others
        match fields.find? fun field => field.name == name with
        | some field =>
            if members.any fun member => member.1 == name then
              faultAt (.duplicateField name) (pastObjectEnd behind)
            else
              let (value, behind) ← decodeField field (← readColon behind)
              decodeMembers fields false (members ++ [(name, value)]) behind bound
        | none =>
            let behind ← skipValue (← readColon behind)
            decodeMembers fields false members behind bound
      else return (members, others)

/-- The fields of a record in their order, those that are missing as null; `behind` is where a field
that must be there is missed. -/
def completeFields (members : List (String × Value)) (behind : Bytes) :
    List TextField → Except Fault (List (String × Value))
  | [] => .ok []
  | field :: fields => do
      match members.find? fun member => member.1 == field.name with
      | some member => return member :: (← completeFields members behind fields)
      | none =>
          if field.optional then
            return (field.name, .null) :: (← completeFields members behind fields)
          else faultAt (.missingField field.name) (pastObjectEnd behind)

/-- Reads a record from an object or a list. -/
def decodeRecord (title : String) (fields : List TextField) (rest : Bytes) :
    Except Fault (Value × Bytes) :=
  match skipBlanks rest with
  | 0x5B :: others => do
      let (members, behind) ← decodeFieldList (recordWanted title fields) 0 others fields
      return (.object members, ← endList behind)
  | 0x7B :: others => do
      let (members, behind) ← decodeMembers fields true [] others (others.length + 1)
      let complete ← completeFields members behind fields
      return (.object complete, ← endObject behind)
  | others => refuse (Shape.record title fields).wanted others

/-! ## Whole payloads -/

/-- Reads a value of a shape. -/
def decodeShape (shape : Shape) (rest : Bytes) : Except Fault (Value × Bytes) :=
  match shape with
  | .any => readValue rest
  | .text => decodeText rest
  | .natural => decodeNatural rest
  | .flag => decodeFlag rest
  | .texts => decodeTexts rest
  | .record title fields => decodeRecord title fields rest

/-- Reads a value of a shape, or null for none. -/
def decodeOptional (shape : Shape) (rest : Bytes) : Except Fault (Option Value × Bytes) :=
  match skipBlanks rest with
  | 0x6E :: others => do return (none, ← readNull others)
  | others => do
      let (value, behind) ← decodeShape shape others
      return (some value, behind)

/-- Makes sure that nothing but blanks follows. -/
def atEnd (rest : Bytes) : Except Fault Unit :=
  match skipBlanks rest with
  | [] => .ok ()
  | others => faultPeek .trailingCharacters others

/-- What a reader makes of a whole payload. -/
def whole {α : Type} (reader : Bytes → Except Fault (α × Bytes)) (payload : Bytes) :
    Except DecodeError α :=
  let result : Except Fault α := do
    let (value, behind) ← reader payload
    atEnd behind
    return value
  result.mapError fun fault => fault.locate payload

/-- The value of a shape in a payload; none for null. -/
def decode (shape : Shape) (payload : Bytes) : Except DecodeError (Option Value) :=
  whole (decodeOptional shape) payload

/-- The value in a payload. -/
def parse (payload : Bytes) : Except DecodeError Value := whole readValue payload

end Outbound.Json
