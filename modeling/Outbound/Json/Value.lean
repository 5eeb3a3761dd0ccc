import Outbound.Number.Shortest

/-! # Payload values

The values a JSON payload can hold. Whole numbers of up to 64 bits stay whole; every other number is
a double.

* `Json.Value.compact` writes a value without blanks. -/

namespace Outbound.Json

/-- A payload value. -/
inductive Value where
  /-- The null value. -/
  | null
  /-- A truth value. -/
  | bool (value : Bool)
  /-- A whole number. -/
  | integer (value : Int)
  /-- Any other number. -/
  | double (value : Float)
  /-- A text. -/
  | text (value : String)
  /-- A list of values. -/
  | array (items : List Value)
  /-- Values by name; a name stands once. -/
  | object (members : List (String × Value))

namespace Value

/-- Members with a value put under a name, in place of one that stood there. -/
def putMember (members : List (String × Value)) (name : String) (value : Value) :
    List (String × Value) :=
  if members.any fun member => member.1 == name then
    members.map fun member => if member.1 == name then (name, value) else member
  else members ++ [(name, value)]

/-! ## Text -/

/-- One character of a written text. -/
def escaped (character : Char) : List Char :=
  match character with
  | '"' => ['\\', '"']
  | '\\' => ['\\', '\\']
  | '\x08' => ['\\', 'b']
  | '\x0c' => ['\\', 'f']
  | '\n' => ['\\', 'n']
  | '\r' => ['\\', 'r']
  | '\t' => ['\\', 't']
  | _ =>
      if character.toNat < 0x20 then
        let digits := Nat.toDigits 16 character.toNat
        ['\\', 'u'] ++ List.replicate (4 - digits.length) '0' ++ digits
      else [character]

/-- A text in quotation marks. -/
def quoted (text : String) : String :=
  String.ofList ('"' :: text.toList.flatMap escaped ++ ['"'])

mutual

/-- A value without blanks. -/
def compact : Value → String
  | .null => "null"
  | .bool true => "true"
  | .bool false => "false"
  | .integer value => toString value
  | .double value => Double.compactText value
  | .text value => quoted value
  | .array items => "[" ++ ",".intercalate (compactItems items) ++ "]"
  | .object members => "\x7b" ++ ",".intercalate (compactMembers members) ++ "\x7d"

/-- The items of a list, each written out. -/
def compactItems : List Value → List String
  | [] => []
  | item :: others => compact item :: compactItems others

/-- The members of an object, each written out. -/
def compactMembers : List (String × Value) → List String
  | [] => []
  | (name, value) :: others => (quoted name ++ ":" ++ compact value) :: compactMembers others

end

end Value

end Outbound.Json
