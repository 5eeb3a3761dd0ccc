import Outbound.Bytes
import Outbound.Json.Value
import Outbound.Text.Quoted

/-! # Faults of a payload

Where and why a payload cannot be decoded.

* `Json.Cause` lists the causes, `Json.Cause.message` words them.
* `Json.Fault` is a cause at a number of bytes before the end, `Json.DecodeError` the same at a line
  and column, which `Json.Fault.locate` works out. -/

namespace Outbound.Json

/-- What was found where something else was wanted. -/
inductive Found where
  /-- The null value. -/
  | null
  /-- A truth value. -/
  | bool (value : Bool)
  /-- A whole number. -/
  | integer (value : Int)
  /-- Any other number. -/
  | double (value : Float)
  /-- A text. -/
  | text (value : String)
  /-- A list. -/
  | sequence
  /-- An object. -/
  | map

/-- What was found, in words. -/
def Found.message : Found → String
  | .null => "null"
  | .bool value => "boolean `" ++ toString value ++ "`"
  | .integer value => "integer `" ++ toString value ++ "`"
  | .double value => "floating point `" ++ Double.compactText value ++ "`"
  | .text value => "string " ++ Text.quoted value
  | .sequence => "sequence"
  | .map => "map"

/-- Why a payload cannot be decoded. -/
inductive Cause where
  /-- The payload ends where a value is due. -/
  | endInValue
  /-- The payload ends in a list. -/
  | endInList
  /-- The payload ends in an object. -/
  | endInObject
  /-- The payload ends in a text. -/
  | endInText
  /-- There is no colon behind a name. -/
  | expectedColon
  /-- A list neither goes on nor ends. -/
  | expectedListEnd
  /-- An object neither goes on nor ends. -/
  | expectedObjectEnd
  /-- A word is misspelled. -/
  | expectedIdent
  /-- No value starts here. -/
  | expectedValue
  /-- An escape is unknown. -/
  | invalidEscape
  /-- A number is misspelled. -/
  | invalidNumber
  /-- A number is too large for a double. -/
  | numberOutOfRange
  /-- A text is not UTF-8. -/
  | invalidCodePoint
  /-- A control character stands in a text. -/
  | controlCharacter
  /-- A name is not a text. -/
  | keyMustBeText
  /-- An escaped half of a character stands alone. -/
  | loneSurrogate
  /-- An escaped half of a character is not followed by an escape. -/
  | endOfEscape
  /-- A comma stands before an end. -/
  | trailingComma
  /-- Something follows the value. -/
  | trailingCharacters
  /-- Lists and objects are nested too deep. -/
  | recursionLimit
  /-- A value of another kind is wanted. -/
  | invalidType (found : Found) (wanted : String)
  /-- Another value of the same kind is wanted. -/
  | invalidValue (found : Found) (wanted : String)
  /-- A list is too short for a record. -/
  | invalidLength (length : Nat) (wanted : String)
  /-- A record lacks a field. -/
  | missingField (name : String)
  /-- A record has a field twice. -/
  | duplicateField (name : String)

/-- The wording of a cause. -/
def Cause.message : Cause → String
  | .endInValue => "EOF while parsing a value"
  | .endInList => "EOF while parsing a list"
  | .endInObject => "EOF while parsing an object"
  | .endInText => "EOF while parsing a string"
  | .expectedColon => "expected `:`"
  | .expectedListEnd => "expected `,` or `]`"
  | .expectedObjectEnd => "expected `,` or `\x7d`"
  | .expectedIdent => "expected ident"
  | .expectedValue => "expected value"
  | .invalidEscape => "invalid escape"
  | .invalidNumber => "invalid number"
  | .numberOutOfRange => "number out of range"
  | .invalidCodePoint => "invalid unicode code point"
  | .controlCharacter => "control character (\\u0000-\\u001F) found while parsing a string"
  | .keyMustBeText => "key must be a string"
  | .loneSurrogate => "lone leading surrogate in hex escape"
  | .endOfEscape => "unexpected end of hex escape"
  | .trailingComma => "trailing comma"
  | .trailingCharacters => "trailing characters"
  | .recursionLimit => "recursion limit exceeded"
  | .invalidType found wanted => "invalid type: " ++ found.message ++ ", expected " ++ wanted
  | .invalidValue found wanted => "invalid value: " ++ found.message ++ ", expected " ++ wanted
  | .invalidLength length wanted => "invalid length " ++ toString length ++ ", expected " ++ wanted
  | .missingField name => "missing field `" ++ name ++ "`"
  | .duplicateField name => "duplicate field `" ++ name ++ "`"

/-- A cause with its place, counted from the end of the payload. -/
structure Fault where
  /-- The cause. -/
  cause : Cause
  /-- The number of bytes behind the place. -/
  left : Nat

/-- A cause with its place in lines and columns. -/
structure DecodeError where
  /-- The cause. -/
  cause : Cause
  /-- The line, counted from one. -/
  line : Nat
  /-- The number of bytes on the line up to the place. -/
  column : Nat

/-- A fault with its place in a payload. -/
def Fault.locate (fault : Fault) (payload : Bytes) : DecodeError :=
  let before := payload.take (payload.length - fault.left)
  { cause := fault.cause
    line := before.count 0x0A + 1
    column := (before.reverse.takeWhile (· != 0x0A)).length }

/-- The wording of an error. -/
def DecodeError.message (error : DecodeError) : String :=
  error.cause.message ++ " at line " ++ toString error.line ++ " column " ++ toString error.column

end Outbound.Json
