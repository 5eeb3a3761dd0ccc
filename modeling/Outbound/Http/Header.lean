import Outbound.Bytes

/-! # Header fields

Header names are tokens, compared without regard to case and therefore kept in lower case. A header
value is a list of visible bytes, blanks and tabs. A request may carry several values of one name.

* `HeaderName.ofText?` and `HeaderValue.ofBytes?` admit exactly the names and values allowed.
* `HeaderValue.describe` writes a value as text; `describe_of_sensitive` says that a secret does not
  show in it.
* `Headers.values` is the view of a collection: the values of a name in order. `values_set_self` and
  `values_set_other` say what setting a field does to it, `values_append` what adding one does. -/

namespace Outbound

/-! ## Names -/

/-- Whether a character may stand in a token: a letter, a digit or one of fifteen signs. -/
def isTokenChar (character : Char) : Bool :=
  character.isAlphanum || "!#$%&'*+-.^_`|~".toList.contains character

/-- Whether a text is a token without capital letters. -/
def isLowerToken (text : String) : Bool :=
  !text.toList.isEmpty && text.toList.all fun character =>
    isTokenChar character && !character.isUpper

/-- A header name in lower case. -/
structure HeaderName where
  /-- The name. -/
  text : String
  /-- The name is a token without capital letters. -/
  isToken : isLowerToken text = true := by decide
  deriving DecidableEq

namespace HeaderName

/-- The longest name allowed. -/
def maxLength : Nat := 65535

/-- The header name spelled in any case, if it is a token that is not too long. -/
def ofText? (text : String) : Option HeaderName :=
  let lowered := String.ofList (text.toList.map Char.toLower)
  if isToken : isLowerToken lowered = true then
    if text.toList.length ≤ maxLength then some ⟨lowered, isToken⟩ else none
  else none

/-- The field that carries credentials. -/
def authorization : HeaderName := { text := "authorization" }

/-- The field by which a server asks for a pause. -/
def retryAfter : HeaderName := { text := "retry-after" }

end HeaderName

/-! ## Values -/

/-- Whether a byte may stand in a header value: a tab, a visible character or blank of ASCII, or a
byte beyond ASCII. -/
def isHeaderByte (byte : UInt8) : Bool :=
  byte == 0x09 || (0x20 ≤ byte && byte != 0x7F)

/-- A header value, which may be kept out of descriptions. -/
structure HeaderValue where
  /-- The bytes of the value. -/
  bytes : Bytes
  /-- Whether the value is a secret. -/
  sensitive : Bool := false
  /-- Every byte may stand in a header value. -/
  allowed : bytes.all isHeaderByte = true := by decide
  deriving DecidableEq

namespace HeaderValue

/-- The value with given bytes, if all are allowed. -/
def ofBytes? (bytes : Bytes) : Option HeaderValue :=
  if allowed : bytes.all isHeaderByte = true then some ⟨bytes, false, allowed⟩ else none

/-- The same value as a secret. -/
def asSecret (value : HeaderValue) : HeaderValue := { value with sensitive := true }

/-- Whether a byte is a tab, a blank or a visible character of ASCII. -/
def isTextByte (byte : UInt8) : Bool :=
  byte == 0x09 || (0x20 ≤ byte && byte ≤ 0x7E)

/-- The characters of a value that holds text only. -/
def text? (value : HeaderValue) : Option (List Char) :=
  if value.bytes.all isTextByte then some (value.bytes.map fun byte => Char.ofNat byte.toNat)
  else none

/-- One byte of a value inside quotation marks. -/
def escaped (byte : UInt8) : List Char :=
  if byte == 0x22 then ['\\', '"']
  else if isTextByte byte then [Char.ofNat byte.toNat]
  else ['\\', 'x'] ++ Nat.toDigits 16 byte.toNat

/-- A value as text: its bytes in quotation marks, unless it is a secret. -/
def describe (value : HeaderValue) : String :=
  if value.sensitive then "Sensitive"
  else String.ofList ('"' :: value.bytes.flatMap escaped ++ ['"'])

/-- The text of a secret does not show its bytes. -/
theorem describe_of_sensitive {value : HeaderValue} (secret : value.sensitive = true) :
    value.describe = "Sensitive" := if_pos secret

end HeaderValue

/-! ## Collections -/

/-- The header fields of a message, in the order in which they were added. -/
structure Headers where
  /-- Names with values; a name may stand several times. -/
  entries : List (HeaderName × HeaderValue)
  deriving DecidableEq

namespace Headers

/-- No header fields. -/
def empty : Headers := ⟨[]⟩

/-- The values of a name, in order. -/
def values (headers : Headers) (name : HeaderName) : List HeaderValue :=
  (headers.entries.filter fun entry => entry.1 = name).map (·.2)

/-- The first value of a name. -/
def first? (headers : Headers) (name : HeaderName) : Option HeaderValue :=
  (headers.values name).head?

/-- The fields with one more at the end. -/
def append (headers : Headers) (name : HeaderName) (value : HeaderValue) : Headers :=
  ⟨headers.entries ++ [(name, value)]⟩

/-- The fields with one value in place of all values of its name. -/
def set (headers : Headers) (name : HeaderName) (value : HeaderValue) : Headers :=
  ⟨headers.entries.filter (fun entry => entry.1 ≠ name) ++ [(name, value)]⟩

/-- The names of the secret fields. -/
def secretNames (headers : Headers) : List HeaderName :=
  (headers.entries.filter (·.2.sensitive)).map (·.1)

/-- Adding a field puts its value behind those of its name and leaves other names alone. -/
theorem values_append (headers : Headers) (name other : HeaderName) (value : HeaderValue) :
    (headers.append name value).values other =
      headers.values other ++ if name = other then [value] else [] := by
  by_cases same : name = other <;> simp [values, append, same]

/-- Setting a field leaves its value as the only one of its name. -/
theorem values_set_self (headers : Headers) (name : HeaderName) (value : HeaderValue) :
    (headers.set name value).values name = [value] := by
  simp [values, set, List.filter_filter]

/-- Setting a field leaves the values of every other name as they were, in their order. -/
theorem values_set_other (headers : Headers) {name other : HeaderName} (value : HeaderValue)
    (different : other ≠ name) :
    (headers.set name value).values other = headers.values other := by
  have keep : (headers.entries.filter fun entry =>
      decide (entry.1 = other) && !decide (entry.1 = name)) =
      headers.entries.filter fun entry => decide (entry.1 = other) := by
    apply List.filter_congr
    intro entry _
    by_cases equal : entry.1 = other
    · simp [equal, different]
    · simp [equal]
  simp [values, set, List.filter_filter, keep, Ne.symm different]

end Headers

end Outbound
