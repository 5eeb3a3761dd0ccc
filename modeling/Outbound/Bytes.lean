/-! # Bytes and text

Bodies and header values are lists of bytes. Text enters and leaves them as UTF-8.

* `Bytes.ofText` and `Bytes.text?` convert between the two.
* `Bytes.illFormedAt?` finds the first byte at which a list of bytes stops being UTF-8, with a
  machine that remembers which continuation bytes are still owed. -/

namespace Outbound

/-- A list of bytes. -/
abbrev Bytes := List UInt8

namespace Bytes

/-- The UTF-8 bytes of a text. -/
def ofText (text : String) : Bytes := text.toUTF8.data.toList

/-- The text of which these are the UTF-8 bytes, if there is one. -/
def text? (bytes : Bytes) : Option String := String.fromUTF8? ⟨bytes.toArray⟩

/-! ## Well-formedness -/

/-- Between two bytes of UTF-8: how many continuation bytes are owed, and the range of the next. -/
structure Owed where
  /-- The number of continuation bytes still to come. -/
  count : Nat
  /-- The least value of the next continuation byte. -/
  least : UInt8
  /-- The greatest value of the next continuation byte. -/
  greatest : UInt8

/-- Between two characters nothing is owed. -/
def Owed.nothing : Owed := ⟨0, 0x80, 0xBF⟩

/-- What is owed after the first byte of a character, if a character can start with it. -/
def Owed.afterFirst? (byte : UInt8) : Option Owed :=
  if byte ≤ 0x7F then some .nothing
  else if byte < 0xC2 then none
  else if byte ≤ 0xDF then some ⟨1, 0x80, 0xBF⟩
  else if byte = 0xE0 then some ⟨2, 0xA0, 0xBF⟩
  else if byte = 0xED then some ⟨2, 0x80, 0x9F⟩
  else if byte ≤ 0xEF then some ⟨2, 0x80, 0xBF⟩
  else if byte = 0xF0 then some ⟨3, 0x90, 0xBF⟩
  else if byte ≤ 0xF3 then some ⟨3, 0x80, 0xBF⟩
  else if byte = 0xF4 then some ⟨3, 0x80, 0x8F⟩
  else none

/-- What is owed after one more byte, if the byte can stand there. -/
def Owed.next? (owed : Owed) (byte : UInt8) : Option Owed :=
  match owed.count with
  | 0 => Owed.afterFirst? byte
  | further + 1 =>
      if owed.least ≤ byte ∧ byte ≤ owed.greatest then some ⟨further, 0x80, 0xBF⟩ else none

/-- The position of the first byte that cannot stand where it does, or the length if the bytes end
inside a character; none for UTF-8. -/
def illFormedFrom? (owed : Owed) (position : Nat) : Bytes → Option Nat
  | [] => if owed.count = 0 then none else some position
  | byte :: others =>
      match owed.next? byte with
      | none => some position
      | some further => illFormedFrom? further (position + 1) others

/-- The position of the first byte at which the bytes stop being UTF-8. -/
def illFormedAt? (bytes : Bytes) : Option Nat := illFormedFrom? .nothing 0 bytes

end Bytes

end Outbound
