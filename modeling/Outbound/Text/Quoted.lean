import Outbound.Text.Hidden

/-! # Quoted text and records

The descriptions of configurations and clients show text in quotation marks and structures as
records of named fields.

* `Text.quoted` puts a text in quotation marks; `quoted_plain` says that a text of printable ASCII
  without quotation mark and backslash stands in it as it is.
* `Text.recordOf`, `Text.listOf` and `Text.optional` write structures, lists and optional values. -/

namespace Outbound.Text

/-- One character inside quotation marks. -/
def escaped (character : Char) : List Char :=
  match character with
  | '"' => ['\\', '"']
  | '\\' => ['\\', '\\']
  | '\n' => ['\\', 'n']
  | '\r' => ['\\', 'r']
  | '\t' => ['\\', 't']
  | '\x00' => ['\\', '0']
  | _ =>
      let code := character.toNat
      if (0x20 ≤ code ∧ code < 0x7F) ∨ (0x7F < code ∧ ¬ Hidden.contains character) then [character]
      else ['\\', 'u', '\x7b'] ++ Nat.toDigits 16 code ++ ['\x7d']

/-- A text in quotation marks. -/
def quoted (text : String) : String :=
  String.ofList ('"' :: text.toList.flatMap escaped ++ ['"'])

/-- A character of printable ASCII other than quotation mark and backslash stands for itself. -/
theorem escaped_plain {character : Char} (low : 0x20 ≤ character.toNat)
    (high : character.toNat < 0x7F) (quote : character ≠ '"') (backslash : character ≠ '\\') :
    escaped character = [character] := by
  unfold escaped
  split
  · contradiction
  · contradiction
  · exact absurd low (by decide)
  · exact absurd low (by decide)
  · exact absurd low (by decide)
  · exact absurd low (by decide)
  · simp only [low, high, and_self, true_or, if_true]

/-- A text of plain characters stands between the quotation marks as it is. -/
theorem quoted_plain {text : String}
    (plain : ∀ character ∈ text.toList,
      (0x20 ≤ character.toNat ∧ character.toNat < 0x7F) ∧ character ≠ '"' ∧ character ≠ '\\') :
    (quoted text).toList = '"' :: text.toList ++ ['"'] := by
  have same : ∀ letters : List Char, (∀ character ∈ letters, character ∈ text.toList) →
      letters.flatMap escaped = letters := by
    intro letters members
    induction letters with
    | nil => rfl
    | cons first others inductionHypothesis =>
        obtain ⟨⟨low, high⟩, quote, backslash⟩ := plain first (members first (by simp))
        rw [List.flatMap_cons, escaped_plain low high quote backslash,
          inductionHypothesis fun character member => members character (by simp [member])]
        rfl
  simp [quoted, same text.toList fun _ member => member]

/-! ## Structures -/

/-- The members of a list in square brackets. -/
def listOf (members : List String) : String := "[" ++ ", ".intercalate members ++ "]"

/-- A record: its name, then its named fields in braces. -/
def recordOf (name : String) (fields : List (String × String)) : String :=
  let written := fields.map fun field => field.1 ++ ": " ++ field.2
  name ++ " \x7b " ++ ", ".intercalate written ++ " \x7d"

/-- An optional value that is already written out. -/
def optional : Option String → String
  | none => "None"
  | some text => "Some(" ++ text ++ ")"

end Outbound.Text
