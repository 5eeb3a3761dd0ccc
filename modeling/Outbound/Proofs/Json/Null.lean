import Mathlib.Data.List.DropRight
import Outbound.Json.Decode

/-! # Payloads of the null value

The null value stands for no value at all, whatever shape is wanted.

* `Json.IsNull` holds of the payloads that hold the null value; `Json.decode_eq_none_iff` says that
  these and no others are decoded to no value.
* `Json.Solid` holds of readers that never make the null value of a payload;
  `Json.ne_null_of_decode` says that the values payloads are decoded to are others. -/

namespace Outbound.Json

variable {payload rest behind : Bytes}

/-- A payload of the null value: the word between blanks. -/
def IsNull (payload : Bytes) : Prop :=
  ∃ front back, payload = front ++ [0x6E, 0x75, 0x6C, 0x6C] ++ back ∧
    (∀ byte ∈ front, isBlank byte = true) ∧ ∀ byte ∈ back, isBlank byte = true

/-- A payload of the null value is not empty. -/
theorem IsNull.ne_nil (isNull : IsNull payload) : payload ≠ [] := by
  obtain ⟨front, back, rfl, _, _⟩ := isNull
  simp

/-! ## Blanks and words -/

/-- A reader that goes on with another one succeeds if both do. -/
theorem bind_eq_ok_iff {ε α β : Type} {first : Except ε α} {second : α → Except ε β} {value : β} :
    (first >>= second) = .ok value ↔ ∃ middle, first = .ok middle ∧ second middle = .ok value := by
  cases first with
  | error fault => exact iff_of_false nofun nofun
  | ok middle =>
      constructor
      · intro succeeds
        exact ⟨middle, rfl, succeeds⟩
      · rintro ⟨_, same, succeeds⟩
        rwa [← Except.ok.inj same] at succeeds

/-- A word is read where its letters stand. -/
theorem readWord_eq_ok_iff {letters : Bytes} :
    readWord letters rest = .ok behind ↔ rest = letters ++ behind := by
  induction letters generalizing rest with
  | nil => simp [readWord]
  | cons letter letters inductionHypothesis =>
      cases rest with
      | nil => simp [readWord, faultAt]
      | cons byte rest =>
          rw [readWord, List.cons_append, List.cons.injEq]
          by_cases same : byte = letter
          · rw [if_pos same, inductionHypothesis]
            exact (and_iff_right same).symm
          · rw [if_neg same]
            exact iff_of_false nofun fun equal => same equal.1

/-- What comes behind blanks starts with the first byte that is none. -/
theorem skipBlanks_eq_cons_iff {byte : UInt8} (solid : isBlank byte = false) :
    skipBlanks rest = byte :: behind ↔
      ∃ blanks, rest = blanks ++ byte :: behind ∧ ∀ blank ∈ blanks, isBlank blank = true := by
  constructor
  · intro skipped
    refine ⟨rest.takeWhile isBlank, ?_, List.all_eq_true.mp List.all_takeWhile⟩
    rw [← skipped]
    exact List.takeWhile_append_dropWhile.symm
  · rintro ⟨blanks, rfl, allBlank⟩
    rw [skipBlanks, List.dropWhile_append_of_pos allBlank,
      List.dropWhile_cons_of_neg (by simp [solid])]

/-- The end is reached if only blanks follow. -/
theorem atEnd_eq_ok_iff : atEnd rest = .ok () ↔ ∀ byte ∈ rest, isBlank byte = true := by
  rw [← List.dropWhile_eq_nil_iff, ← skipBlanks, atEnd]
  split
  next nothing => simp [nothing]
  next something => exact iff_of_false nofun something

/-! ## No value -/

/-- A payload is read as a whole if a reader leaves only blanks behind. -/
theorem whole_eq_ok_iff {α : Type} {reader : Bytes → Except Fault (α × Bytes)} {value : α} :
    whole reader payload = .ok value ↔
      ∃ behind, reader payload = .ok (value, behind) ∧ ∀ byte ∈ behind, isBlank byte = true := by
  simp only [← atEnd_eq_ok_iff, whole]
  cases reads : reader payload with
  | error fault => simp [bind, Except.bind, Except.mapError]
  | ok pair =>
      obtain ⟨read, rest⟩ := pair
      cases ends : atEnd rest <;>
        simp [bind, Except.bind, Except.mapError, pure, Except.pure, ends]

/-- Nothing is read for the word null behind blanks, and only for it. -/
theorem decodeOptional_eq_none_iff {shape : Shape} :
    decodeOptional shape rest = .ok (none, behind) ↔
      ∃ blanks, rest = blanks ++ [0x6E, 0x75, 0x6C, 0x6C] ++ behind ∧
        ∀ blank ∈ blanks, isBlank blank = true := by
  have solid : isBlank 0x6E = false := by decide
  rw [decodeOptional]
  constructor
  · intro reads
    split at reads
    next others skipped =>
      obtain ⟨_, word, same⟩ := bind_eq_ok_iff.mp reads
      obtain rfl := (Prod.mk.inj (Except.ok.inj same)).2
      obtain ⟨blanks, split, allBlank⟩ := (skipBlanks_eq_cons_iff solid).mp skipped
      rw [readWord_eq_ok_iff.mp word] at split
      exact ⟨blanks, by rw [split, List.append_assoc]; rfl, allBlank⟩
    next others _ =>
      obtain ⟨_, _, same⟩ := bind_eq_ok_iff.mp reads
      cases same
  · rintro ⟨blanks, rfl, allBlank⟩
    have skipped : skipBlanks (blanks ++ [0x6E, 0x75, 0x6C, 0x6C] ++ behind)
        = 0x6E :: ([0x75, 0x6C, 0x6C] ++ behind) :=
      (skipBlanks_eq_cons_iff solid).mpr ⟨blanks, by simp, allBlank⟩
    have word : readNull ([0x75, 0x6C, 0x6C] ++ behind) = .ok behind := readWord_eq_ok_iff.mpr rfl
    rw [skipped]
    exact bind_eq_ok_iff.mpr ⟨behind, word, rfl⟩

/-- A payload is decoded to no value if it is one of the null value, and only then. -/
theorem decode_eq_none_iff {shape : Shape} : decode shape payload = .ok none ↔ IsNull payload := by
  rw [decode, whole_eq_ok_iff]
  constructor
  · rintro ⟨back, reads, backBlank⟩
    obtain ⟨front, split, frontBlank⟩ := decodeOptional_eq_none_iff.mp reads
    exact ⟨front, back, split, frontBlank, backBlank⟩
  · rintro ⟨front, back, split, frontBlank, backBlank⟩
    exact ⟨back, decodeOptional_eq_none_iff.mpr ⟨front, split, frontBlank⟩, backBlank⟩

/-! ## Some value -/

/-- What a reader makes of a payload is not the null value, if it makes anything of it. -/
def Solid (result : Except Fault (Value × Bytes)) : Prop :=
  ∀ value behind, result = .ok (value, behind) → value ≠ .null

/-- Any other value is solid. -/
theorem solid_ok {value : Value} (other : value ≠ .null) : Solid (.ok (value, behind)) := by
  intro read rest same
  obtain ⟨rfl, _⟩ := Prod.mk.inj (Except.ok.inj same)
  exact other

/-- A fault holds no value. -/
theorem solid_error {fault : Fault} : Solid (.error fault) := nofun

/-- A reader is solid if what it goes on with is. -/
theorem solid_bind {α : Type} {first : Except Fault α} {further : α → Except Fault (Value × Bytes)}
    (solid : ∀ middle, Solid (further middle)) : Solid (first >>= further) := by
  intro value rest reads
  obtain ⟨middle, _, second⟩ := bind_eq_ok_iff.mp reads
  exact solid middle value rest second

/-- Nothing is made of a value that is refused. -/
theorem solid_refuse {wanted : String} : Solid (refuse wanted rest) := by
  unfold refuse
  split
  case h_1 | h_7 | h_8 => exact solid_error
  case h_9 =>
    split
    next => exact solid_bind fun ⟨_, _⟩ => solid_error
    next => exact solid_error
  all_goals exact solid_bind fun _ => solid_error

/-- What stands for a number is not the null value. -/
theorem ne_null_of_number {number : Number} : Value.ofNumber number ≠ .null := by
  cases number <;> nofun

/-- A value is the null value only if it starts as the word does. -/
theorem solid_readValue (noWord : ∀ others, skipBlanks rest ≠ 0x6E :: others) :
    Solid (readValue rest) := by
  rw [readValue, boundOf, readValueWithin.eq_def]
  simp only
  split
  case h_1 => exact solid_error
  case h_2 others skipped => exact absurd skipped (noWord others)
  case h_3 | h_4 => exact solid_bind fun _ => solid_ok nofun
  case h_5 => exact solid_bind fun ⟨_, _⟩ => solid_ok ne_null_of_number
  case h_6 => exact solid_bind fun ⟨_, _⟩ => solid_ok nofun
  case h_7 | h_8 =>
    split
    next => exact solid_error
    next => exact solid_bind fun ⟨_, _⟩ => solid_bind fun _ => solid_ok nofun
  case h_9 =>
    split
    next => exact solid_bind fun ⟨_, _⟩ => solid_ok ne_null_of_number
    next => exact solid_error

/-- A text is not the null value. -/
theorem solid_decodeText : Solid (decodeText rest) := by
  unfold decodeText
  split
  next => exact solid_bind fun ⟨_, _⟩ => solid_ok nofun
  next => exact solid_refuse

/-- A number that is accepted is not the null value. -/
theorem solid_acceptNatural {number : Number} : Solid (acceptNatural number rest) := by
  unfold acceptNatural
  split
  next =>
    split
    next => exact solid_ok nofun
    next => exact solid_error
  next => exact solid_error

/-- A number is not the null value. -/
theorem solid_decodeNatural : Solid (decodeNatural rest) := by
  unfold decodeNatural
  split
  next => exact solid_error
  next => exact solid_bind fun ⟨_, _⟩ => solid_acceptNatural
  next =>
    split
    next => exact solid_bind fun ⟨_, _⟩ => solid_acceptNatural
    next => exact solid_refuse

/-- A truth value is not the null value. -/
theorem solid_decodeFlag : Solid (decodeFlag rest) := by
  unfold decodeFlag
  split
  case h_1 | h_2 => exact solid_bind fun _ => solid_ok nofun
  case h_3 => exact solid_refuse

/-- A list of texts is not the null value. -/
theorem solid_decodeTexts : Solid (decodeTexts rest) := by
  unfold decodeTexts
  split
  next => exact solid_bind fun ⟨_, _⟩ => solid_bind fun _ => solid_ok nofun
  next => exact solid_refuse

/-- A record is not the null value. -/
theorem solid_decodeRecord {title : String} {fields : List TextField} :
    Solid (decodeRecord title fields rest) := by
  unfold decodeRecord
  split
  next => exact solid_bind fun ⟨_, _⟩ => solid_bind fun _ => solid_ok nofun
  next =>
    exact solid_bind fun ⟨_, _⟩ => solid_bind fun _ => solid_bind fun _ => solid_ok nofun
  next => exact solid_refuse

/-- A value that a payload is decoded to is not the null value. -/
theorem ne_null_of_decode {shape : Shape} {value : Value}
    (decodes : decode shape payload = .ok (some value)) : value ≠ .null := by
  obtain ⟨behind, reads, _⟩ := whole_eq_ok_iff.mp decodes
  unfold decodeOptional at reads
  split at reads
  next =>
    obtain ⟨_, _, same⟩ := bind_eq_ok_iff.mp reads
    cases same
  next others noWord =>
    obtain ⟨⟨read, _⟩, decoded, same⟩ := bind_eq_ok_iff.mp reads
    obtain rfl : read = value := by simpa using congrArg Prod.fst (Except.ok.inj same)
    have solid : Solid (decodeShape shape (skipBlanks payload)) := by
      cases shape with
      | any =>
          refine solid_readValue fun others skipped => noWord others ?_
          rwa [skipBlanks, skipBlanks, List.dropWhile_idempotent] at skipped
      | text => exact solid_decodeText
      | natural => exact solid_decodeNatural
      | flag => exact solid_decodeFlag
      | texts => exact solid_decodeTexts
      | record title fields => exact solid_decodeRecord
    exact solid read _ decoded

end Outbound.Json
