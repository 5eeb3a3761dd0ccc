import Mathlib.Data.List.DropRight
import Mathlib.Data.List.TakeWhile
import Mathlib.Data.Nat.Digits.Defs
import Outbound.Proofs.Retry.Waits

/-! # The wording of a wait

A server words the wait that it asks for as a whole number of seconds. What counts as such a number
is a matter of bytes: blanks, a sign, digits, blanks. The reader works on characters and keeps the
number below `2 ^ 64` after each digit. Since a number only grows as digits are put behind it, it
stops at a number that is too great just if the whole one is.

* `RetryAfter.Worded` is the grammar, `RetryAfter.Stated` what a collection of fields asks for by
  it.
* `RetryAfter.trim_append`, `RetryAfter.number?_eq_some_iff` and `RetryAfter.seconds?_eq_some_iff`
  say what the parts of the reader do.
* `RetryAfter.ofHeaders?_iff_stated` says so of the reader of fields, and
  `RetryAfter.accepts_stated` is the law of the reader. -/

namespace Outbound

/-! ## Bytes of ASCII -/

/-- The character of a byte. -/
def byteChar (byte : UInt8) : Char := Char.ofNat byte.toNat

/-- A byte is the code of its character. -/
theorem toNat_byteChar (byte : UInt8) : (byteChar byte).toNat = byte.toNat := by
  have small := byte.toNat_lt
  have isCode : byte.toNat.isValidChar := .inl (by omega)
  rw [byteChar, Char.ofNat, dif_pos isCode]
  rfl

/-- Different bytes have different characters. -/
theorem byteChar_injective : Function.Injective byteChar := by
  intro left right same
  have codes := congrArg Char.toNat same
  rwa [toNat_byteChar, toNat_byteChar, UInt8.toNat_inj] at codes

/-- A value holds text just if all its bytes are tabs, blanks and visible characters. -/
theorem HeaderValue.text?_eq_some_iff {value : HeaderValue} {text : List Char} :
    value.text? = some text ↔
      (∀ byte ∈ value.bytes, byte = 0x09 ∨ 0x20 ≤ byte ∧ byte ≤ 0x7E) ∧
        value.bytes.map byteChar = text := by
  simp only [text?, Option.ite_none_right_eq_some, Option.some.injEq, List.all_eq_true, isTextByte,
    Bool.or_eq_true, Bool.and_eq_true, beq_iff_eq, decide_eq_true_eq]
  rfl

/-- The bytes of a text of ASCII are the codes of its characters. -/
theorem map_byteChar_ofText {text : List Char} (ascii : ∀ character ∈ text, character.val ≤ 127) :
    (Bytes.ofText (String.ofList text)).map byteChar = text := by
  induction text with
  | nil => rfl
  | cons character text inductionHypothesis =>
      obtain ⟨here, behind⟩ := List.forall_mem_cons.mp ascii
      have split : Bytes.ofText (String.ofList (character :: text))
          = character.val.toUInt8 :: Bytes.ofText (String.ofList text) := by
        simp [Bytes.ofText, List.utf8Encode_singleton,
          String.utf8EncodeChar_eq_singleton (Char.utf8Size_eq_one_iff.mpr here)]
      have code : byteChar character.val.toUInt8 = character := by
        have small : character.val.toNat ≤ 127 := UInt32.le_iff_toNat_le.mp here
        rw [← Char.toNat_inj, toNat_byteChar, UInt32.toNat_toUInt8]
        exact Nat.mod_eq_of_lt (by omega)
      rw [split, List.map_cons, code, inductionHypothesis behind]

namespace RetryAfter

/-! ## Grammar -/

/-- The number that decimal digits denote. -/
def denoted (digits : Bytes) : Nat :=
  Nat.ofDigits 10 (digits.reverse.map fun digit => digit.toNat - 0x30)

/-- The bytes word a number: decimal digits that denote it, with a plus sign or without, between
spaces and tabs. -/
inductive Worded (count : Nat) : Bytes → Prop where
  | intro {left sign digits right : Bytes}
      (leftBlank : ∀ byte ∈ left, byte = 0x20 ∨ byte = 0x09)
      (signed : sign = [] ∨ sign = [0x2B])
      (nonempty : digits ≠ [])
      (decimal : ∀ digit ∈ digits, 0x30 ≤ digit ∧ digit ≤ 0x39)
      (denotes : denoted digits = count)
      (rightBlank : ∀ byte ∈ right, byte = 0x20 ∨ byte = 0x09) :
      Worded count (left ++ (sign ++ digits) ++ right)

/-- The fields ask for a wait of some seconds: the first of those that ask for a wait holds text
only and words that number, which fits into 64 bits. -/
def Stated (headers : Headers) (count : Nat) : Prop :=
  ∃ value, (headers.values .retryAfter).head? = some value ∧
    (∀ byte ∈ value.bytes, byte = 0x09 ∨ 0x20 ≤ byte ∧ byte ≤ 0x7E) ∧
    Worded count value.bytes ∧ count ≤ 2 ^ 64 - 1

/-! ## Characters of the grammar -/

/-- The blanks are the space and the tab. -/
theorem isBlank_byteChar_iff {byte : UInt8} :
    isBlank (byteChar byte) = true ↔ byte = 0x20 ∨ byte = 0x09 := by
  have space : byteChar 0x20 = ' ' := rfl
  have tab : byteChar 0x09 = '\t' := rfl
  rw [isBlank, Bool.or_eq_true, beq_iff_eq, beq_iff_eq, ← space, ← tab, byteChar_injective.eq_iff,
    byteChar_injective.eq_iff]

/-- The decimal digits are the bytes from 30 to 39. -/
theorem isDigit_byteChar_iff {byte : UInt8} :
    (byteChar byte).isDigit = true ↔ 0x30 ≤ byte ∧ byte ≤ 0x39 := by
  have code : (byteChar byte).val.toNat = byte.toNat := toNat_byteChar byte
  simp only [Char.isDigit, Bool.and_eq_true, decide_eq_true_eq, ge_iff_le, UInt32.le_iff_toNat_le,
    UInt8.le_iff_toNat_le, code]
  rfl

/-- A digit is no blank. -/
theorem isBlank_of_isDigit {character : Char} (digit : character.isDigit = true) :
    isBlank character = false := by
  rw [isBlank, Bool.or_eq_false_iff, beq_eq_false_iff_ne, beq_eq_false_iff_ne]
  constructor <;> rintro rfl <;> cases digit

/-- The number that digits denote is the one that their characters do. -/
theorem denoted_eq (digits : Bytes) :
    denoted digits = Nat.ofDigitChars 10 (digits.map byteChar) 0 := by
  rw [denoted, Nat.ofDigits_eq_foldr, List.foldr_map, List.foldr_reverse, Nat.ofDigitChars,
    List.foldl_map]
  congr 1
  funext number digit
  rw [toNat_byteChar, Nat.add_comm]
  rfl

/-! ## Blanks at the ends -/

/-- Blanks before a solid text are dropped, and nothing else is. -/
theorem dropWhile_isBlank_append {blanks solid rest : List Char}
    (allBlank : ∀ character ∈ blanks, isBlank character = true)
    (allSolid : ∀ character ∈ solid, isBlank character = false) (nonempty : solid ≠ []) :
    (blanks ++ (solid ++ rest)).dropWhile isBlank = solid ++ rest := by
  obtain ⟨first, others, rfl⟩ := List.exists_cons_of_ne_nil nonempty
  rw [List.dropWhile_append_of_pos allBlank, List.cons_append,
    List.dropWhile_cons_of_neg (by simp [allSolid first List.mem_cons_self])]

/-- A solid text between blanks is what is left of them. -/
theorem trim_append {left solid right : List Char}
    (leftBlank : ∀ character ∈ left, isBlank character = true)
    (allSolid : ∀ character ∈ solid, isBlank character = false) (nonempty : solid ≠ [])
    (rightBlank : ∀ character ∈ right, isBlank character = true) :
    trim (left ++ solid ++ right) = solid := by
  -- Read backwards, the blanks behind the text come before it.
  have behind : (right.reverse ++ (solid.reverse ++ [])).dropWhile isBlank = solid.reverse ++ [] :=
    dropWhile_isBlank_append (by simpa using rightBlank) (by simpa using allSolid)
      (by simpa using nonempty)
  rw [List.append_nil] at behind
  rw [trim, List.append_assoc, dropWhile_isBlank_append leftBlank allSolid nonempty,
    List.reverse_append, behind, List.reverse_reverse]

/-- What is cut off a text are blanks. -/
theorem exists_blanks_trim (text : List Char) :
    ∃ left right, text = left ++ trim text ++ right ∧
      (∀ character ∈ left, isBlank character = true) ∧
      ∀ character ∈ right, isBlank character = true := by
  refine ⟨text.takeWhile isBlank, (text.dropWhile isBlank).rtakeWhile isBlank, ?_,
    fun _ member => List.mem_takeWhile_imp member, fun _ member => List.mem_rtakeWhile_imp member⟩
  have trimmed : trim text = (text.dropWhile isBlank).rdropWhile isBlank := rfl
  rw [trimmed, List.append_assoc, List.rdropWhile_append_rtakeWhile,
    List.takeWhile_append_dropWhile]

/-! ## Digits -/

/-- A digit is put behind a number if the longer one is below `2 ^ 64`. -/
theorem push?_eq_some_iff {number longer : Nat} {digit : Char} :
    push? number digit = some longer ↔
      digit.isDigit = true ∧ 10 * number + (digit.toNat - '0'.toNat) = longer ∧
        longer < UInt64.size := by
  rw [push?, Nat.mul_comm 10]
  split
  next isDigit =>
    simp only [Option.ite_none_right_eq_some, Option.some.injEq, isDigit, true_and]
    constructor
    · rintro ⟨fits, rfl⟩
      exact ⟨rfl, fits⟩
    · rintro ⟨rfl, fits⟩
      exact ⟨fits, rfl⟩
  next other => exact iff_of_false nofun fun ⟨isDigit, _⟩ => other isDigit

/-- Digits make no number smaller. -/
theorem le_ofDigitChars (digits : List Char) (start : Nat) :
    start ≤ Nat.ofDigitChars 10 digits start := by
  rw [Nat.ofDigitChars_eq_ofDigitChars_zero]
  exact Nat.le_add_right_of_le (Nat.le_mul_of_pos_left start (Nat.pow_pos (by decide)))

/-- Digits are put behind a number, one by one, if the last number is below `2 ^ 64`. -/
theorem foldlM_push?_eq_some_iff {digits : List Char} {start count : Nat}
    (fits : start < UInt64.size) :
    digits.foldlM push? start = some count ↔
      (∀ digit ∈ digits, digit.isDigit = true) ∧ Nat.ofDigitChars 10 digits start = count ∧
        count < UInt64.size := by
  induction digits generalizing start with
  | nil =>
      simp only [List.foldlM_nil, Option.pure_def, Option.some.injEq, Nat.ofDigitChars_nil,
        List.not_mem_nil, false_imp_iff, implies_true, true_and]
      constructor
      · rintro rfl
        exact ⟨rfl, fits⟩
      · exact And.left
  | cons digit digits inductionHypothesis =>
      rw [List.foldlM_cons, Option.bind_eq_bind, Option.bind_eq_some_iff, List.forall_mem_cons,
        Nat.ofDigitChars_cons]
      constructor
      · rintro ⟨longer, pushed, further⟩
        obtain ⟨isDigit, rfl, small⟩ := push?_eq_some_iff.mp pushed
        obtain ⟨areDigits, written, bounded⟩ := (inductionHypothesis small).mp further
        exact ⟨⟨isDigit, areDigits⟩, written, bounded⟩
      · rintro ⟨⟨isDigit, areDigits⟩, rfl, bounded⟩
        -- No number on the way is greater than the last one.
        have small := Nat.lt_of_le_of_lt (le_ofDigitChars digits _) bounded
        exact ⟨_, push?_eq_some_iff.mpr ⟨isDigit, rfl, small⟩,
          (inductionHypothesis small).mpr ⟨areDigits, rfl, bounded⟩⟩

/-- A number is read off one or more digits that denote it, if it is below `2 ^ 64`. -/
theorem number?_eq_some_iff {digits : List Char} {count : Nat} :
    number? digits = some count ↔
      digits ≠ [] ∧ (∀ digit ∈ digits, digit.isDigit = true) ∧
        Nat.ofDigitChars 10 digits 0 = count ∧ count < UInt64.size := by
  rw [number?, ← foldlM_push?_eq_some_iff (by decide)]
  cases digits with
  | nil => exact iff_of_false nofun fun ⟨nonempty, _⟩ => nonempty rfl
  | cons digit digits => exact (and_iff_right (List.cons_ne_nil _ _)).symm

/-- A number is read off digits, with a plus sign or without. -/
theorem seconds?_eq_some_iff {text : List Char} {count : Nat} :
    seconds? text = some count ↔
      ∃ sign digits, text = sign ++ digits ∧ (sign = [] ∨ sign = ['+']) ∧
        number? digits = some count := by
  constructor
  · intro reads
    unfold seconds? at reads
    split at reads
    next digits => exact ⟨['+'], digits, rfl, .inr rfl, reads⟩
    next => exact ⟨[], text, rfl, .inl rfl, reads⟩
  · rintro ⟨sign, digits, rfl, rfl | rfl, reads⟩
    · rw [List.nil_append]
      unfold seconds?
      split
      next others =>
        -- Digits without a sign do not start with one, since a sign is no digit.
        have isDigit := (number?_eq_some_iff.mp reads).2.1 '+' List.mem_cons_self
        cases isDigit
      next => exact reads
    · exact reads

/-! ## The reader -/

/-- A sign is none or a plus sign, be it of bytes or of characters. -/
theorem signed_map_iff {sign : Bytes} :
    sign.map byteChar = [] ∨ sign.map byteChar = ['+'] ↔ sign = [] ∨ sign = [0x2B] := by
  have plus : ['+'] = [0x2B].map byteChar := rfl
  rw [plus, (List.map_injective_iff.mpr byteChar_injective).eq_iff, List.map_eq_nil_iff]

/-- A sign and digits are no blanks. -/
theorem isBlank_of_mem_signed {sign digits : List Char} (signed : sign = [] ∨ sign = ['+'])
    (areDigits : ∀ digit ∈ digits, digit.isDigit = true) :
    ∀ character ∈ sign ++ digits, isBlank character = false := by
  intro character member
  rcases List.mem_append.mp member with inSign | inDigits
  · rcases signed with rfl | rfl
    · cases inSign
    · obtain rfl := List.mem_singleton.mp inSign
      rfl
  · exact isBlank_of_isDigit (areDigits character inDigits)

/-- The numbers below `2 ^ 64` are those that fit into 64 bits. -/
theorem lt_size_iff {count : Nat} : count < UInt64.size ↔ count ≤ 2 ^ 64 - 1 :=
  Nat.lt_iff_le_pred (by decide)

/-- Bytes are read as a number of seconds just if they word it and it fits into 64 bits. -/
theorem seconds?_trim_map_eq_some_iff {bytes : Bytes} {count : Nat} :
    seconds? (trim (bytes.map byteChar)) = some count ↔
      Worded count bytes ∧ count ≤ 2 ^ 64 - 1 := by
  rw [seconds?_eq_some_iff, ← lt_size_iff]
  constructor
  · rintro ⟨sign, digits, trimmed, signed, reads⟩
    obtain ⟨nonempty, areDigits, denotes, fits⟩ := number?_eq_some_iff.mp reads
    obtain ⟨left, right, parted, leftBlank, rightBlank⟩ := exists_blanks_trim (bytes.map byteChar)
    -- The parts of the text are the texts of parts of the bytes.
    rw [trimmed] at parted
    obtain ⟨front, right, rfl, inFront, rfl⟩ := List.map_eq_append_iff.mp parted
    obtain ⟨left, solid, rfl, rfl, inside⟩ := List.map_eq_append_iff.mp inFront
    obtain ⟨sign, digits, rfl, rfl, rfl⟩ := List.map_eq_append_iff.mp inside
    rw [List.forall_mem_map] at leftBlank rightBlank areDigits
    refine ⟨.intro ?_ (signed_map_iff.mp signed) ?_ ?_ ((denoted_eq digits).trans denotes) ?_, fits⟩
    · exact fun byte member => isBlank_byteChar_iff.mp (leftBlank byte member)
    · exact fun empty => nonempty (List.map_eq_nil_iff.mpr empty)
    · exact fun digit member => isDigit_byteChar_iff.mp (areDigits digit member)
    · exact fun byte member => isBlank_byteChar_iff.mp (rightBlank byte member)
  · rintro ⟨@⟨left, sign, digits, right, leftBlank, signed, nonempty, decimal, denotes, rightBlank⟩,
      fits⟩
    have signed := signed_map_iff.mpr signed
    have nonempty : digits.map byteChar ≠ [] := fun empty => nonempty (List.map_eq_nil_iff.mp empty)
    have areDigits : ∀ digit ∈ digits.map byteChar, digit.isDigit = true :=
      List.forall_mem_map.mpr fun digit member => isDigit_byteChar_iff.mpr (decimal digit member)
    refine ⟨sign.map byteChar, digits.map byteChar, ?_, signed,
      number?_eq_some_iff.mpr ⟨nonempty, areDigits, (denoted_eq digits).symm.trans denotes, fits⟩⟩
    rw [List.map_append, List.map_append, List.map_append]
    refine trim_append ?_ (isBlank_of_mem_signed signed areDigits)
      (List.append_ne_nil_of_right_ne_nil _ nonempty) ?_
    · exact List.forall_mem_map.mpr fun byte member =>
        isBlank_byteChar_iff.mpr (leftBlank byte member)
    · exact List.forall_mem_map.mpr fun byte member =>
        isBlank_byteChar_iff.mpr (rightBlank byte member)

/-- Fields ask for a wait just if they state it. -/
theorem ofHeaders?_iff_stated {headers : Headers} {delay : Duration} :
    ofHeaders? headers = some delay ↔ ∃ count, Stated headers count ∧ delay = .ofSeconds count := by
  simp only [ofHeaders?_eq_some_iff, HeaderValue.text?_eq_some_iff, Stated]
  constructor
  · rintro ⟨value, text, count, first, ⟨allText, rfl⟩, reads, rfl⟩
    obtain ⟨worded, fits⟩ := seconds?_trim_map_eq_some_iff.mp reads
    exact ⟨count, ⟨value, first, allText, worded, fits⟩, rfl⟩
  · rintro ⟨count, ⟨value, first, allText, worded, fits⟩, rfl⟩
    exact ⟨value, _, count, first, ⟨allText, rfl⟩,
      seconds?_trim_map_eq_some_iff.mpr ⟨worded, fits⟩, rfl⟩

/-- Bytes that word a number are text. -/
theorem Worded.isText {count : Nat} {bytes : Bytes} (worded : Worded count bytes) :
    ∀ byte ∈ bytes, byte = 0x09 ∨ 0x20 ≤ byte ∧ byte ≤ 0x7E := by
  have blankText {byte : UInt8} (blank : byte = 0x20 ∨ byte = 0x09) :
      byte = 0x09 ∨ 0x20 ≤ byte ∧ byte ≤ 0x7E := by
    rcases blank with rfl | rfl
    · exact .inr (by decide)
    · exact .inl rfl
  obtain ⟨leftBlank, signed, _, decimal, _, rightBlank⟩ := worded
  intro byte member
  simp only [List.mem_append] at member
  rcases member with (inLeft | inSign | inDigits) | inRight
  · exact blankText (leftBlank byte inLeft)
  · rcases signed with rfl | rfl
    · cases inSign
    · obtain rfl := List.mem_singleton.mp inSign
      exact .inr (by decide)
  · obtain ⟨least, greatest⟩ := decimal byte inDigits
    exact .inr ⟨UInt8.le_trans (by decide) least, UInt8.le_trans greatest (by decide)⟩
  · exact blankText (rightBlank byte inRight)

/-- The decimal text of a number between blanks words it. -/
theorem worded_ofText (count : Nat) {left right : Bytes}
    (leftBlank : ∀ byte ∈ left, byte = 0x20 ∨ byte = 0x09)
    (rightBlank : ∀ byte ∈ right, byte = 0x20 ∨ byte = 0x09) :
    Worded count (left ++ Bytes.ofText (toString count) ++ right) := by
  have areDigits : ∀ digit ∈ Nat.toDigits 10 count, digit.isDigit = true :=
    fun digit member => Nat.isDigit_of_mem_toDigits (by decide) (by decide) member
  have written : (Bytes.ofText (toString count)).map byteChar = Nat.toDigits 10 count :=
    map_byteChar_ofText fun digit member => by
      have bounds := areDigits digit member
      rw [Char.isDigit, Bool.and_eq_true, decide_eq_true_eq, decide_eq_true_eq] at bounds
      exact UInt32.le_trans bounds.2 (by decide)
  rw [← List.nil_append (Bytes.ofText (toString count))]
  refine .intro leftBlank (.inl rfl) ?_ ?_ ?_ rightBlank
  · intro empty
    rw [empty] at written
    exact Nat.toDigits_ne_nil written.symm
  · intro digit member
    refine isDigit_byteChar_iff.mp (areDigits _ ?_)
    rw [← written]
    exact List.mem_map_of_mem member
  · rw [denoted_eq, written, Nat.ofDigitChars_toDigits (by decide) (by decide)]

/-- Waits of different numbers of seconds differ. -/
theorem ofSeconds_injective : Function.Injective Duration.ofSeconds := by
  intro left right same
  have nanos : left * 1000000000 = right * 1000000000 := congrArg Duration.nanos same
  omega

/-- The law of the reader. Fields ask for a wait of some seconds just if they state it, and for
nothing in every other case. The decimal text of a number of 64 bits, between any spaces and tabs,
asks for that many seconds. -/
theorem accepts_stated (headers : Headers) :
    (∀ count, ofHeaders? headers = some (.ofSeconds count) ↔ Stated headers count) ∧
      (ofHeaders? headers = none ↔ ∀ count, ¬ Stated headers count) ∧
      ∀ value count left right,
        (headers.values .retryAfter).head? = some value →
        value.bytes = left ++ Bytes.ofText (toString count) ++ right →
        (∀ byte ∈ left, byte = 0x20 ∨ byte = 0x09) →
        (∀ byte ∈ right, byte = 0x20 ∨ byte = 0x09) → count ≤ 2 ^ 64 - 1 →
          ofHeaders? headers = some (.ofSeconds count) := by
  have asks {count : Nat} :
      ofHeaders? headers = some (.ofSeconds count) ↔ Stated headers count := by
    rw [ofHeaders?_iff_stated]
    constructor
    · rintro ⟨other, stated, same⟩
      rwa [ofSeconds_injective same]
    · exact fun stated => ⟨count, stated, rfl⟩
  refine ⟨fun count => asks, ?nothing, ?written⟩
  case nothing =>
    rw [Option.eq_none_iff_forall_ne_some]
    constructor
    · exact fun none count stated => none _ (asks.mpr stated)
    · intro silent delay asked
      obtain ⟨count, stated, _⟩ := ofHeaders?_iff_stated.mp asked
      exact silent count stated
  case written =>
    intro value count left right first written leftBlank rightBlank fits
    have worded : Worded count value.bytes := written ▸ worded_ofText count leftBlank rightBlank
    exact asks.mpr ⟨value, first, worded.isText, worded, fits⟩

/-- The greatest number of 64 bits, between a space and a tab, asks for that many seconds. -/
theorem accepts_greatest :
    let value : HeaderValue :=
      { bytes := [0x20] ++ Bytes.ofText (toString (2 ^ 64 - 1)) ++ [0x09] }
    ofHeaders? (Headers.empty.append .retryAfter value) = some (.ofSeconds (2 ^ 64 - 1)) := by
  intro value
  exact (accepts_stated _).2.2 value _ [0x20] [0x09] rfl rfl (by simp) (by simp) (Nat.le_refl _)

end RetryAfter

end Outbound
