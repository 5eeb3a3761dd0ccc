import Mathlib.Algebra.Ring.Parity
import Outbound.Proofs.Path.Idempotence

/-! # Templates by position

The templates of segments are told from left to right, with a note of whether a site is named next.
The same templates can be told at each position alone: a site is named there if the run of markers
right before it has odd length, since every second marker of a run is the name of a site itself.

* `Identifier` describes the segments that identify one thing among many, and
  `isIdentifier_iff` says that the test for identifiers finds just these.
* `MarkerRun` is the longest run of markers that ends before a position, `markersBefore` counts it.
* `named_take` says what is noted when a position is reached, and `getElem?_templates` what stands
  there.
* `template_described` is the law of all paths. -/

namespace Outbound.Path

/-! ## Identifiers -/

/-- The decimal digits of ASCII. -/
def decimalDigits : List Char := "0123456789".toList

/-- The hexadecimal digits of ASCII. -/
def hexDigits : List Char := "0123456789abcdefABCDEF".toList

/-- The segments that identify one thing among many. -/
inductive Identifier : Segment → Prop where
  /-- A UUID: groups of 8, 4, 4, 4 and 12 hexadecimal digits with dashes between them. -/
  | uuid {first second third fourth fifth : Segment}
      (lengths : first.length = 8 ∧ second.length = 4 ∧ third.length = 4 ∧ fourth.length = 4 ∧
        fifth.length = 12)
      (digits : ∀ digit ∈ first ++ second ++ third ++ fourth ++ fifth, digit ∈ hexDigits) :
      Identifier (first ++ '-' :: second ++ '-' :: third ++ '-' :: fourth ++ '-' :: fifth)
  /-- An object identifier: twenty-four hexadecimal digits. -/
  | objectId {segment : Segment} (length : segment.length = 24)
      (digits : ∀ digit ∈ segment, digit ∈ hexDigits) : Identifier segment
  /-- A number of five decimal digits or more. -/
  | longNumber {segment : Segment} (length : 5 ≤ segment.length)
      (digits : ∀ digit ∈ segment, digit ∈ decimalDigits) : Identifier segment

/-- A list with the characters of a range of codes has every character of the range. -/
theorem mem_of_codes {characters : List Char} (first count : Nat)
    (codes : ∀ offset < count, Char.ofNat (first + offset) ∈ characters) {character : Char}
    (least : first ≤ character.toNat) (greatest : character.toNat < first + count) :
    character ∈ characters := by
  have here := codes (character.toNat - first) (by omega)
  rwa [Nat.add_sub_of_le least, Char.ofNat_toNat] at here

/-- The test for decimal digits finds just the digits of ASCII. -/
theorem isDigit_iff {character : Char} :
    character.isDigit = true ↔ character ∈ decimalDigits := by
  constructor
  · intro digit
    simp only [Char.isDigit, Bool.and_eq_true, decide_eq_true_eq, UInt32.le_iff_toNat_le] at digit
    exact mem_of_codes 48 10 (by decide) digit.1 (Nat.lt_succ_of_le digit.2)
  · have all : decimalDigits.all Char.isDigit = true := by decide
    exact List.all_eq_true.mp all character

/-- The test for hexadecimal digits finds just the digits of ASCII. -/
theorem isHexDigit_iff {character : Char} :
    isHexDigit character = true ↔ character ∈ hexDigits := by
  constructor
  · intro digit
    simp only [isHexDigit, Char.isDigit, Bool.or_eq_true, Bool.and_eq_true, decide_eq_true_eq,
      Char.le_def, UInt32.le_iff_toNat_le] at digit
    rcases digit with (⟨least, greatest⟩ | ⟨least, greatest⟩) | ⟨least, greatest⟩
    · exact mem_of_codes 48 10 (by decide) least (Nat.lt_succ_of_le greatest)
    · exact mem_of_codes 97 6 (by decide) least (Nat.lt_succ_of_le greatest)
    · exact mem_of_codes 65 6 (by decide) least (Nat.lt_succ_of_le greatest)
  · have all : hexDigits.all isHexDigit = true := by decide
    exact List.all_eq_true.mp all character

/-- A segment is hexadecimal if all its characters are hexadecimal digits. -/
theorem all_isHexDigit_iff {segment : Segment} :
    segment.all isHexDigit = true ↔ ∀ digit ∈ segment, digit ∈ hexDigits := by
  simp only [List.all_eq_true, isHexDigit_iff]

/-- The groups of a UUID are those between its dashes, since a digit is no dash. -/
theorem isUuid_iff {segment : Segment} :
    isUuid segment = true ↔
      ∃ first second third fourth fifth : Segment,
        segment = first ++ '-' :: second ++ '-' :: third ++ '-' :: fourth ++ '-' :: fifth ∧
        (first.length = 8 ∧ second.length = 4 ∧ third.length = 4 ∧ fourth.length = 4 ∧
          fifth.length = 12) ∧
        ∀ digit ∈ first ++ second ++ third ++ fourth ++ fifth, digit ∈ hexDigits := by
  have joined (first second third fourth fifth : Segment) :
      ['-'].intercalate [first, second, third, fourth, fifth]
        = first ++ '-' :: second ++ '-' :: third ++ '-' :: fourth ++ '-' :: fifth := by
    simp [List.intercalate]
  rw [isUuid, Bool.and_eq_true, beq_iff_eq, List.all_eq_true]
  simp only [all_isHexDigit_iff]
  constructor
  · rintro ⟨lengths, digits⟩
    have parted : ['-'].intercalate (segment.splitOn '-') = segment := List.intercalate_splitOn '-'
    obtain ⟨first, second, third, fourth, fifth, groups, counts⟩ :
        ∃ first second third fourth fifth,
          segment.splitOn '-' = [first, second, third, fourth, fifth] ∧ first.length = 8 ∧
            second.length = 4 ∧ third.length = 4 ∧ fourth.length = 4 ∧ fifth.length = 12 := by
      simpa [uuidGroups, List.map_eq_cons_iff] using lengths
    rw [groups] at parted digits
    refine ⟨first, second, third, fourth, fifth, parted.symm.trans (joined ..), counts, ?_⟩
    simpa [or_imp, forall_and] using digits
  · rintro ⟨first, second, third, fourth, fifth, rfl, counts, digits⟩
    have digits : ∀ group ∈ [first, second, third, fourth, fifth], ∀ digit ∈ group,
        digit ∈ hexDigits := by simpa [or_imp, forall_and] using digits
    have dashless : ∀ group ∈ [first, second, third, fourth, fifth], '-' ∉ group :=
      fun group member dash => absurd (digits group member '-' dash) (by decide)
    rw [← joined, List.splitOn_intercalate '-' dashless (by simp)]
    exact ⟨by simp [uuidGroups, counts], digits⟩

/-- The test for identifiers finds just these. -/
theorem isIdentifier_iff {segment : Segment} :
    isIdentifier segment = true ↔ Identifier segment := by
  rw [isIdentifier, Bool.or_eq_true, Bool.or_eq_true, isUuid_iff, isObjectId, isLongNumber,
    Bool.and_eq_true, Bool.and_eq_true, beq_iff_eq, decide_eq_true_iff, all_isHexDigit_iff,
    List.all_eq_true]
  simp only [isDigit_iff]
  constructor
  · rintro ((⟨_, _, _, _, _, rfl, lengths, digits⟩ | ⟨length, digits⟩) | ⟨length, digits⟩)
    · exact .uuid lengths digits
    · exact .objectId length digits
    · exact .longNumber length digits
  · rintro (⟨lengths, digits⟩ | ⟨length, digits⟩ | ⟨length, digits⟩)
    · exact .inl (.inl ⟨_, _, _, _, _, rfl, lengths, digits⟩)
    · exact .inl (.inr ⟨length, digits⟩)
    · exact .inr ⟨length, digits⟩

instance (segment : Segment) : Decidable (Identifier segment) :=
  decidable_of_iff _ isIdentifier_iff

/-! ## Runs of markers -/

/-- The longest run of markers that ends right before a position has this length. -/
structure MarkerRun (parts : List Segment) (stop length : Nat) : Prop where
  /-- It does not start before the first segment. -/
  inside : length ≤ stop
  /-- It consists of markers. -/
  markers : ∀ position, stop - length ≤ position → position < stop →
    parts[position]? = some siteMarker
  /-- There is no marker right before it. -/
  longest : length < stop → parts[stop - length - 1]? ≠ some siteMarker

/-- The number of markers right before a position. -/
def markersBefore (parts : List Segment) : Nat → Nat
  | 0 => 0
  | stop + 1 => if parts[stop]? = some siteMarker then markersBefore parts stop + 1 else 0

variable {parts : List Segment} {position : Nat} {segment : Segment}

/-- The markers right before a position are the longest run. -/
theorem markerRun_markersBefore (parts : List Segment) (stop : Nat) :
    MarkerRun parts stop (markersBefore parts stop) := by
  induction stop with
  | zero => exact ⟨Nat.le_refl 0, by simp, by simp⟩
  | succ stop inductionHypothesis =>
      obtain ⟨inside, markers, longest⟩ := inductionHypothesis
      rw [markersBefore]
      split
      next marker =>
        refine ⟨by omega, fun position since upTo => ?_, fun longer => ?_⟩
        · by_cases last : position = stop
          · rw [last, marker]
          · exact markers position (by omega) (by omega)
        · rw [Nat.add_sub_add_right]
          exact longest (by omega)
      next other =>
        exact ⟨by omega, fun position since upTo => by omega, fun _ => other⟩

/-- There is only one longest run of markers right before a position. -/
theorem MarkerRun.unique {stop first second : Nat} (one : MarkerRun parts stop first)
    (other : MarkerRun parts stop second) : first = second := by
  have notShorter {shorter longer : Nat} (short : MarkerRun parts stop shorter)
      (long : MarkerRun parts stop longer) : ¬ shorter < longer := by
    intro less
    have inside := long.inside
    exact short.longest (by omega) (long.markers _ (by omega) (by omega))
  exact Nat.le_antisymm (Nat.le_of_not_lt (notShorter other one))
    (Nat.le_of_not_lt (notShorter one other))

/-- A segment names a site at a position if it is not empty and the longest run of markers right
before it has odd length. -/
def NamesSite (parts : List Segment) (position : Nat) (segment : Segment) : Prop :=
  segment ≠ [] ∧ ∃ length, MarkerRun parts position length ∧ Odd length

/-- Whether a site is named is told by the number of markers right before it. -/
theorem namesSite_iff :
    NamesSite parts position segment ↔ segment ≠ [] ∧ Odd (markersBefore parts position) := by
  have run := markerRun_markersBefore parts position
  refine and_congr_right fun _ => ⟨?_, fun odd => ⟨_, run, odd⟩⟩
  rintro ⟨length, counted, odd⟩
  rwa [run.unique counted]

instance : Decidable (NamesSite parts position segment) := decidable_of_iff _ namesSite_iff.symm

/-! ## From left to right -/

/-- Whether a site is named next, behind a segment. -/
def namedBehind (named : Bool) (segment : Segment) : Bool :=
  !(named && !segment.isEmpty) && segment == siteMarker

/-- What stands for a segment, given whether a site is named next. -/
def templateOf (named : Bool) (segment : Segment) : Segment :=
  if named && !segment.isEmpty then sitePlaceholder else plainTemplate segment

/-- Without segments there are no templates. -/
@[simp] theorem templates_nil (named : Bool) : templates named [] = [] := rfl

/-- The templates are told one by one, with the note of whether a site is named next. -/
theorem templates_cons (named : Bool) (segment : Segment) (others : List Segment) :
    templates named (segment :: others)
      = templateOf named segment :: templates (namedBehind named segment) others := by
  rw [templates, templateOf, namedBehind]
  split
  next replaced => rw [replaced]; rfl
  next plain => rw [Bool.eq_false_iff.mpr plain]; rfl

/-- What stands at a position depends on the segments before it by what is noted behind them. -/
theorem getElem?_templates (named : Bool) (parts : List Segment) (position : Nat) :
    (templates named parts)[position]?
      = parts[position]?.map (templateOf ((parts.take position).foldl namedBehind named)) := by
  induction parts generalizing named position with
  | nil => rfl
  | cons segment others inductionHypothesis =>
      rw [templates_cons]
      cases position with
      | zero => rfl
      | succ position => exact inductionHypothesis (namedBehind named segment) position

/-- A marker that is no name of a site itself is noted; every other segment ends the run. -/
theorem namedBehind_eq (named : Bool) (segment : Segment) :
    namedBehind named segment = if segment = siteMarker then !named else false := by
  split
  next marker => rw [marker]; cases named <;> rfl
  next other => rw [namedBehind, beq_eq_false_iff_ne.mpr other, Bool.and_false]

/-- A site is named next if the number of markers right before is odd. -/
theorem named_take (parts : List Segment) (position : Nat) (inside : position ≤ parts.length) :
    (parts.take position).foldl namedBehind false
      = decide (Odd (markersBefore parts position)) := by
  induction position with
  | zero => rfl
  | succ position inductionHypothesis =>
      have here : parts[position]? = some parts[position] := List.getElem?_eq_getElem inside
      rw [List.take_add_one, here, Option.toList_some, List.foldl_append,
        inductionHypothesis (Nat.le_of_succ_le inside), List.foldl_cons, List.foldl_nil,
        namedBehind_eq, markersBefore]
      by_cases marker : parts[position] = siteMarker
      · have run : parts[position]? = some siteMarker := here.trans (congrArg some marker)
        rw [if_pos marker, if_pos run, ← decide_not]
        exact decide_eq_decide.mpr Nat.odd_add_one.symm
      · have ended : parts[position]? ≠ some siteMarker := fun run =>
          marker (Option.some.inj (here.symm.trans run))
        rw [if_neg marker, if_neg ended]
        rfl

/-! ## The law of positions -/

/-- What stands for a segment at a position: the placeholder of sites for what names one, the
placeholder of identifiers for any other identifier, and otherwise the segment itself. -/
def described (parts : List Segment) (position : Nat) (segment : Segment) : Segment :=
  if NamesSite parts position segment then ":site".toList
  else if Identifier segment then ":id".toList
  else segment

/-- What stands for a segment is told by its position. -/
theorem templateOf_take (inside : position ≤ parts.length) :
    templateOf ((parts.take position).foldl namedBehind false) segment
      = described parts position segment := by
  have named : (decide (Odd (markersBefore parts position)) && !segment.isEmpty) = true ↔
      NamesSite parts position segment := by
    rw [namesSite_iff, Bool.and_eq_true, decide_eq_true_iff, Bool.not_eq_true',
      List.isEmpty_eq_false_iff, and_comm]
  rw [named_take parts position inside, templateOf, described, plainTemplate]
  simp only [named, isIdentifier_iff]
  rfl

/-- The law of positions. A template has as many segments as its path. At a position behind a
longest run of markers of odd length, a segment that is not empty is replaced by the placeholder of
sites; at all other positions an identifier is replaced by the placeholder of identifiers, and any
other segment stands as it is. -/
theorem template_described (path : String) :
    (segments (template path)).length = (segments path).length ∧
      segments (template path) = (segments path).mapIdx (described (segments path)) ∧
      template path = ofSegments ((segments path).mapIdx (described (segments path))) := by
  have parts : templates false (segments path)
      = (segments path).mapIdx (described (segments path)) := by
    refine List.ext_getElem? fun position => ?_
    rw [getElem?_templates, List.getElem?_mapIdx]
    cases here : (segments path)[position]? with
    | none => rfl
    | some segment =>
        have inside := (List.getElem?_eq_some_iff.mp here).1
        exact congrArg some (templateOf_take (Nat.le_of_lt inside))
  refine ⟨?_, (segments_template path).trans parts, congrArg ofSegments parts⟩
  rw [segments_template, length_templates]

/-- Every second marker of a run is a name, and an empty segment ends the run without one. -/
example :
    templates false ["site".toList, "site".toList, "site".toList, "12345".toList, "site".toList, [],
        "12345".toList]
      = ["site".toList, ":site".toList, "site".toList, ":site".toList, "site".toList, [],
        ":id".toList] := by decide

end Outbound.Path
