import Mathlib.Data.Finset.Insert
import Outbound.Proofs.Path.Positions

/-! # Paths with one template

Paths that differ in nothing but identifiers and names of sites have one template. A name may be a
marker and an identifier may stand where a site is named: what is noted behind such a segment does
not depend on what it is.

* `namedBehind_of_templateOf` says that the same site is named next behind segments with the same
  template, and `templates_eq_iff` carries this along two paths.
* `Alike` compares two paths position by position; `template_eq_iff_alike` says that it finds just
  the paths with one template.
* `template_replaced` is the law of replaced segments. -/

namespace Outbound.Path

variable {parts others : List Segment} {position : Nat} {segment other : Segment}

/-! ## Segments with one template -/

/-- A segment is shown as an identifier if it is one or if it is written as their placeholder. -/
def ShownAsIdentifier (segment : Segment) : Prop := Identifier segment ∨ segment = ":id".toList

/-- The empty segment is not shown as an identifier. -/
theorem not_shownAsIdentifier_nil : ¬ ShownAsIdentifier [] := by
  rintro (identifier | placeholder)
  · exact absurd (isIdentifier_iff.mpr identifier) (by decide)
  · cases placeholder

/-- The template of a segment that names no site is the placeholder of identifiers just if the
segment is shown as one. -/
theorem plainTemplate_eq_idPlaceholder_iff :
    plainTemplate segment = idPlaceholder ↔ ShownAsIdentifier segment := by
  rw [plainTemplate, ShownAsIdentifier, ← isIdentifier_iff]
  split
  next identifier => exact iff_of_true rfl (.inl identifier)
  next plain => exact (or_iff_right plain).symm

/-- Segments that name no site have one template if they are the same or both shown as
identifiers. -/
theorem plainTemplate_eq_iff :
    plainTemplate other = plainTemplate segment ↔
      other = segment ∨ (ShownAsIdentifier segment ∧ ShownAsIdentifier other) := by
  have self {plain : Segment} (shown : ¬ ShownAsIdentifier plain) : plainTemplate plain = plain :=
    if_neg fun identifier => shown (.inl (isIdentifier_iff.mp identifier))
  by_cases first : ShownAsIdentifier segment
  · rw [plainTemplate_eq_idPlaceholder_iff.mpr first, plainTemplate_eq_idPlaceholder_iff]
    exact ⟨fun second => .inr ⟨first, second⟩, fun either => either.elim (· ▸ first) And.right⟩
  · by_cases second : ShownAsIdentifier other
    · rw [plainTemplate_eq_idPlaceholder_iff.mpr second, eq_comm,
        plainTemplate_eq_idPlaceholder_iff]
      exact ⟨fun shown => absurd shown first, fun either => either.elim (· ▸ second) And.left⟩
    · rw [self first, self second]
      exact ⟨.inl, fun either => either.resolve_right fun both => first both.1⟩

/-- Where no site is named next, a segment has its own template. -/
theorem templateOf_false : templateOf false segment = plainTemplate segment := rfl

/-- Where a site is named next, every segment is its name but the empty one. -/
theorem templateOf_true :
    templateOf true segment = if segment = [] then [] else sitePlaceholder := by
  cases segment <;> rfl

/-- Segments have one template if they are the same, if both are shown as identifiers, or if both
are names of sites. -/
theorem templateOf_eq_iff {named : Bool} :
    templateOf named other = templateOf named segment ↔
      other = segment ∨ (ShownAsIdentifier segment ∧ ShownAsIdentifier other) ∨
        (named = true ∧ segment ≠ [] ∧ other ≠ []) := by
  cases named with
  | false => simp [templateOf_false, plainTemplate_eq_iff]
  | true =>
      have apart : sitePlaceholder ≠ [] := by decide
      rw [templateOf_true, templateOf_true]
      by_cases first : segment = [] <;> by_cases second : other = []
      · simp [first, second]
      · simp [first, second, apart, not_shownAsIdentifier_nil]
      · simp [first, second, apart.symm, not_shownAsIdentifier_nil, Ne.symm first]
      · simp [first, second]

/-- Behind segments with one template the same is noted. -/
theorem namedBehind_of_templateOf {named : Bool}
    (same : templateOf named other = templateOf named segment) :
    namedBehind named other = namedBehind named segment := by
  cases named with
  | false =>
      -- A marker that names no site is kept in the template, and nothing else becomes one there.
      rw [templateOf_false, templateOf_false] at same
      calc (other == siteMarker)
          = (plainTemplate other == siteMarker) := (plainTemplate_beq_siteMarker other).symm
        _ = (plainTemplate segment == siteMarker) := by rw [same]
        _ = (segment == siteMarker) := plainTemplate_beq_siteMarker segment
  | true => rw [namedBehind_eq, namedBehind_eq, Bool.not_true, ite_self, ite_self]

/-! ## Paths with one template -/

/-- Segments have the same templates if at each position they have one template, given what is noted
there for one of the two. -/
theorem templates_eq_iff (named : Bool) (parts others : List Segment) :
    templates named others = templates named parts ↔
      others.length = parts.length ∧
        ∀ position segment other, parts[position]? = some segment →
          others[position]? = some other →
          templateOf ((parts.take position).foldl namedBehind named) other
            = templateOf ((parts.take position).foldl namedBehind named) segment := by
  induction parts generalizing named others with
  | nil => cases others <;> simp [templates_cons]
  | cons segment parts inductionHypothesis =>
      cases others with
      | nil => simp [templates_cons]
      | cons other others =>
          rw [templates_cons, templates_cons, List.cons.injEq, List.length_cons, List.length_cons,
            Nat.add_right_cancel_iff]
          constructor
          · rintro ⟨first, further⟩
            -- The same is noted behind both first segments, so the others are told in one way.
            rw [namedBehind_of_templateOf first] at further
            obtain ⟨lengths, each⟩ := (inductionHypothesis _ _).mp further
            refine ⟨lengths, fun position => ?_⟩
            cases position with
            | zero => simpa using first
            | succ position => exact each position
          · rintro ⟨lengths, each⟩
            have first : templateOf named other = templateOf named segment :=
              each 0 segment other rfl rfl
            refine ⟨first, ?_⟩
            rw [namedBehind_of_templateOf first]
            exact (inductionHypothesis _ _).mpr ⟨lengths, fun position => each (position + 1)⟩

/-- Paths have one template just if their segments have the same templates. -/
theorem template_eq_iff {path another : String} :
    template another = template path ↔
      templates false (segments another) = templates false (segments path) := by
  refine ⟨fun same => ?_, congrArg ofSegments⟩
  rw [← segments_template, ← segments_template, same]

/-- Lists of segments differ in nothing but what is shown as an identifier, and the names of
sites. -/
structure Alike (parts others : List Segment) : Prop where
  /-- There are as many segments. -/
  sameLength : others.length = parts.length
  /-- At a position there is the same segment, there are two that are shown as identifiers, or there
  are two names of sites. -/
  alike {position : Nat} {segment other : Segment} (here : parts[position]? = some segment)
    (there : others[position]? = some other) :
    other = segment ∨ (ShownAsIdentifier segment ∧ ShownAsIdentifier other) ∨
      (NamesSite parts position segment ∧ other ≠ [])

/-- What is noted for one of the paths at a position tells the names of sites of both. -/
theorem templateOf_take_eq_iff (here : parts[position]? = some segment) :
    templateOf ((parts.take position).foldl namedBehind false) other
        = templateOf ((parts.take position).foldl namedBehind false) segment ↔
      other = segment ∨ (ShownAsIdentifier segment ∧ ShownAsIdentifier other) ∨
        (NamesSite parts position segment ∧ other ≠ []) := by
  have inside : position ≤ parts.length := Nat.le_of_lt (List.getElem?_eq_some_iff.mp here).1
  rw [templateOf_eq_iff, named_take parts position inside, namesSite_iff, decide_eq_true_iff]
  tauto

/-- Paths have one template just if they are alike. -/
theorem template_eq_iff_alike {path another : String} :
    template another = template path ↔ Alike (segments path) (segments another) := by
  rw [template_eq_iff, templates_eq_iff]
  constructor
  · rintro ⟨lengths, each⟩
    exact ⟨lengths, fun here there =>
      (templateOf_take_eq_iff here).mp (each _ _ _ here there)⟩
  · rintro ⟨lengths, alike⟩
    exact ⟨lengths, fun position segment other here there =>
      (templateOf_take_eq_iff here).mpr (alike here there)⟩

/-! ## Replaced segments -/

/-- The segments with chosen ones at some positions. -/
def replaced (positions : Finset Nat) (chosen : Nat → Segment) (parts : List Segment) :
    List Segment :=
  parts.mapIdx fun position segment => if position ∈ positions then chosen position else segment

/-- There is no slash in an identifier. -/
theorem Identifier.slashless (identifier : Identifier segment) : '/' ∉ segment := by
  intro slash
  have noDigit : '/' ∉ hexDigits ∧ '/' ∉ decimalDigits := by decide
  cases identifier with
  | uuid lengths digits =>
      refine noDigit.1 (digits '/' ?_)
      simpa using slash
  | objectId length digits => exact noDigit.1 (digits '/' slash)
  | longNumber length digits => exact noDigit.2 (digits '/' slash)

/-- At each position of a replaced path there is the chosen segment or the one of the path. -/
theorem getElem?_replaced (positions : Finset Nat) (chosen : Nat → Segment) :
    (replaced positions chosen parts)[position]?
      = parts[position]?.map fun segment =>
        if position ∈ positions then chosen position else segment := by
  rw [replaced, List.getElem?_mapIdx]

/-- A replaced path falls into its segments if there is no slash in any of them. -/
theorem segments_replaced {path : String} {positions : Finset Nat} {chosen : Nat → Segment}
    (slashless : ∀ position ∈ positions, ∀ segment, (segments path)[position]? = some segment →
      '/' ∉ chosen position) :
    segments (ofSegments (replaced positions chosen (segments path)))
      = replaced positions chosen (segments path) := by
  refine segments_ofSegments ?_ fun part member => ?_
  · rw [← List.length_pos_iff, replaced, List.length_mapIdx, List.length_pos_iff]
    exact segments_ne_nil path
  · obtain ⟨position, there⟩ := List.mem_iff_getElem?.mp member
    rw [getElem?_replaced] at there
    obtain ⟨segment, here, rfl⟩ := Option.map_eq_some_iff.mp there
    split
    next inside => exact slashless position inside segment here
    next outside => exact slashless_of_mem_splitOn (List.mem_of_getElem? here)

/-- What stands for a segment is no identifier. -/
theorem not_identifier_templateOf (named : Bool) (segment : Segment) :
    ¬ Identifier (templateOf named segment) := by
  rw [← isIdentifier_iff, templateOf, plainTemplate]
  split
  next site => decide
  next plain =>
    split
    next identifier => decide
    next other => exact other

/-- The law of replaced segments. Identifiers may be replaced by identifiers, and names of sites by
any segments that are not empty, at any positions of a path at once, without a change to its
template. No segment of a template is an identifier. Paths have one template just if they have as
many segments and differ at no position in anything but what is shown as an identifier or names a
site. -/
theorem template_replaced (path : String) :
    (∀ (positions : Finset Nat) (chosen : Nat → Segment),
      (∀ position ∈ positions, ∀ segment, (segments path)[position]? = some segment →
        (Identifier segment ∧ Identifier (chosen position)) ∨
          (NamesSite (segments path) position segment ∧ chosen position ≠ [] ∧
            '/' ∉ chosen position)) →
      template (ofSegments (replaced positions chosen (segments path))) = template path) ∧
    (∀ segment ∈ segments (template path), ¬ Identifier segment) ∧
    (∀ another, template another = template path ↔ Alike (segments path) (segments another)) := by
  refine ⟨fun positions chosen allowed => ?replaced, ?plain, fun _ => template_eq_iff_alike⟩
  case replaced =>
    have slashless : ∀ position ∈ positions, ∀ segment,
        (segments path)[position]? = some segment → '/' ∉ chosen position := by
      intro position inside segment here
      rcases allowed position inside segment here with ⟨_, identifier⟩ | ⟨_, _, slashless⟩
      · exact identifier.slashless
      · exact slashless
    rw [template_eq_iff_alike, segments_replaced slashless]
    refine ⟨List.length_mapIdx, fun {position segment other} here there => ?_⟩
    rw [getElem?_replaced, here] at there
    obtain rfl := Option.some.inj there
    split
    next inside =>
      rcases allowed position inside segment here with ⟨first, second⟩ | ⟨names, some, _⟩
      · exact .inr (.inl ⟨.inl first, .inl second⟩)
      · exact .inr (.inr ⟨names, some⟩)
    next outside => exact .inl rfl
  case plain =>
    intro segment member
    obtain ⟨position, there⟩ := List.mem_iff_getElem?.mp member
    rw [segments_template, getElem?_templates] at there
    obtain ⟨original, _, rfl⟩ := Option.map_eq_some_iff.mp there
    exact not_identifier_templateOf _ original

/-- The name of a site is replaced by a marker, and the number of an order by an object
identifier. -/
theorem template_replaced_order :
    let path := "/site/main/orders/12345"
    let another := "/site/site/orders/507f1f77bcf86cd799439011"
    let positions : Finset Nat := {2, 4}
    let chosen : Nat → Segment := fun position => ((segments another)[position]?).getD []
    (∀ position ∈ positions, ∀ segment, (segments path)[position]? = some segment →
      (Identifier segment ∧ Identifier (chosen position)) ∨
        (NamesSite (segments path) position segment ∧ chosen position ≠ [] ∧
          '/' ∉ chosen position)) ∧
      replaced positions chosen (segments path) = segments another ∧
      template (ofSegments (replaced positions chosen (segments path))) = template path := by
  intro path another positions chosen
  have allowed : ∀ position ∈ positions, ∀ segment, (segments path)[position]? = some segment →
      (Identifier segment ∧ Identifier (chosen position)) ∨
        (NamesSite (segments path) position segment ∧ chosen position ≠ [] ∧
          '/' ∉ chosen position) := by
    intro position inside segment here
    rcases Finset.mem_insert.mp inside with second | last
    · obtain rfl : segment = "main".toList :=
        Option.some.inj (here.symm.trans (by rw [second]; decide))
      rw [second]
      exact .inr ⟨by decide, by decide, by decide⟩
    · obtain rfl : segment = "12345".toList :=
        Option.some.inj (here.symm.trans (by rw [Finset.mem_singleton.mp last]; decide))
      rw [Finset.mem_singleton.mp last]
      exact .inl ⟨by decide, by decide⟩
  exact ⟨allowed, by decide, (template_replaced path).1 positions chosen allowed⟩

/-- A segment whose template is the placeholder of sites need not name a site: it may be written as
the placeholder. Another segment in its place gives another template. -/
theorem template_written_placeholder :
    ¬ ∀ (path : String) (positions : Finset Nat) (chosen : Nat → Segment),
      (∀ position ∈ positions, ∀ segment, (segments path)[position]? = some segment →
        (Identifier segment ∧ Identifier (chosen position)) ∨
          ((segments (template path))[position]? = some sitePlaceholder ∧
            chosen position ≠ [] ∧ '/' ∉ chosen position)) →
      template (ofSegments (replaced positions chosen (segments path))) = template path := by
  intro all
  have same := all "/:site" {1} (fun _ => "abc".toList) (by
    intro position inside segment here
    obtain rfl := Finset.mem_singleton.mp inside
    exact .inr ⟨by decide, by decide, by decide⟩)
  exact absurd same (by decide)

end Outbound.Path
