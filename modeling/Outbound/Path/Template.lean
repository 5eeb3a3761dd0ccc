import Outbound.Text.Hex

/-! # Path templates

Metrics label a request by a template of its path, in which identifiers and site names are replaced
by placeholders. Paths that differ in those only share one label.

* `Path.template` replaces, segment by segment, what is an identifier, and whatever stands behind a
  segment `site`.
* `Path.isIdentifier` tells identifiers: UUIDs, object identifiers and numbers of five digits or
  more. -/

namespace Outbound.Path

/-- A segment of a path: the characters between two slashes. -/
abbrev Segment := List Char

/-! ## Identifiers -/

/-- The lengths of the groups of a UUID. -/
def uuidGroups : List Nat := [8, 4, 4, 4, 12]

/-- Whether a segment is a UUID: groups of hexadecimal digits with dashes between them. -/
def isUuid (segment : Segment) : Bool :=
  let groups := segment.splitOn '-'
  groups.map List.length == uuidGroups && groups.all fun group => group.all isHexDigit

/-- Whether a segment is an object identifier: twenty-four hexadecimal digits. -/
def isObjectId (segment : Segment) : Bool :=
  segment.length == 24 && segment.all isHexDigit

/-- Whether a segment is a number too long for a version or a year: five digits or more. -/
def isLongNumber (segment : Segment) : Bool :=
  decide (5 ≤ segment.length) && segment.all Char.isDigit

/-- Whether a segment identifies one thing among many. -/
def isIdentifier (segment : Segment) : Bool :=
  isUuid segment || isObjectId segment || isLongNumber segment

/-! ## Templates -/

/-- What stands for an identifier. -/
def idPlaceholder : Segment := ":id".toList

/-- What stands for the name of a site. -/
def sitePlaceholder : Segment := ":site".toList

/-- The segment behind which a site is named. -/
def siteMarker : Segment := "site".toList

/-- The template of a segment that names no site. -/
def plainTemplate (segment : Segment) : Segment :=
  if isIdentifier segment then idPlaceholder else segment

/-- The templates of segments; `named` tells whether a site is named next. A named site never opens
the name of another one, and an empty segment names none. -/
def templates (named : Bool) : List Segment → List Segment
  | [] => []
  | segment :: others =>
      if named && !segment.isEmpty then sitePlaceholder :: templates false others
      else plainTemplate segment :: templates (segment == siteMarker) others

/-- The segments of a path. -/
def segments (path : String) : List Segment := path.toList.splitOn '/'

/-- The path with given segments. -/
def ofSegments (parts : List Segment) : String := String.ofList (['/'].intercalate parts)

/-- The template of a path. -/
def template (path : String) : String := ofSegments (templates false (segments path))

/-- There are as many templates as segments. -/
@[simp] theorem length_templates (named : Bool) (parts : List Segment) :
    (templates named parts).length = parts.length := by
  induction parts generalizing named with
  | nil => rfl
  | cons segment others inductionHypothesis =>
      simp only [templates]
      split <;> simp [inductionHypothesis]

end Outbound.Path
