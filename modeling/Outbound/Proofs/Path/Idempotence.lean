import Outbound.Path.Template

/-! # Templates of templates

The template of a path is a path, too, and it is its own template. On the way through the segments
a site's name is expected behind the same segments in both, although what was a name or an
identifier in the path is a placeholder in the template.

* `segments_ofSegments` says that a path falls into the segments it was put together from, and
  `segments_template` that a template falls into the templates of the segments.
* `isEmpty_plainTemplate` and `plainTemplate_beq_siteMarker` say what a segment has in common with
  its template, and `templates_templates` that the templates of segments stay as they are.
* `template_template` is the law of all paths. -/

namespace Outbound.Path

/-! ## Segments -/

/-- There is a segment in every path. -/
theorem segments_ne_nil (path : String) : segments path ≠ [] := List.splitOn_ne_nil _ _

/-- No slash is left in what stands between slashes. -/
theorem slashless_of_mem_splitOn {text : List Char} {part : Segment}
    (member : part ∈ text.splitOn '/') : '/' ∉ part := by
  induction text generalizing part with
  | nil =>
      rw [List.splitOn_nil, List.mem_singleton] at member
      exact member ▸ List.not_mem_nil
  | cons first text inductionHypothesis =>
      rw [List.splitOn_eq_splitOnP, List.splitOnP_cons_eq_if_modifyHead,
        ← List.splitOn_eq_splitOnP] at member
      split at member
      next =>
        rcases List.mem_cons.mp member with none | further
        · exact none ▸ List.not_mem_nil
        · exact inductionHypothesis further
      next other =>
        -- The first character is no slash and goes to the first of the other parts.
        obtain ⟨head, tail, parts⟩ := List.exists_cons_of_ne_nil (List.splitOn_ne_nil '/' text)
        rw [parts] at member inductionHypothesis
        rcases List.mem_cons.mp member with longer | further
        · have apart : '/' ≠ first := fun same => other (beq_iff_eq.mpr same.symm)
          rw [longer, List.mem_cons, not_or]
          exact ⟨apart, inductionHypothesis List.mem_cons_self⟩
        · exact inductionHypothesis (List.mem_cons_of_mem _ further)

/-- A path falls into the segments that it was put together from. -/
theorem segments_ofSegments {parts : List Segment} (some : parts ≠ [])
    (slashless : ∀ part ∈ parts, '/' ∉ part) : segments (ofSegments parts) = parts := by
  rw [segments, ofSegments, String.toList_ofList]
  exact List.splitOn_intercalate '/' slashless some

/-- A template has slashes only where the path has them. -/
theorem slashless_templates {named : Bool} {parts : List Segment}
    (slashless : ∀ part ∈ parts, '/' ∉ part) : ∀ part ∈ templates named parts, '/' ∉ part := by
  induction parts generalizing named with
  | nil => exact slashless
  | cons segment others inductionHypothesis =>
      obtain ⟨first, further⟩ := List.forall_mem_cons.mp slashless
      rw [templates]
      split
      · exact List.forall_mem_cons.mpr ⟨by decide, inductionHypothesis further⟩
      · refine List.forall_mem_cons.mpr ⟨?_, inductionHypothesis further⟩
        rw [plainTemplate]
        split
        · decide
        · exact first

/-- A template falls into the templates of the segments. -/
theorem segments_template (path : String) :
    segments (template path) = templates false (segments path) := by
  have some : templates false (segments path) ≠ [] := by
    rw [← List.length_pos_iff, length_templates, List.length_pos_iff]
    exact segments_ne_nil path
  exact segments_ofSegments some (slashless_templates fun _ => slashless_of_mem_splitOn)

/-! ## Placeholders -/

/-- The placeholder of identifiers is none itself. -/
theorem isIdentifier_idPlaceholder : isIdentifier idPlaceholder = false := by decide

/-- The segment behind which a site is named is no identifier. -/
theorem isIdentifier_siteMarker : isIdentifier siteMarker = false := by decide

/-- The empty segment is no identifier. -/
theorem isIdentifier_nil : isIdentifier [] = false := by decide

/-- The template of a segment is its own one. -/
theorem plainTemplate_plainTemplate (segment : Segment) :
    plainTemplate (plainTemplate segment) = plainTemplate segment := by
  by_cases identifier : isIdentifier segment
  · have placeholder : plainTemplate segment = idPlaceholder := if_pos identifier
    rw [placeholder, plainTemplate, isIdentifier_idPlaceholder]
    rfl
  · have same : plainTemplate segment = segment := if_neg identifier
    rw [same, same]

/-- A segment is empty just if its template is. -/
theorem isEmpty_plainTemplate (segment : Segment) :
    (plainTemplate segment).isEmpty = segment.isEmpty := by
  by_cases identifier : isIdentifier segment
  · have some : segment ≠ [] := by
      rintro rfl
      rw [isIdentifier_nil] at identifier
      cases identifier
    rw [plainTemplate, if_pos identifier, List.isEmpty_eq_false_iff.mpr some]
    rfl
  · rw [plainTemplate, if_neg identifier]

/-- A site is named behind a segment just if one is named behind its template. -/
theorem plainTemplate_beq_siteMarker (segment : Segment) :
    (plainTemplate segment == siteMarker) = (segment == siteMarker) := by
  by_cases identifier : isIdentifier segment
  · have apart : segment ≠ siteMarker := by
      rintro rfl
      rw [isIdentifier_siteMarker] at identifier
      cases identifier
    rw [plainTemplate, if_pos identifier, beq_eq_false_iff_ne.mpr apart]
    decide
  · rw [plainTemplate, if_neg identifier]

/-! ## The law of templates -/

/-- The templates of segments stay as they are, whether or not a site is named first. -/
theorem templates_templates (named : Bool) (parts : List Segment) :
    templates named (templates named parts) = templates named parts := by
  induction parts generalizing named with
  | nil => rfl
  | cons segment others inductionHypothesis =>
      by_cases replaced : named && !segment.isEmpty
      · -- The placeholder is not empty, so it stands for a site's name again.
        have again : (named && !sitePlaceholder.isEmpty) = true := by
          rw [(Bool.and_eq_true_iff.mp replaced).1]
          rfl
        rw [templates, if_pos replaced, templates, if_pos again, inductionHypothesis]
      · have again : ¬ (named && !(plainTemplate segment).isEmpty) = true := by
          rwa [isEmpty_plainTemplate]
        rw [templates, if_neg replaced, templates, if_neg again, plainTemplate_plainTemplate,
          plainTemplate_beq_siteMarker, inductionHypothesis]

/-- The law of templates: the template of a path is its own template. -/
theorem template_template (path : String) : template (template path) = template path := by
  rw [template, segments_template, templates_templates]
  rfl

end Outbound.Path
