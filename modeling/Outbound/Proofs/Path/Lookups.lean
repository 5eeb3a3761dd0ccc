import Mathlib.Data.Finset.Card
import Mathlib.Data.List.Induction
import Outbound.Path.Memo

/-! # Lookups in a memo

A memo that has been asked for some paths keeps each of them once, with its own template, and
nothing else.

* `Memo.asked` is the memo behind a series of lookups.
* `Memo.Keeps` says what a memo has kept of them; `Memo.Keeps.normalize_snd` is one more lookup, and
  `Memo.keeps_asked` follows a whole series.
* `Memo.Keeps.size_eq`, `Memo.Keeps.isEmpty_iff` and `Memo.Keeps.normalize_snd_eq_iff` tell from it
  how many paths there are and which lookups are answered from the memo. -/

namespace Outbound.Path.Memo

variable {memo : Memo} {seen : List String} {path known : String}

/-- The memo that has been asked for paths one after the other. -/
def asked (paths : List String) : Memo :=
  paths.foldl (fun memo path => (memo.normalize path).2) empty

/-- The paths with a template in the memo. -/
def paths (memo : Memo) : List String := memo.entries.map (·.1)

/-! ## One lookup -/

/-- A template that is kept is the answer, and the memo stays as it is. -/
theorem normalize_of_found (found : memo.find? path = some known) :
    memo.normalize path = (known, memo) := by
  rw [normalize, found]

/-- A template that is not kept is worked out and kept. -/
theorem normalize_of_missing (missing : memo.find? path = none) :
    memo.normalize path = (template path, ⟨(path, template path) :: memo.entries⟩) := by
  rw [normalize, missing]

/-- The latest template is found first, and the others as before. -/
theorem find?_cons (other : String) :
    (⟨(path, known) :: memo.entries⟩ : Memo).find? other
      = if other = path then some known else memo.find? other := by
  rw [find?, List.lookup_cons]
  by_cases same : other = path
  · rw [if_pos same, beq_iff_eq.mpr same]
  · rw [if_neg same, beq_eq_false_iff_ne.mpr same]
    rfl

/-- What a memo has kept of the paths it was asked for. -/
structure Keeps (memo : Memo) (seen : List String) : Prop where
  /-- The template of every such path is found, and no other one. -/
  find?_eq (path : String) : memo.find? path = if path ∈ seen then some (template path) else none
  /-- Every such path is kept, and no other one. -/
  mem_paths (path : String) : path ∈ memo.paths ↔ path ∈ seen
  /-- No path is kept twice. -/
  nodup : memo.paths.Nodup

/-- A memo that was asked for nothing keeps nothing. -/
theorem keeps_empty : empty.Keeps [] :=
  ⟨fun _ => rfl, fun _ => Iff.rfl, List.nodup_nil⟩

namespace Keeps

/-- A path that was asked for before is answered from the memo. -/
theorem normalize_of_mem (keeps : memo.Keeps seen) (member : path ∈ seen) :
    memo.normalize path = (template path, memo) :=
  normalize_of_found (by rw [keeps.find?_eq, if_pos member])

/-- The template of any other path is worked out and kept. -/
theorem normalize_of_not_mem (keeps : memo.Keeps seen) (fresh : path ∉ seen) :
    memo.normalize path = (template path, ⟨(path, template path) :: memo.entries⟩) :=
  normalize_of_missing (by rw [keeps.find?_eq, if_neg fresh])

/-- A lookup adds its path to what is kept. -/
theorem normalize_snd (keeps : memo.Keeps seen) (path : String) :
    (memo.normalize path).2.Keeps (seen ++ [path]) := by
  by_cases member : path ∈ seen
  · have same (other : String) : other ∈ seen ++ [path] ↔ other ∈ seen := by
      rw [List.mem_append, List.mem_singleton, or_iff_left_iff_imp]
      rintro rfl
      exact member
    rw [keeps.normalize_of_mem member]
    exact ⟨fun other => by simp only [same, keeps.find?_eq],
      fun other => by rw [same, keeps.mem_paths], keeps.nodup⟩
  · rw [keeps.normalize_of_not_mem member]
    refine ⟨fun other => ?_, fun other => ?_, ?_⟩
    · rw [find?_cons, keeps.find?_eq]
      by_cases same : other = path
      · simp [same]
      · simp [same]
    · rw [paths, List.map_cons, List.mem_cons, List.mem_append, List.mem_singleton, or_comm]
      exact or_congr_left (keeps.mem_paths other)
    · exact List.nodup_cons.mpr ⟨fun kept => member ((keeps.mem_paths path).mp kept), keeps.nodup⟩

/-- There are as many paths in the memo as different ones were asked for. -/
theorem size_eq (keeps : memo.Keeps seen) : memo.size = seen.toFinset.card := by
  have same : memo.paths.toFinset = seen.toFinset := by
    ext path
    rw [List.mem_toFinset, List.mem_toFinset, keeps.mem_paths]
  rw [← same, List.toFinset_card_of_nodup keeps.nodup, paths, List.length_map, size]

/-- The memo is empty just if it was asked for nothing. -/
theorem isEmpty_iff (keeps : memo.Keeps seen) : memo.isEmpty = true ↔ seen = [] := by
  rw [isEmpty, List.isEmpty_iff, ← List.length_eq_zero_iff, ← size, keeps.size_eq,
    Finset.card_eq_zero, List.toFinset_eq_empty_iff]

/-- The memo knows just the paths it was asked for. -/
theorem knows_iff (keeps : memo.Keeps seen) (path : String) :
    memo.knows path = true ↔ path ∈ seen := by
  rw [knows, keeps.find?_eq]
  split
  next member => exact iff_of_true rfl member
  next fresh => exact iff_of_false (by simp) fresh

/-- A lookup leaves the memo as it is just if the path was asked for before. -/
theorem normalize_snd_eq_iff (keeps : memo.Keeps seen) (path : String) :
    (memo.normalize path).2 = memo ↔ path ∈ seen := by
  by_cases member : path ∈ seen
  · rw [keeps.normalize_of_mem member]
    exact iff_of_true rfl member
  · refine iff_of_false (fun same => ?_) member
    rw [keeps.normalize_of_not_mem member] at same
    have lengths := congrArg (fun memo => memo.entries.length) same
    simp at lengths

end Keeps

/-! ## Series of lookups -/

/-- One more lookup behind a series. -/
theorem asked_append (earlier later : List String) :
    asked (earlier ++ later)
      = later.foldl (fun memo path => (memo.normalize path).2) (asked earlier) :=
  List.foldl_append

/-- A memo keeps what it was asked for. -/
theorem keeps_asked (paths : List String) : (asked paths).Keeps paths := by
  induction paths using List.reverseRecOn with
  | nil => exact keeps_empty
  | append_singleton earlier path inductionHypothesis =>
      rw [asked_append]
      exact inductionHypothesis.normalize_snd path

end Outbound.Path.Memo
