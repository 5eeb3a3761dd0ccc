import Outbound.Path.Template

/-! # Remembered templates

A memo keeps the template of every path it was asked for, and never forgets one: templates are few
by construction. A path is looked up as it was written.

* `Memo.normalize` answers with the template of a path and the memo that knows it.
* `Memo.Sound` holds of the memos that keep each path's own template; `sound_empty` and
  `sound_normalize` say that all memos do, `normalize_fst` that the answers are the templates. -/

namespace Outbound.Path

/-- The templates of the paths seen so far. -/
structure Memo where
  /-- Paths with their templates, the latest first. -/
  entries : List (String × String)
  deriving Repr

namespace Memo

/-- The memo that has seen no path. -/
def empty : Memo := ⟨[]⟩

/-- The template kept for a path. -/
def find? (memo : Memo) (path : String) : Option String := memo.entries.lookup path

/-- Whether a path was seen before. -/
def knows (memo : Memo) (path : String) : Bool := (memo.find? path).isSome

/-- The number of different paths seen. -/
def size (memo : Memo) : Nat := memo.entries.length

/-- Whether no path was seen. -/
def isEmpty (memo : Memo) : Bool := memo.entries.isEmpty

/-- The template of a path, looked up or worked out and kept. -/
def normalize (memo : Memo) (path : String) : String × Memo :=
  match memo.find? path with
  | some known => (known, memo)
  | none =>
      let fresh := template path
      (fresh, ⟨(path, fresh) :: memo.entries⟩)

/-- A memo keeps for each path its own template. -/
def Sound (memo : Memo) : Prop :=
  ∀ path known, memo.find? path = some known → known = template path

/-- The empty memo is sound. -/
theorem sound_empty : empty.Sound := by
  intro path known found
  simp [find?, empty] at found

/-- A sound memo answers with the template of the path. -/
theorem normalize_fst {memo : Memo} (sound : memo.Sound) (path : String) :
    (memo.normalize path).1 = template path := by
  unfold normalize
  split
  · rename_i known found
    exact sound path known found
  · rfl

/-- A sound memo stays sound. -/
theorem sound_normalize {memo : Memo} (sound : memo.Sound) (path : String) :
    (memo.normalize path).2.Sound := by
  unfold normalize
  split
  · exact sound
  · intro other known found
    by_cases same : other = path
    · subst same
      simpa [find?, List.lookup_cons] using found.symm
    · have differs : (other == path) = false := by simp [same]
      exact sound other known (by simpa [find?, List.lookup_cons, differs] using found)

end Memo

end Outbound.Path
