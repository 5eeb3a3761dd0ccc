import Mathlib.Algebra.BigOperators.Group.List.Lemmas
import Mathlib.Algebra.GroupWithZero.Nat
import Outbound.Telemetry.Exposition

/-! # Tables that tally

A table of series is a tally of the labels that were given to it if it has one entry for each
combination of them, and if the value there tells how often the combination was given.

* `SeriesOf.Tallies` says so of a table; a measure tells how often a value was changed.
* `SeriesOf.update_cases` says what a change does to a table, and `SeriesOf.Tallies.update` that a
  tally stays one.
* `SeriesOf.Tallies.exists_iff` and `SeriesOf.Tallies.sum_eq` read single counts and sums of counts
  off a tally. -/

namespace Outbound.SeriesOf

variable {α β : Type} {measure : α → Nat} {series : SeriesOf α} {given : List (List String)}
  {labels : List String} {fresh : α} {change : α → α}

/-- The combinations of labels in a table. -/
def keys (series : SeriesOf α) : List (List String) := List.map Prod.fst series

/-! ## One change -/

/-- The value of labels that are new in a table is put at its end. -/
theorem update_of_not_mem (missing : labels ∉ keys series) :
    update labels fresh change series = series ++ [(labels, change fresh)] := by
  induction series with
  | nil => rfl
  | cons entry series inductionHypothesis =>
      rw [keys, List.map_cons, List.mem_cons, not_or] at missing
      rw [update, if_neg (Ne.symm missing.1), inductionHypothesis missing.2]
      rfl

/-- The value of labels that are known is changed where it stands. -/
theorem update_of_first {front back : SeriesOf α} {value : α} (first : labels ∉ keys front) :
    update labels fresh change (front ++ (labels, value) :: back)
      = front ++ (labels, change value) :: back := by
  induction front with
  | nil => exact if_pos rfl
  | cons entry front inductionHypothesis =>
      rw [keys, List.map_cons, List.mem_cons, not_or] at first
      rw [List.cons_append, update, if_neg (Ne.symm first.1), inductionHypothesis first.2]
      rfl

/-- What a change does to a table: it gives the labels a value, or changes the one they have. -/
theorem update_cases (labels : List String) (fresh : α) (change : α → α) (series : SeriesOf α) :
    (labels ∉ keys series ∧
      update labels fresh change series = series ++ [(labels, change fresh)]) ∨
    ∃ front value back, series = front ++ (labels, value) :: back ∧
      update labels fresh change series = front ++ (labels, change value) :: back := by
  by_cases known : labels ∈ keys series
  · right
    obtain ⟨ahead, behind, split, first⟩ := List.eq_append_cons_of_mem known
    obtain ⟨front, rest, rfl, rfl, found⟩ := List.map_eq_append_iff.mp split
    obtain ⟨⟨_, value⟩, back, rfl, rfl, -⟩ := List.map_eq_cons_iff.mp found
    exact ⟨front, value, back, rfl, update_of_first first⟩
  · exact .inl ⟨known, update_of_not_mem known⟩

/-! ## Tallies -/

/-- A table tells how often each combination of labels was given. -/
structure Tallies (measure : α → Nat) (series : SeriesOf α) (given : List (List String)) :
    Prop where
  /-- No combination has two entries. -/
  nodup : (keys series).Nodup
  /-- The combinations are those that were given. -/
  mem_keys_iff : ∀ labels, labels ∈ keys series ↔ labels ∈ given
  /-- A value tells how often its labels were given. -/
  measure_eq : ∀ entry ∈ series, measure entry.2 = given.count entry.1

/-- A table to which nothing was given is empty. -/
theorem tallies_nil (measure : α → Nat) : Tallies measure [] [] :=
  ⟨List.nodup_nil, fun _ => Iff.rfl, fun _ member => absurd member List.not_mem_nil⟩

namespace Tallies

/-- Values may be written in another way, as long as they tell the same. -/
theorem map {other : β → Nat} (tallies : Tallies measure series given) (told : α → β)
    (telling : ∀ value, other (told value) = measure value) :
    Tallies other (List.map (fun entry => (entry.1, told entry.2)) series) given := by
  have same : keys (List.map (fun entry => (entry.1, told entry.2)) series) = keys series := by
    rw [keys, keys, List.map_map]
    rfl
  refine ⟨same ▸ tallies.nodup, fun labels => same ▸ tallies.mem_keys_iff labels, ?_⟩
  intro entry member
  obtain ⟨original, known, rfl⟩ := List.mem_map.mp member
  exact (telling original.2).trans (tallies.measure_eq original known)

/-- The value of other labels tells as much once labels are given again. -/
theorem measure_eq_of_ne (tallies : Tallies measure series given) {entry : List String × α}
    (member : entry ∈ series) (different : entry.1 ≠ labels) :
    measure entry.2 = (given ++ [labels]).count entry.1 := by
  rw [tallies.measure_eq entry member, List.count_append, List.count_singleton,
    if_neg (by simpa using Ne.symm different), Nat.add_zero]

/-- Labels that are given for the first time get an entry. -/
theorem concat {value : α} (tallies : Tallies measure series given)
    (missing : labels ∉ keys series) (once : measure value = 1) :
    Tallies measure (series ++ [(labels, value)]) (given ++ [labels]) := by
  have extended : keys (series ++ [(labels, value)]) = keys series ++ [labels] := by simp [keys]
  refine ⟨?_, fun other => ?_, fun entry member => ?_⟩
  · rw [extended]
    exact tallies.nodup.append (List.nodup_singleton _) (List.disjoint_singleton.mpr missing)
  · rw [extended, List.mem_append, List.mem_append, tallies.mem_keys_iff]
  · rcases List.mem_append.mp member with earlier | new
    · refine tallies.measure_eq_of_ne earlier fun same => missing ?_
      exact same ▸ List.mem_map_of_mem earlier
    · obtain rfl := List.mem_singleton.mp new
      have never : given.count labels = 0 :=
        List.count_eq_zero.mpr fun known => missing ((tallies.mem_keys_iff labels).mpr known)
      rw [once, List.count_append, never, List.count_singleton_self]

/-- Labels that are given again have their value changed. -/
theorem replace {front back : SeriesOf α} {value changed : α}
    (tallies : Tallies measure (front ++ (labels, value) :: back) given)
    (counted : measure changed = measure value + 1) :
    Tallies measure (front ++ (labels, changed) :: back) (given ++ [labels]) := by
  have same : keys (front ++ (labels, changed) :: back)
      = keys (front ++ (labels, value) :: back) := by simp [keys]
  have known : labels ∈ keys (front ++ (labels, value) :: back) := by simp [keys]
  have alone : labels ∉ keys (front ++ back) := by
    have nodup := tallies.nodup
    rw [keys, List.map_append, List.map_cons, List.nodup_middle, List.nodup_cons,
      ← List.map_append] at nodup
    exact nodup.1
  have others : ∀ entry ∈ front ++ back, measure entry.2 = (given ++ [labels]).count entry.1 := by
    intro entry member
    have listed : entry ∈ front ++ (labels, value) :: back := by
      rw [List.mem_append] at member ⊢
      exact member.imp_right (List.mem_cons_of_mem _)
    refine tallies.measure_eq_of_ne listed fun equal => alone ?_
    exact equal ▸ List.mem_map_of_mem member
  refine ⟨same ▸ tallies.nodup, fun other => ?_, fun entry member => ?_⟩
  · rw [same, tallies.mem_keys_iff, List.mem_append, List.mem_singleton]
    refine (or_iff_left_of_imp ?_).symm
    rintro rfl
    exact (tallies.mem_keys_iff other).mp known
  · rw [List.mem_append, List.mem_cons, or_left_comm, ← List.mem_append] at member
    rcases member with rfl | member
    · have before := tallies.measure_eq (labels, value) (by simp)
      rw [counted, before, List.count_append, List.count_singleton_self]
    · exact others entry member

/-- A tally to which one more combination is given stays a tally if a change counts as one. -/
theorem update (tallies : Tallies measure series given) (start : measure fresh = 0)
    (counted : ∀ value, measure (change value) = measure value + 1) (labels : List String) :
    Tallies measure (update labels fresh change series) (given ++ [labels]) := by
  rcases update_cases labels fresh change series with
    ⟨missing, updated⟩ | ⟨front, value, back, rfl, updated⟩
  · rw [updated]
    exact tallies.concat missing (by rw [counted, start])
  · rw [updated]
    exact tallies.replace (counted value)

/-! ## Reading a tally -/

/-- There is an entry whose labels are told in a certain way, and it tells a count, just if labels
told in that way were given that often and at least once. -/
theorem exists_iff {told : List String → β} [DecidableEq β]
    (tallies : Tallies measure series given)
    (distinct : ∀ labels ∈ given, ∀ others ∈ given, told labels = told others → labels = others)
    (name : β) (count : Nat) :
    (∃ entry ∈ series, told entry.1 = name ∧ measure entry.2 = count) ↔
      0 < count ∧ count = given.countP fun labels => told labels = name := by
  have count_eq : ∀ entry ∈ series,
      measure entry.2 = given.countP fun labels => told labels = told entry.1 := by
    intro entry member
    have known : entry.1 ∈ given := (tallies.mem_keys_iff _).mp (List.mem_map_of_mem member)
    rw [tallies.measure_eq entry member, List.count_eq_countP]
    refine List.countP_congr fun labels listed => ?_
    rw [beq_iff_eq, decide_eq_true_iff]
    exact ⟨congrArg told, distinct labels listed entry.1 known⟩
  constructor
  · rintro ⟨entry, member, rfl, rfl⟩
    have known : entry.1 ∈ given := (tallies.mem_keys_iff _).mp (List.mem_map_of_mem member)
    refine ⟨?_, count_eq entry member⟩
    rw [count_eq entry member]
    exact List.countP_pos_iff.mpr ⟨entry.1, known, decide_eq_true rfl⟩
  · rintro ⟨positive, rfl⟩
    obtain ⟨labels, listed, named⟩ := List.countP_pos_iff.mp positive
    obtain ⟨entry, member, rfl⟩ := List.mem_map.mp ((tallies.mem_keys_iff labels).mpr listed)
    obtain rfl := of_decide_eq_true named
    exact ⟨entry, member, rfl, count_eq entry member⟩

/-- The counts of some combinations add up to how often any of them was given. -/
theorem sum_eq (tallies : Tallies measure series given) (chosen : List String → Bool) :
    ((List.filter (fun entry => chosen entry.1) series).map fun entry => measure entry.2).sum
      = given.countP chosen := by
  have once : (keys series).Perm given.dedup := by
    refine (List.perm_ext_iff_of_nodup tallies.nodup given.nodup_dedup).mpr fun labels => ?_
    rw [tallies.mem_keys_iff, List.mem_dedup]
  calc ((List.filter (fun entry => chosen entry.1) series).map fun entry => measure entry.2).sum
      = ((List.filter (fun entry => chosen entry.1) series).map
          fun entry => given.count entry.1).sum := by
        refine congrArg List.sum (List.map_congr_left fun entry member => ?_)
        exact tallies.measure_eq entry (List.mem_of_mem_filter member)
    _ = (((keys series).filter chosen).map fun labels => given.count labels).sum := by
        rw [keys, List.filter_map, List.map_map]
        rfl
    _ = ((given.dedup.filter chosen).map fun labels => given.count labels).sum :=
        ((once.filter chosen).map _).sum_eq
    _ = given.countP chosen := by
        -- The two sides compare labels by instances that are equal but not the same.
        convert List.sum_map_count_dedup_filter_eq_countP chosen given
        rfl

end Tallies

end Outbound.SeriesOf
