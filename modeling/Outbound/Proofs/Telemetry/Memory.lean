import Mathlib.Algebra.GroupWithZero.Nat
import Mathlib.Data.List.Induction
import Outbound.Telemetry.Log

/-! # What a family of loggers remembers

All members of a family of loggers write to one memory. Between two clearings it keeps the newest of
their records, as many as it has room for, and counts the others; what it has counted is not
forgotten when it is cleared.

* `LogStep.Lineage` follows the fields along the derivations from the first logger to any other one,
  and `LogStep.Told` the records of a run, one list for each stretch between clearings.
* `MemoryLog.Holds` is the invariant of the memory; `MemoryLog.Holds.push` and
  `MemoryLog.Holds.clear` are its steps.
* `LogFamily.memory_of_steps` is the law of a whole run. -/

namespace Outbound

/-! ## Lineages and records -/

namespace LogStep

/-- The number of loggers of a family that began with a single one. -/
def population (steps : List LogStep) : Nat :=
  steps.foldl (fun count step =>
    match step with
    | .derive parent _ => if parent < count then count + 1 else count
    | _ => count) 1

/-- The fields given along the derivations from the first logger of a family to a logger, by a run.
Further steps, derivations among them, leave it as it is. -/
inductive Lineage : List LogStep → Nat → List (List Field) → Prop where
  /-- The first logger was given no fields. -/
  | first : Lineage [] 0 []
  /-- What is known about a logger stays. -/
  | kept {steps : List LogStep} {logger : Nat} {chain : List (List Field)} (step : LogStep)
      (known : Lineage steps logger chain) : Lineage (steps ++ [step]) logger chain
  /-- A derived logger is given further fields and the next number. -/
  | derived {steps : List LogStep} {parent : Nat} {chain : List (List Field)}
      (fields : List Field) (known : Lineage steps parent chain) :
      Lineage (steps ++ [.derive parent fields]) (population steps) (chain ++ [fields])

/-- The records made by a run: those of every stretch that was ended by a clearing, and those made
since. -/
inductive Told : List LogStep → List (List LogRecord) → List LogRecord → Prop where
  /-- At first there are none. -/
  | nothing : Told [] [] []
  /-- A member of the family makes a record with its own fields behind those of its lineage. -/
  | write {steps : List LogStep} {finished : List (List LogRecord)} {current : List LogRecord}
      {logger : Nat} {chain : List (List Field)} (level : Level) (message : String)
      (fields : List Field) (told : Told steps finished current)
      (known : Lineage steps logger chain) :
      Told (steps ++ [.write logger level message fields]) finished
        (current ++ [⟨level, message, chain.flatten ++ fields⟩])
  /-- No one else makes a record. -/
  | unheard {steps : List LogStep} {finished : List (List LogRecord)} {current : List LogRecord}
      {logger : Nat} (level : Level) (message : String) (fields : List Field)
      (told : Told steps finished current) (unknown : ∀ chain, ¬Lineage steps logger chain) :
      Told (steps ++ [.write logger level message fields]) finished current
  /-- A derivation makes no record. -/
  | derive {steps : List LogStep} {finished : List (List LogRecord)} {current : List LogRecord}
      (parent : Nat) (fields : List Field) (told : Told steps finished current) :
      Told (steps ++ [.derive parent fields]) finished current
  /-- A clearing ends a stretch. -/
  | clear {steps : List LogStep} {finished : List (List LogRecord)} {current : List LogRecord}
      (told : Told steps finished current) : Told (steps ++ [.clear]) (finished ++ [current]) []

/-- Every run tells something. -/
theorem exists_told (steps : List LogStep) : ∃ finished current, Told steps finished current := by
  induction steps using List.reverseRecOn with
  | nil => exact ⟨_, _, .nothing⟩
  | append_singleton steps step inductionHypothesis =>
      obtain ⟨finished, current, told⟩ := inductionHypothesis
      cases step with
      | write logger level message fields =>
          by_cases known : ∃ chain, Lineage steps logger chain
          · obtain ⟨chain, known⟩ := known
            exact ⟨_, _, .write level message fields told known⟩
          · exact ⟨_, _, .unheard level message fields told (not_exists.mp known)⟩
      | derive parent fields => exact ⟨_, _, .derive parent fields told⟩
      | clear => exact ⟨_, _, .clear told⟩

end LogStep

/-! ## The members of a family -/

namespace LogFamily

variable {family : LogFamily} {capacity index parent : Nat} {steps : List LogStep} {step : LogStep}
  {chain : List (List Field)} {fields : List Field} {logger : Logger}

/-- One more step behind a run. -/
theorem steps_append (family : LogFamily) (steps : List LogStep) (step : LogStep) :
    family.steps (steps ++ [step]) = (family.steps steps).step step :=
  List.foldl_append

/-- A derivation from a member adds a member. -/
theorem loggers_derive (known : family.loggers[parent]? = some logger) :
    (family.step (.derive parent fields)).loggers = family.loggers ++ [logger.derived fields] := by
  simp only [LogFamily.step, LogStep.loggersAfter, known]

/-- A step adds a derived member, or no one. -/
theorem loggers_step_cases (family : LogFamily) (step : LogStep) :
    (family.step step).loggers = family.loggers ∨
    ∃ parent fields logger, step = .derive parent fields ∧
      family.loggers[parent]? = some logger ∧
      (family.step step).loggers = family.loggers ++ [logger.derived fields] := by
  cases step with
  | write _ _ _ _ => exact .inl rfl
  | derive parent fields =>
      cases known : family.loggers[parent]? with
      | none =>
          left
          simp only [LogFamily.step, LogStep.loggersAfter, known]
      | some logger => exact .inr ⟨parent, fields, logger, rfl, known, loggers_derive known⟩
  | clear => exact .inl rfl

/-- A member stays what it is. -/
theorem loggers_step (found : family.loggers[index]? = some logger) :
    (family.step step).loggers[index]? = some logger := by
  rcases family.loggers_step_cases step with same | ⟨_, _, _, -, -, added⟩
  · rw [same, found]
  · obtain ⟨inside, -⟩ := List.getElem?_eq_some_iff.mp found
    rw [added, List.getElem?_append_left inside, found]

/-- There are as many members as were counted. -/
theorem length_loggers (capacity : Nat) (steps : List LogStep) :
    ((ofCapacity capacity).steps steps).loggers.length = LogStep.population steps := by
  induction steps using List.reverseRecOn with
  | nil => rfl
  | append_singleton steps step inductionHypothesis =>
      rw [steps_append, LogStep.population, List.foldl_append, ← LogStep.population,
        ← inductionHypothesis]
      cases step with
      | write _ _ _ _ => rfl
      | derive parent fields =>
          by_cases known : parent < ((ofCapacity capacity).steps steps).loggers.length
          · rw [loggers_derive (List.getElem?_eq_getElem known), List.length_append]
            exact (if_pos known).symm
          · simp [LogFamily.step, LogStep.loggersAfter, known]
      | clear => rfl

/-- A member puts the fields of its lineage in front. -/
theorem loggers_of_lineage (capacity : Nat) (lineage : LogStep.Lineage steps index chain) :
    ((ofCapacity capacity).steps steps).loggers[index]? = some { fields := chain.flatten } := by
  induction lineage with
  | first => rfl
  | kept step known inductionHypothesis =>
      rw [steps_append]
      exact loggers_step inductionHypothesis
  | derived fields known inductionHypothesis =>
      rw [steps_append, loggers_derive inductionHypothesis, ← length_loggers capacity,
        List.getElem?_concat_length, List.flatten_append]
      simp [Logger.derived]

/-- Every member has a lineage. -/
theorem exists_lineage (found : ((ofCapacity capacity).steps steps).loggers[index]? = some logger) :
    ∃ chain, LogStep.Lineage steps index chain := by
  induction steps using List.reverseRecOn generalizing index logger with
  | nil =>
      obtain ⟨inside, -⟩ := List.getElem?_eq_some_iff.mp found
      obtain rfl : index = 0 := Nat.lt_one_iff.mp inside
      exact ⟨[], .first⟩
  | append_singleton steps step inductionHypothesis =>
      rw [steps_append] at found
      rcases loggers_step_cases ((ofCapacity capacity).steps steps) step with
        same | ⟨parent, fields, _, rfl, known, added⟩
      · rw [same] at found
        obtain ⟨chain, lineage⟩ := inductionHypothesis found
        exact ⟨chain, lineage.kept step⟩
      · rw [added] at found
        by_cases inside : index < ((ofCapacity capacity).steps steps).loggers.length
        · rw [List.getElem?_append_left inside] at found
          obtain ⟨chain, lineage⟩ := inductionHypothesis found
          exact ⟨chain, lineage.kept _⟩
        · obtain ⟨bounded, -⟩ := List.getElem?_eq_some_iff.mp found
          rw [List.length_append, List.length_singleton] at bounded
          obtain rfl : index = LogStep.population steps := by
            rw [← length_loggers capacity]
            omega
          obtain ⟨chain, lineage⟩ := inductionHypothesis known
          exact ⟨_, lineage.derived fields⟩

end LogFamily

/-! ## The memory -/

namespace MemoryLog

variable {log : MemoryLog} {bound : Nat} {finished : List (List LogRecord)}
  {current : List LogRecord}

/-- What a memory with room for a number of records holds behind stretches that ended, and the one
that goes on. -/
structure Holds (log : MemoryLog) (bound : Nat) (finished : List (List LogRecord))
    (current : List LogRecord) : Prop where
  /-- The room stays. -/
  capacity : log.capacity = bound
  /-- The newest records of the stretch that goes on are kept. -/
  records : log.records = current.drop (current.length - bound)
  /-- The others are counted, those of earlier stretches as well. -/
  evicted : log.evicted
    = ((finished ++ [current]).map fun stretch => stretch.length - bound).sum

/-- The records that were too many, stretch by stretch. -/
theorem sum_excess_concat (bound : Nat) (finished : List (List LogRecord))
    (current : List LogRecord) :
    ((finished ++ [current]).map fun stretch => stretch.length - bound).sum
      = (finished.map fun stretch => stretch.length - bound).sum + (current.length - bound) := by
  rw [List.map_append, List.sum_append, List.map_singleton, List.sum_singleton]

/-- A new memory is empty. -/
theorem holds_ofCapacity (capacity : Nat) :
    (ofCapacity capacity).Holds (max capacity 1) [] [] :=
  ⟨rfl, List.drop_nil.symm, by simp [ofCapacity]⟩

/-- A record is kept, and the oldest one makes room for it if there is none. -/
theorem Holds.push (holds : log.Holds bound finished current) (room : 0 < bound)
    (record : LogRecord) : (log.push record).Holds bound finished (current ++ [record]) := by
  have length : log.records.length = min bound current.length := by
    rw [holds.records, List.length_drop]
    omega
  have evicted := holds.evicted
  rw [sum_excess_concat] at evicted
  rw [MemoryLog.push]
  by_cases full : log.capacity ≤ log.records.length
  · rw [if_pos full]
    rw [holds.capacity] at full
    refine ⟨holds.capacity, ?_, ?_⟩
    · show log.records.drop 1 ++ [record] = _
      rw [holds.records, List.drop_drop, List.length_append, List.length_singleton,
        List.drop_append_of_le_length (by omega)]
      congr 2
      omega
    · show log.evicted + 1 = _
      rw [evicted, sum_excess_concat, List.length_append, List.length_singleton]
      omega
  · rw [if_neg full]
    rw [holds.capacity] at full
    refine ⟨holds.capacity, ?_, ?_⟩
    · show log.records ++ [record] = _
      rw [holds.records, List.length_append, List.length_singleton,
        Nat.sub_eq_zero_of_le (by omega : current.length ≤ bound),
        Nat.sub_eq_zero_of_le (by omega : current.length + 1 ≤ bound), List.drop_zero,
        List.drop_zero]
    · show log.evicted = _
      rw [evicted, sum_excess_concat, List.length_append, List.length_singleton]
      omega

/-- A clearing ends a stretch and forgets nothing that was counted. -/
theorem Holds.clear (holds : log.Holds bound finished current) :
    log.clear.Holds bound (finished ++ [current]) [] := by
  refine ⟨holds.capacity, List.drop_nil.symm, ?_⟩
  show log.evicted = _
  rw [holds.evicted, sum_excess_concat _ (finished ++ [current])]
  simp

end MemoryLog

namespace LogFamily

variable {capacity : Nat} {steps : List LogStep} {finished : List (List LogRecord)}
  {current : List LogRecord}

/-- A record of a member is put into the memory. -/
theorem memory_write_of_some {family : LogFamily} {index : Nat} {given : List Field} (level : Level)
    (message : String) (fields : List Field)
    (known : family.loggers[index]? = some { fields := given }) :
    (family.step (.write index level message fields)).memory
      = family.memory.push ⟨level, message, given ++ fields⟩ := by
  simp only [LogFamily.step, LogStep.written, known, Option.bind_some, Logger.record?]
  rfl

/-- No one else writes. -/
theorem memory_write_of_none {family : LogFamily} {index : Nat} (level : Level) (message : String)
    (fields : List Field) (unknown : family.loggers[index]? = none) :
    (family.step (.write index level message fields)).memory = family.memory := by
  simp only [LogFamily.step, LogStep.written, unknown, Option.bind_none]

/-- The memory of a family holds what a run told. -/
theorem holds_of_told (capacity : Nat) (told : LogStep.Told steps finished current) :
    ((ofCapacity capacity).steps steps).memory.Holds (max capacity 1) finished current := by
  have room : 0 < max capacity 1 := by omega
  induction told with
  | nothing => exact MemoryLog.holds_ofCapacity capacity
  | write level message fields told known inductionHypothesis =>
      rw [steps_append, memory_write_of_some level message fields
        (loggers_of_lineage capacity known)]
      exact inductionHypothesis.push room _
  | @unheard steps _ _ index level message fields told unknown inductionHypothesis =>
      have absent : ((ofCapacity capacity).steps steps).loggers[index]? = none := by
        refine Option.eq_none_iff_forall_ne_some.mpr fun logger found => ?_
        obtain ⟨chain, known⟩ := exists_lineage found
        exact unknown chain known
      rw [steps_append, memory_write_of_none level message fields absent]
      exact inductionHypothesis
  | derive parent fields told inductionHypothesis =>
      rw [steps_append]
      exact inductionHypothesis
  | clear told inductionHypothesis =>
      rw [steps_append]
      exact inductionHypothesis.clear

/-- The law of a family of loggers. Whatever its members do, every run tells records, each with the
fields of the lineage of its logger in front of its own. The memory then keeps the last of those
told since the latest clearing, the oldest of them first, and as many as it has room for; and it has
counted, for every stretch between clearings, those that were too many. -/
theorem memory_of_steps (capacity : Nat) (steps : List LogStep) :
    let memory := ((ofCapacity capacity).steps steps).memory
    let room := max capacity 1
    (∃ finished current, LogStep.Told steps finished current) ∧
    ∀ finished current, LogStep.Told steps finished current →
      memory.records = current.drop (current.length - room) ∧
      memory.records.length = min room current.length ∧
      memory.evicted = ((finished ++ [current]).map fun stretch => stretch.length - room).sum := by
  intro memory room
  refine ⟨LogStep.exists_told steps, fun finished current told => ?_⟩
  have holds : memory.Holds room finished current := holds_of_told capacity told
  refine ⟨holds.records, ?_, holds.evicted⟩
  rw [holds.records, List.length_drop]
  omega

/-- In a memory with room for a single record, a clearing ends the stretch of a grandchild of the
first logger; then a sibling and the first logger write, and the record of the sibling has to go. -/
theorem memory_of_steps_siblings :
    let steps : List LogStep :=
      [.derive 0 [⟨"a", "1"⟩], .derive 0 [⟨"b", "2"⟩], .derive 1 [⟨"c", "3"⟩],
        .write 3 .info "one" [⟨"d", "4"⟩], .clear, .write 2 .warn "two" [],
        .write 0 .error "three" []]
    let current : List LogRecord := [⟨.warn, "two", [⟨"b", "2"⟩]⟩, ⟨.error, "three", []⟩]
    LogStep.Told steps [[⟨.info, "one", [⟨"a", "1"⟩, ⟨"c", "3"⟩, ⟨"d", "4"⟩]⟩]] current ∧
      ((ofCapacity 0).steps steps).memory.records = [⟨.error, "three", []⟩] ∧
      ((ofCapacity 0).steps steps).memory.evicted = 1 := by
  intro steps current
  -- The lineages behind the derivations: of the first logger, its children and its grandchild.
  have eldest := ((LogStep.Lineage.first.kept (.derive 0 [⟨"a", "1"⟩])).kept
    (.derive 0 [⟨"b", "2"⟩])).kept (.derive 1 [⟨"c", "3"⟩])
  have sibling := (LogStep.Lineage.derived [⟨"b", "2"⟩]
    (LogStep.Lineage.first.kept (.derive 0 [⟨"a", "1"⟩]))).kept (.derive 1 [⟨"c", "3"⟩])
  have grandchild := LogStep.Lineage.derived [⟨"c", "3"⟩]
    ((LogStep.Lineage.derived [⟨"a", "1"⟩] .first).kept (.derive 0 [⟨"b", "2"⟩]))
  have derived := LogStep.Told.derive 1 [⟨"c", "3"⟩] (LogStep.Told.derive 0 [⟨"b", "2"⟩]
    (LogStep.Told.derive 0 [⟨"a", "1"⟩] .nothing))
  have cleared := (derived.write .info "one" [⟨"d", "4"⟩] grandchild).clear
  have told := (cleared.write .warn "two" [] ((sibling.kept _).kept _)).write .error "three" []
    (((eldest.kept _).kept _).kept _)
  obtain ⟨records, -, evicted⟩ := (memory_of_steps 0 steps).2 _ _ told
  exact ⟨told, records, evicted⟩

end LogFamily

end Outbound
