import Outbound.World

/-! # Calls side by side

Calls of a shift take turns: each one runs until it has to wait. A call whose wait is over goes on
in the order of the calls, and when all calls wait the clock moves to the first end of a wait.

* `Shift.complete` runs a shift to its end. It ends because every turn takes a call to a call within
  it (`Call.Within`), which cannot go on for ever (`Call.within_wellFounded`).
* `World.performAll` runs calls as a shift. -/

namespace Outbound

/-! ## Parts of calls -/

namespace Call

variable {α : Type}

/-- The call behind an answer to the first effect of a call. -/
inductive Behind : Call α → Call α → Prop where
  /-- Every answer leads to such a call. -/
  | answer (effect : Effect) (next : effect.Answer → Call α) (given : effect.Answer) :
      Behind (next given) (.ask effect next)

/-- A call behind one or more answers. -/
def Within : Call α → Call α → Prop := Relation.TransGen Behind

/-- From no call one can go on for ever to calls behind its answers. -/
theorem behind_wellFounded : WellFounded (Behind (α := α)) := by
  refine ⟨fun call => ?_⟩
  induction call with
  | done value => exact ⟨_, fun _ behind => nomatch behind⟩
  | ask effect next inductionHypothesis =>
      refine ⟨_, fun _ behind => ?_⟩
      cases behind with
      | answer _ _ given => exact inductionHypothesis given

/-- From no call one can go on for ever to calls within it. -/
theorem within_wellFounded : WellFounded (Within (α := α)) := behind_wellFounded.transGen

/-- Lists of calls, one of which has got on. -/
inductive Progress : List (Call α) → List (Call α) → Prop where
  /-- The first call has got on. -/
  | first {later earlier : Call α} (others : List (Call α)) (within : Within later earlier) :
      Progress (later :: others) (earlier :: others)
  /-- A further call has got on. -/
  | further (call : Call α) {later earlier : List (Call α)} (progress : Progress later earlier) :
      Progress (call :: later) (call :: earlier)

/-- A call in front of a list that cannot get on for ever changes nothing about that. -/
theorem progress_acc_cons {call : Call α} (first : Acc Within call) :
    ∀ {calls : List (Call α)}, Acc Progress calls → Acc Progress (call :: calls) := by
  induction first with
  | intro call _ firstHypothesis =>
      intro calls others
      induction others with
      | intro calls below othersHypothesis =>
          refine ⟨_, fun list progress => ?_⟩
          cases progress with
          | first _ within => exact firstHypothesis _ within ⟨_, below⟩
          | further _ progress => exact othersHypothesis _ progress

/-- No list of calls gets on for ever. -/
theorem progress_wellFounded : WellFounded (Progress (α := α)) := by
  refine ⟨fun calls => ?_⟩
  induction calls with
  | nil => exact ⟨_, fun _ progress => nomatch progress⟩
  | cons call calls inductionHypothesis =>
      exact progress_acc_cons (within_wellFounded.apply call) inductionHypothesis

end Call

/-! ## Tasks -/

/-- A call that has run until it had to wait. -/
inductive Task (α : Type) where
  /-- The call has ended. -/
  | ended (value : α)
  /-- The call waits for the end of an effect. -/
  | waiting (effect : Effect) (pending : Pending effect.Answer) (next : effect.Answer → Call α)

namespace Task

variable {α : Type}

/-- What is left of the call. -/
def rest : Task α → Call α
  | .ended value => .done value
  | .waiting effect _ next => .ask effect next

/-- The instant at which the task can go on, if it waits. -/
def endsAt? (task : Task α) (world : World) : Option Instant :=
  match task with
  | .ended _ => none
  | .waiting _ pending _ => some (pending.endsAt world.signals)

/-- Whether the task can go on now. -/
def isReady (task : Task α) (world : World) : Bool :=
  match task.endsAt? world with
  | some instant => instant ≤ world.now
  | none => false

/-- The value of a call that has ended. -/
def value? : Task α → Option α
  | .ended value => some value
  | .waiting _ _ _ => none

end Task

/-- Runs a call until it has to wait. -/
def World.proceed {α : Type} : Call α → World → Task α × World
  | .done value, world => (.ended value, world)
  | .ask effect next, world =>
      let (pending, begun) := world.begin effect
      if pending.endsAt begun.signals ≤ begun.now then
        let (given, after) := pending.finish begun
        World.proceed (next given) after
      else (.waiting effect pending next, begun)

/-- What is left after running a call is the call or within it. -/
theorem World.rest_proceed {α : Type} (call : Call α) (world : World) :
    (World.proceed call world).1.rest = call ∨
      Call.Within (World.proceed call world).1.rest call := by
  induction call generalizing world with
  | done value => exact .inl rfl
  | ask effect next inductionHypothesis =>
      simp only [World.proceed]
      split
      · right
        rcases inductionHypothesis _ _ with same | within
        · rw [same]
          exact .single (.answer effect next _)
        · exact .tail within (.answer effect next _)
      · exact .inl rfl

/-! ## Shifts -/

/-- Tasks that take turns. -/
structure Shift (α : Type) where
  /-- The tasks, in their order. -/
  tasks : List (Task α)

namespace Shift

variable {α : Type}

instance : WellFoundedRelation (Shift α) where
  rel later earlier :=
    Call.Progress (later.tasks.map Task.rest) (earlier.tasks.map Task.rest)
  wf := InvImage.wf (fun shift : Shift α => shift.tasks.map Task.rest) Call.progress_wellFounded

/-- The position of the first ready task, from a position on. -/
def readyFrom? (shift : Shift α) (world : World) (position : Nat) : Option Nat :=
  ((shift.tasks.drop position).findIdx? (·.isReady world)).map (position + ·)

/-- The first end of a wait. -/
def firstEnd? (shift : Shift α) (world : World) : Option Instant :=
  shift.tasks.foldl (fun first task => Context.earlier first (task.endsAt? world)) none

/-- The task whose turn is next, behind the position of the last turn or from the start, and the
world in which it goes on. -/
def nextTurn? (shift : Shift α) (world : World) (position : Nat) : Option (Nat × World) :=
  match (shift.readyFrom? world position).or (shift.readyFrom? world 0) with
  | some index => some (index, world)
  | none =>
      match shift.firstEnd? world with
      | none => none
      | some instant =>
          let later := world.moveTo instant
          (shift.readyFrom? later 0).map (·, later)

/-- The shift with a task in place of another one. -/
def set (shift : Shift α) (index : Nat) (task : Task α) : Shift α := ⟨shift.tasks.set index task⟩

/-- A task that got on makes progress of the shift. -/
theorem progress_set {tasks : List (Task α)} {index : Nat} {earlier later : Task α}
    (found : tasks[index]? = some earlier) (within : Call.Within later.rest earlier.rest) :
    Call.Progress ((tasks.set index later).map Task.rest) (tasks.map Task.rest) := by
  induction tasks generalizing index with
  | nil => simp at found
  | cons task tasks inductionHypothesis =>
      cases index with
      | zero =>
          simp only [List.getElem?_cons_zero, Option.some.injEq] at found
          subst found
          exact .first _ within
      | succ index =>
          simp only [List.getElem?_cons_succ] at found
          exact .further _ (inductionHypothesis found)

/-- Lets the tasks take turns until all have ended; the next turn is at or behind a position. -/
def complete (shift : Shift α) (world : World) (position : Nat) : Shift α × World :=
  match shift.nextTurn? world position with
  | none => (shift, world)
  | some (index, current) =>
      match found : shift.tasks[index]? with
      | some (.waiting effect pending next) =>
          let finished := pending.finish current
          let proceeded := World.proceed (next finished.1) finished.2
          (shift.set index proceeded.1).complete proceeded.2 (index + 1)
      | _ => (shift, current)
termination_by shift
decreasing_by
  refine progress_set found ?_
  rcases World.rest_proceed (next (pending.finish current).1) (pending.finish current).2 with
    same | within
  · rw [same]
    exact .single (.answer effect next _)
  · exact .tail within (.answer effect next _)

end Shift

namespace World

/-- Runs the calls of a shift until each of them has to wait. -/
def proceedAll {α : Type} : List (Call α) → World → List (Task α) × World
  | [], world => ([], world)
  | call :: calls, world =>
      let (task, after) := proceed call world
      let (tasks, last) := proceedAll calls after
      (task :: tasks, last)

/-- Runs calls side by side, with their values in the order of the calls. -/
def performAll {α : Type} (world : World) (calls : List (Call α)) : List α × World :=
  let (tasks, begun) := proceedAll calls world
  let (shift, after) := (Shift.mk tasks).complete begun 0
  (shift.tasks.filterMap Task.value?, after)

end World

end Outbound
