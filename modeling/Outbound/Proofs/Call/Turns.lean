import Outbound.Proofs.Call.Crowd
import Outbound.Schedule

/-! # Turns of a shift

The scheduler lets calls take turns in the order of the calls and moves the clock to the first end
of a wait. This is one of the ways in which a crowd of calls can interleave.

* `Shift.nextTurn?_eq_some` says that a turn is that of a ready task.
* `Crowd.Reachable.proceed` follows a call until it has to wait, `Crowd.Reachable.proceedAll` the
  start of a shift and `Crowd.Reachable.complete` a shift to its end.
* `World.reachable_performAll` says that a crowd can get to where the scheduler gets. -/

namespace Outbound

/-! ## Tasks as stages -/

/-- How far a task has got. -/
def Task.stage : Task Outcome → Stage World
  | .ended outcome => .running (.done outcome)
  | .waiting effect pending next =>
      .waiting effect ⟨fun later => pending.endsAt later.signals ≤ later.now, pending.finish⟩ next

/-- The outcome of a call that has ended. -/
def Stage.outcome? {σ : Type} : Stage σ → Option Outcome
  | .running (.done outcome) => some outcome
  | _ => none

/-- A task that has ended tells its outcome. -/
theorem Task.outcome?_stage (task : Task Outcome) : task.stage.outcome? = task.value? := by
  cases task <;> rfl

/-! ## Turns -/

/-- The clock does not move to the time that it is. -/
theorem World.moveTo_now (world : World) : world.moveTo world.now = world := by
  have same : max world.now world.now = world.now := Instant.ext (by simp)
  rw [moveTo, same]

namespace Shift

variable {α : Type} {shift : Shift α} {world current : World} {position index : Nat}

/-- A task that is found is ready. -/
theorem isReady_of_readyFrom? (found : shift.readyFrom? world position = some index) :
    ∃ task, shift.tasks[index]? = some task ∧ task.isReady world = true := by
  obtain ⟨offset, there, rfl⟩ := Option.map_eq_some_iff.mp found
  obtain ⟨inside, ready, _⟩ := List.findIdx?_eq_some_iff_getElem.mp there
  refine ⟨_, ?_, ready⟩
  rw [List.getElem_drop, List.getElem?_eq_getElem]

/-- The task whose turn is next is ready when the clock has moved. -/
theorem nextTurn?_eq_some (found : shift.nextTurn? world position = some (index, current)) :
    (∃ instant, current = world.moveTo instant) ∧
      ∃ task, shift.tasks[index]? = some task ∧ task.isReady current = true := by
  unfold nextTurn? at found
  split at found
  next early =>
    obtain ⟨rfl, rfl⟩ := Prod.mk.inj (Option.some.inj found)
    refine ⟨⟨world.now, world.moveTo_now.symm⟩, ?_⟩
    rcases Option.or_eq_some_iff.mp early with behind | ⟨_, fromStart⟩
    · exact isReady_of_readyFrom? behind
    · exact isReady_of_readyFrom? fromStart
  next late =>
    split at found
    next => cases found
    next instant first =>
      obtain ⟨task, ready, same⟩ := Option.map_eq_some_iff.mp found
      obtain ⟨rfl, rfl⟩ := Prod.mk.inj same
      exact ⟨⟨instant, rfl⟩, isReady_of_readyFrom? ready⟩

end Shift

/-! ## Following the scheduler -/

namespace Crowd.Reachable

variable {transport : Transport} {initial world : World} {parties : List (Party World)}

/-- A call of a crowd can do what it does until it has to wait. -/
theorem proceed {front back : List (Party World)} {request : Request} {begun : List Effect}
    {call : Call Outcome}
    (reachable : Reachable World.surroundings transport initial
      ⟨world, front ++ ⟨request, begun, .running call⟩ :: back⟩) :
    ∃ further, Reachable World.surroundings transport initial
      ⟨(World.proceed call world).2,
        front ++ ⟨request, further, (World.proceed call world).1.stage⟩ :: back⟩ := by
  induction call generalizing world begun with
  | done outcome => exact ⟨begun, reachable⟩
  | ask effect next inductionHypothesis =>
      -- The effect is begun in any case; the scheduler goes on at once if it ends at once.
      have started := reachable.step (.turn front back (.begin world request begun effect next))
      simp only [World.proceed]
      split
      next ends =>
        exact inductionHypothesis _
          (started.step (.turn front back (.finish _ request _ effect _ next ends)))
      next => exact ⟨_, started⟩

/-- Further calls of a crowd can start one after the other as those of a shift do. -/
theorem proceedAll (requests : List Request)
    (reachable : Reachable World.surroundings transport initial ⟨world, parties⟩) :
    ∃ further, Reachable World.surroundings transport initial
        ⟨(World.proceedAll (requests.map transport) world).2, parties ++ further⟩ ∧
      further.map Party.request = requests ∧
      further.map Party.stage
        = (World.proceedAll (requests.map transport) world).1.map Task.stage := by
  induction requests generalizing world parties with
  | nil => exact ⟨[], by simpa [World.proceedAll] using reachable, rfl, rfl⟩
  | cons request requests inductionHypothesis =>
      obtain ⟨begun, first⟩ :=
        (reachable.step (.start world parties request)).proceed
      obtain ⟨further, others, sameRequests, sameStages⟩ := inductionHypothesis first
      refine ⟨⟨request, begun, (World.proceed (transport request) world).1.stage⟩ :: further, ?_,
        congrArg (request :: ·) sameRequests, congrArg (_ :: ·) sameStages⟩
      rwa [List.append_assoc] at others

/-- A task of a shift is one of the calls of the crowd, and can be replaced together with it. -/
theorem exists_party {tasks : List (Task Outcome)} {task : Task Outcome} {index : Nat}
    (stages : parties.map Party.stage = tasks.map Task.stage) (found : tasks[index]? = some task) :
    ∃ front request begun back, parties = front ++ ⟨request, begun, task.stage⟩ :: back ∧
      ∀ (further : List Effect) (after : Task Outcome),
        (front ++ ⟨request, further, after.stage⟩ :: back).map Party.stage
          = (tasks.set index after).map Task.stage := by
  have atIndex : (parties.map Party.stage)[index]? = some task.stage := by
    rw [stages, List.getElem?_map, found, Option.map_some]
  obtain ⟨⟨request, begun, stage⟩, there, sameStage⟩ :=
    Option.map_eq_some_iff.mp (List.getElem?_map.symm.trans atIndex)
  obtain ⟨inside, same⟩ := List.getElem?_eq_some_iff.mp there
  refine ⟨parties.take index, request, begun, parties.drop (index + 1), ?_, fun further after => ?_⟩
  · rw [← sameStage, ← same, ← List.drop_eq_getElem_cons inside, List.take_append_drop]
  · have replaced : parties.set index ⟨request, further, after.stage⟩
        = parties.take index ++ ⟨request, further, after.stage⟩ :: parties.drop (index + 1) :=
      List.set_eq_take_append_cons_drop.trans (if_pos inside)
    rw [← replaced, List.map_set, List.map_set, stages]

/-- The calls of a crowd can take turns until all have ended as those of a shift do. -/
theorem complete (shift : Shift Outcome) (position : Nat)
    (reachable : Reachable World.surroundings transport initial ⟨world, parties⟩)
    (stages : parties.map Party.stage = shift.tasks.map Task.stage) :
    ∃ further, Reachable World.surroundings transport initial
        ⟨(shift.complete world position).2, further⟩ ∧
      further.map Party.request = parties.map Party.request ∧
      further.map Party.stage = (shift.complete world position).1.tasks.map Task.stage := by
  fun_induction Shift.complete shift world position generalizing parties with
  | case1 => exact ⟨parties, reachable, rfl, stages⟩
  | case2 shift world position index current turn effect pending next found finished proceeded =>
      rename_i inductionHypothesis
      obtain ⟨⟨instant, rfl⟩, task, there, ready⟩ := shift.nextTurn?_eq_some turn
      obtain rfl : Task.waiting effect pending next = task :=
        Option.some.inj (found.symm.trans there)
      obtain ⟨front, request, begun, back, rfl, sameStages⟩ := exists_party stages found
      -- The clock moves, the effect of the task ends, and its call goes on until it has to wait.
      have moved := reachable.step (.pass _ (.inl ⟨instant, rfl⟩))
      have ended := moved.step (.turn front back
        (.finish _ request begun effect _ next (of_decide_eq_true ready)))
      obtain ⟨further, waits⟩ := ended.proceed
      obtain ⟨last, there, requests, lastStages⟩ :=
        inductionHypothesis waits (sameStages further _)
      exact ⟨last, there, by simpa using requests, lastStages⟩
  | case3 shift world position index current turn notWaiting =>
      obtain ⟨⟨instant, rfl⟩, task, there, ready⟩ := shift.nextTurn?_eq_some turn
      exact ⟨parties, reachable.step (.pass _ (.inl ⟨instant, rfl⟩)), rfl, stages⟩

end Crowd.Reachable

/-- Calls that are run side by side are a crowd: wherever the scheduler gets with them, a crowd that
starts in the same world can get to, with the same outcomes. -/
theorem World.reachable_performAll (transport : Transport) (requests : List Request)
    (world : World) :
    ∃ parties : List (Party World),
      Crowd.Reachable World.surroundings transport world
        ⟨(world.performAll (requests.map transport)).2, parties⟩ ∧
      parties.map Party.request = requests ∧
      parties.filterMap (fun party => party.stage.outcome?)
        = (world.performAll (requests.map transport)).1 := by
  have nobody : Crowd.Reachable World.surroundings transport world ⟨world, []⟩ := .initial
  obtain ⟨begun, started, beginRequests, beginStages⟩ := nobody.proceedAll requests
  let shift : Shift Outcome := ⟨(proceedAll (requests.map transport) world).1⟩
  obtain ⟨parties, ended, endRequests, endStages⟩ :=
    Crowd.Reachable.complete shift 0 started beginStages
  refine ⟨parties, ended, endRequests.trans beginRequests, ?_⟩
  calc parties.filterMap (fun party => party.stage.outcome?)
      = (parties.map Party.stage).filterMap Stage.outcome? := by rw [List.filterMap_map]; rfl
    _ = (world.performAll (requests.map transport)).1 := by
        have told : Stage.outcome? ∘ Task.stage = Task.value? := funext Task.outcome?_stage
        rw [endStages, List.filterMap_map, told]
        rfl

end Outbound
