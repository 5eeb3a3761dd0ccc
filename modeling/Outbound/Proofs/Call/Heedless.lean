import Outbound.Proofs.Call.Replay
import Outbound.Session

/-! # Worlds that differ in what their memos know

A memo saves work and does nothing else. Worlds that differ in nothing but what their memos know
answer every effect in one way and differ in nothing else afterwards, whether a call is run alone or
side by side with others.

* `Heedless` holds of what is done in a world without regard to what its memos know;
  `heedless_begin` and `heedless_finish` say so of every effect.
* `heedless_perform` and `heedless_performAll` say so of calls, and `Session.heedless_result` of the
  steps of a session.
* `Session.steps_withMemos` follows a session to its end. -/

namespace Outbound

/-- What the memos of a world know. -/
abbrev Memos := MemoId → { memo : Path.Memo // memo.Sound }

namespace World

/-- The world with other memos. -/
def withMemos (world : World) (memos : Memos) : World := { world with memos }

/-- Something is done in a world without regard to what its memos know: it comes to the same with
other memos, and leaves the same world behind but for its memos. -/
def Heedless {α : Type} (act : World → α × World) : Prop :=
  ∀ world memos, ∃ later,
    act (world.withMemos memos) = ((act world).1, (act world).2.withMemos later)

variable {α β : Type}

/-- What is done after a heedless act is heedless together with it. -/
theorem Heedless.andThen {act : World → α × World} {further : α → World → β × World}
    (first : Heedless act) (second : ∀ value, Heedless (further value)) :
    Heedless fun world => further (act world).1 (act world).2 := by
  intro world memos
  obtain ⟨between, same⟩ := first world memos
  obtain ⟨later, behind⟩ := second (act world).1 (act world).2 between
  refine ⟨later, ?_⟩
  simp only [same]
  exact behind

/-- What is made of the outcome of a heedless act does not depend on the memos. -/
theorem Heedless.map {act : World → α × World} (heedless : Heedless act) (change : α → β) :
    Heedless fun world => (change (act world).1, (act world).2) := by
  intro world memos
  obtain ⟨later, same⟩ := heedless world memos
  exact ⟨later, by simp only [same]⟩

/-! ## Effects -/

/-- Every effect is begun without regard to the memos: a memo that is asked answers with the
template of the path in any case. -/
theorem heedless_begin (effect : Effect) : Heedless (·.begin effect) := by
  intro world memos
  cases effect with
  | template memo path =>
      refine ⟨((world.withMemos memos).template memo path).2.memos, ?_⟩
      show ready ((world.withMemos memos).template memo path).2
          ((world.withMemos memos).template memo path).1
        = ((ready (world.template memo path).2 (world.template memo path).1).1, _)
      rw [template_fst, template_fst]
      rfl
  | _ => exact ⟨memos, rfl⟩

/-- A reply is delivered without regard to the memos. -/
theorem heedless_deliver (reply : Reply) : Heedless (·.deliver reply) := by
  intro world memos
  refine ⟨memos, ?_⟩
  simp only [deliver]
  cases reply.fires <;> cases reply.reaction <;> rfl

/-- Every effect ends without regard to the memos. -/
theorem heedless_finish (effect : Effect) (begun : World) :
    Heedless (begun.begin effect).1.finish := by
  intro world memos
  cases effect with
  | send request => exact heedless_deliver (begun.script.head?.getD .plain) world memos
  | _ => exact ⟨memos, rfl⟩

/-- Every effect is answered without regard to the memos. -/
theorem heedless_answer (effect : Effect) : Heedless (answer effect) := by
  intro world memos
  let begun := (world.begin effect).2
  let pending := (world.begin effect).1
  obtain ⟨between, begins⟩ :
      ∃ between, (world.withMemos memos).begin effect = (pending, begun.withMemos between) :=
    heedless_begin effect world memos
  obtain ⟨later, ends⟩ :=
    heedless_finish effect world (begun.moveTo (pending.endsAt begun.signals)) between
  refine ⟨later, ?_⟩
  rw [answer, begins]
  exact ends

/-! ## Calls -/

/-- A call is run without regard to the memos. -/
theorem heedless_perform (call : Call α) : Heedless (·.perform call) := by
  induction call with
  | done value => exact fun _ memos => ⟨memos, rfl⟩
  | ask effect next inductionHypothesis =>
      exact (heedless_answer effect).andThen inductionHypothesis

/-- A call runs until it has to wait without regard to the memos. -/
theorem heedless_proceed (call : Call α) : Heedless (proceed call) := by
  induction call with
  | done value => exact fun _ memos => ⟨memos, rfl⟩
  | ask effect next inductionHypothesis =>
      intro world memos
      let begun := (world.begin effect).2
      let pending := (world.begin effect).1
      obtain ⟨between, begins⟩ :
          ∃ between, (world.withMemos memos).begin effect = (pending, begun.withMemos between) :=
        heedless_begin effect world memos
      by_cases ends : pending.endsAt begun.signals ≤ begun.now
      · -- The effect ends at once, and the call goes on with its answer.
        have goesOn : proceed (.ask effect next) world
            = proceed (next (pending.finish begun).1) (pending.finish begun).2 := if_pos ends
        obtain ⟨later, same⟩ :=
          (heedless_finish effect world).andThen (fun answer => inductionHypothesis answer)
            begun between
        refine ⟨later, ?_⟩
        rw [goesOn, ← same, proceed, begins]
        exact if_pos ends
      · have waits : proceed (.ask effect next) world = (.waiting effect pending next, begun) :=
          if_neg ends
        refine ⟨between, ?_⟩
        rw [waits, proceed, begins]
        exact if_neg ends

end World

/-! ## Calls side by side -/

/-- A task is heedless if what it waits for ends without regard to the memos. -/
def Task.Heedless {α : Type} : Task α → Prop
  | .ended _ => True
  | .waiting _ pending _ => World.Heedless pending.finish

namespace World

variable {α : Type}

/-- A call that has to wait is a heedless task. -/
theorem task_heedless_proceed (call : Call α) (world : World) :
    (proceed call world).1.Heedless := by
  induction call generalizing world with
  | done value => exact trivial
  | ask effect next inductionHypothesis =>
      simp only [proceed]
      split
      next ends => exact inductionHypothesis _ _
      next waits => exact heedless_finish effect world

/-- Calls run until each of them has to wait without regard to the memos. -/
theorem heedless_proceedAll (calls : List (Call α)) : Heedless (proceedAll calls) := by
  induction calls with
  | nil => exact fun _ memos => ⟨memos, rfl⟩
  | cons call calls inductionHypothesis =>
      have others (task : Task α) : Heedless fun world =>
          (task :: (proceedAll calls world).1, (proceedAll calls world).2) :=
        inductionHypothesis.map (task :: ·)
      exact (heedless_proceed call).andThen others

/-- Calls that have to wait are heedless tasks. -/
theorem tasks_heedless_proceedAll (calls : List (Call α)) (world : World) :
    ∀ task ∈ (proceedAll calls world).1, task.Heedless := by
  induction calls generalizing world with
  | nil => simp [proceedAll]
  | cons call calls inductionHypothesis =>
      exact List.forall_mem_cons.mpr ⟨task_heedless_proceed call world, inductionHypothesis _⟩

end World

namespace Shift

variable {α : Type} {shift : Shift α} {world current : World} {position index : Nat}

/-- Whose turn is next does not depend on the memos. -/
theorem nextTurn?_withMemos (shift : Shift α) (world : World) (memos : Memos) (position : Nat) :
    shift.nextTurn? (world.withMemos memos) position
      = (shift.nextTurn? world position).map fun turn => (turn.1, turn.2.withMemos memos) := by
  have ready (world : World) (position : Nat) :
      shift.readyFrom? (world.withMemos memos) position = shift.readyFrom? world position := rfl
  have first : shift.firstEnd? (world.withMemos memos) = shift.firstEnd? world := rfl
  rw [nextTurn?, nextTurn?, ready, ready, first]
  cases (shift.readyFrom? world position).or (shift.readyFrom? world 0) with
  | some index => rfl
  | none =>
      cases shift.firstEnd? world with
      | none => rfl
      | some instant =>
          show (shift.readyFrom? ((world.moveTo instant).withMemos memos) 0).map _ = _
          rw [ready, Option.map_map]
          rfl

/-- A shift without a next turn is over. -/
theorem complete_of_none (idle : shift.nextTurn? world position = none) :
    shift.complete world position = (shift, world) := by
  rw [complete, idle]

/-- A task that waits goes on when it is its turn. -/
theorem complete_of_waiting {effect : Effect} {pending : Pending effect.Answer}
    {next : effect.Answer → Call α}
    (turn : shift.nextTurn? world position = some (index, current))
    (found : shift.tasks[index]? = some (.waiting effect pending next)) :
    let proceeded := World.proceed (next (pending.finish current).1) (pending.finish current).2
    shift.complete world position
      = (shift.set index proceeded.1).complete proceeded.2 (index + 1) := by
  intro proceeded
  rw [complete, turn]
  simp only
  split
  next same =>
    cases found.symm.trans same
    rfl
  next other => exact absurd found (other effect pending next)

/-- A shift is over if it is the turn of no task that waits. -/
theorem complete_of_not_waiting
    (turn : shift.nextTurn? world position = some (index, current))
    (noneWaits : ∀ effect pending next, shift.tasks[index]? ≠ some (.waiting effect pending next)) :
    shift.complete world position = (shift, current) := by
  rw [complete, turn]
  simp only

/-- Tasks take turns without regard to the memos. -/
theorem heedless_complete (position : Nat) (heedless : ∀ task ∈ shift.tasks, task.Heedless) :
    World.Heedless fun world => shift.complete world position := by
  intro world memos
  show ∃ later, shift.complete (world.withMemos memos) position
    = ((shift.complete world position).1, (shift.complete world position).2.withMemos later)
  fun_induction Shift.complete shift world position generalizing memos with
  | case1 shift world position idle =>
      refine ⟨memos, complete_of_none ?_⟩
      rw [nextTurn?_withMemos, idle, Option.map_none]
  | case2 shift world position index current turn effect pending next found finished proceeded =>
      rename_i inductionHypothesis
      have turned : shift.nextTurn? (world.withMemos memos) position
          = some (index, current.withMemos memos) := by
        rw [nextTurn?_withMemos, turn, Option.map_some]
      have ends : World.Heedless pending.finish := heedless _ (List.mem_of_getElem? found)
      let goesOn (world : World) : Task α × World :=
        World.proceed (next (pending.finish world).1) (pending.finish world).2
      obtain ⟨between, same⟩ : ∃ between, goesOn (current.withMemos memos)
          = (proceeded.1, proceeded.2.withMemos between) :=
        ends.andThen (fun answer => World.heedless_proceed (next answer)) current memos
      -- The task that had its turn is heedless again, and the others still are.
      have still : ∀ task ∈ (shift.set index proceeded.1).tasks, task.Heedless := by
        intro task member
        rcases List.mem_or_eq_of_mem_set member with other | rfl
        · exact heedless task other
        · exact World.task_heedless_proceed _ _
      obtain ⟨later, rest⟩ := inductionHypothesis still between
      refine ⟨later, (complete_of_waiting turned found).trans ?_⟩
      show (shift.set index (goesOn (current.withMemos memos)).1).complete
        (goesOn (current.withMemos memos)).2 (index + 1) = _
      rw [same]
      exact rest
  | case3 shift world position index current turn noneWaits =>
      have turned : shift.nextTurn? (world.withMemos memos) position
          = some (index, current.withMemos memos) := by
        rw [nextTurn?_withMemos, turn, Option.map_some]
      exact ⟨memos, complete_of_not_waiting turned noneWaits⟩

end Shift

/-- Calls are run side by side without regard to the memos. -/
theorem World.heedless_performAll {α : Type} (calls : List (Call α)) :
    Heedless (·.performAll calls) := by
  intro world memos
  obtain ⟨between, begins⟩ := heedless_proceedAll calls world memos
  let shift : Shift α := ⟨(proceedAll calls world).1⟩
  let begun := (proceedAll calls world).2
  obtain ⟨later, ends⟩ : ∃ later, shift.complete (begun.withMemos between) 0
      = ((shift.complete begun 0).1, (shift.complete begun 0).2.withMemos later) :=
    Shift.heedless_complete 0 (tasks_heedless_proceedAll calls world) begun between
  exact ⟨later, by simp only [performAll, begins, begun, shift, ends]⟩

/-! ## Sessions -/

namespace Session

/-- A step has its result without regard to the memos. -/
theorem heedless_result (session : Session) (step : Step) :
    World.Heedless fun world => session.result world step := by
  cases step with
  | request method path => exact fun _ memos => ⟨memos, rfl⟩
  | call plan =>
      exact (World.heedless_perform (plan.program session.client (.own session.calls))).map
        StepResult.call
  | sideBySide plans =>
      exact (World.heedless_performAll (session.programs plans)).map StepResult.calls
  | advance | fire | available | tryAcquire => exact fun _ memos => ⟨memos, rfl⟩

/-- The session in a world with other memos. -/
def withMemos (session : Session) (memos : Memos) : Session :=
  { session with world := session.world.withMemos memos }

/-- A step of a session is told without regard to the memos. -/
theorem step_withMemos (session : Session) (step : Step) (memos : Memos) :
    ∃ later, (session.withMemos memos).step step
      = ((session.step step).1, (session.step step).2.withMemos later) := by
  let fresh : World := { session.world with events := [] }
  obtain ⟨later, same⟩ : ∃ later, session.result (fresh.withMemos memos) step
      = ((session.result fresh step).1, (session.result fresh step).2.withMemos later) :=
    session.heedless_result step fresh memos
  have sameClient : (session.withMemos memos).result (fresh.withMemos memos) step
      = session.result (fresh.withMemos memos) step := by
    cases step <;> rfl
  refine ⟨later, ?_⟩
  calc (session.withMemos memos).step step
      = (((session.withMemos memos).result (fresh.withMemos memos) step).1,
          { session.withMemos memos with
            world := ((session.withMemos memos).result (fresh.withMemos memos) step).2
            calls := session.calls + callCount step }) := rfl
    _ = _ := by
        rw [sameClient, same]
        rfl

/-- What is told about the steps of a session does not depend on what its memos know. -/
theorem steps_withMemos (session : Session) (steps : List Step) (memos : Memos) :
    ∃ later, (session.withMemos memos).steps steps
      = ((session.steps steps).1, (session.steps steps).2.withMemos later) := by
  induction steps generalizing session memos with
  | nil => exact ⟨memos, rfl⟩
  | cons step steps inductionHypothesis =>
      obtain ⟨between, first⟩ := session.step_withMemos step memos
      obtain ⟨later, others⟩ := inductionHypothesis (session.step step).2 between
      refine ⟨later, ?_⟩
      simp only [Session.steps, first, others]
      rfl

end Session

end Outbound
