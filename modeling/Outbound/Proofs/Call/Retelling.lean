import Outbound.Proofs.Call.Replay

/-! # What was seen of a call

A scripted world keeps what was seen of its calls and never looks at it: a call goes in the same way
whatever was seen before, and whatever of it is kept.

* `Call.run_view` carries a run from one kind of state over to another one.
* `World.retold` is a world in which every event was told in another way, with more or fewer words;
  `World.answer_retold` says that effects are answered there as ever. -/

namespace Outbound

/-- Surroundings seen through a view run calls as they do, if the view answers for them. -/
theorem Call.run_view {α σ τ : Type} {respond : (effect : Effect) → σ → effect.Answer × σ}
    {viewed : (effect : Effect) → τ → effect.Answer × τ} {view : σ → τ}
    (answers : ∀ effect state,
      viewed effect (view state) = ((respond effect state).1, view (respond effect state).2))
    (call : Call α) (state : σ) :
    call.run viewed (view state)
      = ((call.run respond state).1, view (call.run respond state).2) := by
  induction call generalizing state with
  | done value => rfl
  | ask effect next inductionHypothesis => simp only [run, answers, inductionHypothesis]

/-- What is seen of an effect that begins at an instant. -/
def Effect.event? (now : Instant) : Effect → Option Event
  | .log record => some (.log record)
  | .measure event => some (.metric event)
  | .enter tag => some (.enter tag)
  | .leave tag succeeded => some (.leave tag succeeded)
  | .wait _ _ delay => some (.sleep delay)
  | .send request => some (.send request now)
  | .close response => some (.close response)
  | _ => none

namespace World

/-- The world in which every event was told in another way. -/
def retold (tell : Event → List Event) (world : World) : World :=
  { world with events := world.events.flatMap tell }

variable {tell : Event → List Event} {world : World}

/-- An event is added in the way in which it is told. -/
theorem retold_note {event told : Event} (tells : tell event = [told]) :
    (world.note event).retold tell = (world.retold tell).note told := by
  simp [note, retold, tells]

/-- An event that is not told is not added. -/
theorem retold_note_of_nil {event : Event} (tells : tell event = []) :
    (world.note event).retold tell = world.retold tell := by
  simp [note, retold, tells]

/-- A reply is delivered whatever was seen. -/
theorem deliver_retold (reply : Reply) :
    (world.retold tell).deliver reply
      = ((world.deliver reply).1, (world.deliver reply).2.retold tell) := by
  simp only [deliver]
  cases reply.fires <;> cases reply.reaction <;> rfl

/-- A request gets the same outcome as the one it is told as. -/
theorem answer_send_retold {request other : Request}
    (tells : tell (.send request world.now) = [.send other world.now]) :
    answer (.send other) (world.retold tell)
      = ((answer (.send request) world).1, (answer (.send request) world).2.retold tell) := by
  let reply := world.script.head?.getD .plain
  let sent : World := { world.note (.send request world.now) with script := world.script.tail }
  have begun : { (world.retold tell).note (.send other world.now) with
      script := world.script.tail } = sent.retold tell := by
    rw [← retold_note tells]
    rfl
  calc answer (.send other) (world.retold tell)
      = World.deliver
          (moveTo { (world.retold tell).note (.send other world.now) with
            script := world.script.tail } (Sleeper.timer.ends world.now reply.latency)) reply := rfl
    _ = ((sent.moveTo (Sleeper.timer.ends world.now reply.latency)).retold tell).deliver reply := by
        rw [begun]
        rfl
    _ = _ := deliver_retold reply

/-- An effect is answered whatever was seen before it, if its own event is told as it is. -/
theorem answer_retold (tell : Event → List Event) (effect : Effect) (world : World)
    (tells : ∀ event ∈ effect.event? world.now, tell event = [event]) :
    answer effect (world.retold tell)
      = ((answer effect world).1, (answer effect world).2.retold tell) := by
  cases effect with
  | send request => exact answer_send_retold (tells _ rfl)
  | wait sleeper context delay =>
      let wait : Wait := ⟨context, sleeper.ends world.now delay⟩
      let asleep := world.note (.sleep delay)
      have noted : (world.retold tell).note (.sleep delay) = asleep.retold tell :=
        (retold_note (tells _ rfl)).symm
      calc answer (.wait sleeper context delay) (world.retold tell)
          = (wait.outcome world.signals (moveTo ((world.retold tell).note (.sleep delay))
                (wait.wakesAt world.signals world.now)).now,
              moveTo ((world.retold tell).note (.sleep delay))
                (wait.wakesAt world.signals world.now)) := rfl
        _ = _ := by
            rw [noted]
            rfl
  | log | measure | enter | leave | close =>
      rw [answer_of_begin rfl, answer_of_begin rfl, retold_note (tells _ rfl)]
  | clock | template | reserve | giveBack | check | fireAfter => rfl

end World

end Outbound
