import Outbound.Proofs.Call.Trace
import Outbound.Proofs.Call.Turns

/-! # Replaying traces

The effects of a trace can be asked for once more, one after the other. For the trace of a run this
leads to where the run led, and past the state in which each of its effects was answered.

* `Trace.replay` is the state behind a trace; `Call.run_snd_eq_replay` and `Call.atEach_exchanges`
  say that the trace of a run is replayed as it was run.
* `Trace.Prompt` holds of traces in which a call never gives way;
  `Trace.Prompt.now_replay` says that the clock of a scripted world stands still meanwhile.
* `World.now_answer_wait` and `World.answer_wait_fst` say when and how a wait ends there, and
  `Trace.now_le_replay` that its clock never goes back. -/

namespace Outbound

variable {α σ : Type}

/-! ## States along a trace -/

namespace Trace

variable (respond : (effect : Effect) → σ → effect.Answer × σ)

/-- The state behind a trace. -/
def replay (trace : Trace) (state : σ) : σ :=
  trace.foldl (fun state exchange => (respond exchange.effect state).2) state

@[simp] theorem replay_nil (state : σ) : replay respond [] state = state := rfl

@[simp] theorem replay_cons (exchange : Exchange) (trace : Trace) (state : σ) :
    replay respond (exchange :: trace) state
      = replay respond trace (respond exchange.effect state).2 := rfl

@[simp] theorem replay_append (front back : Trace) (state : σ) :
    replay respond (front ++ back) state = replay respond back (replay respond front state) :=
  List.foldl_append

end Trace

namespace Call

variable (respond : (effect : Effect) → σ → effect.Answer × σ)

/-- A run ends in the state behind its trace. -/
theorem run_snd_eq_replay (call : Call α) (state : σ) :
    (call.run respond state).2 = (call.exchanges respond state).replay respond state := by
  induction call generalizing state with
  | done value => rfl
  | ask effect next inductionHypothesis => exact inductionHypothesis _ _

/-- Every effect of a run got the answer of the state behind the effects before it. -/
theorem atEach_exchanges (call : Call α) (state : σ) :
    (call.exchanges respond state).AtEach fun front exchange _ =>
      exchange.answer = (respond exchange.effect (front.replay respond state)).1 := by
  induction call generalizing state with
  | done value => exact Trace.atEach_nil
  | ask effect next inductionHypothesis =>
      exact Trace.atEach_cons.mpr ⟨rfl, inductionHypothesis _ _⟩

end Call

/-! ## The clock of a scripted world -/

namespace World

/-- An effect that ends as it begins is answered at once. -/
theorem answer_of_begin {effect : Effect} {given : effect.Answer} {world after : World}
    (begins : world.begin effect = after.ready given) : answer effect world = (given, after) := by
  rw [answer, begins]
  exact congrArg (given, ·) after.moveTo_now

/-- No time passes in an effect in which a call does not give way. -/
theorem now_answer {effect : Effect} (prompt : effect.suspends = false) (world : World) :
    (answer effect world).2.now = world.now := by
  cases effect with
  | wait | send => cases prompt
  | _ => rw [answer_of_begin rfl] <;> rfl

/-- A wait ends at the instant at which it wakes the call. -/
theorem now_answer_wait (sleeper : Sleeper) (context : Context) (delay : Duration)
    (world : World) :
    (answer (.wait sleeper context delay) world).2.now
      = Wait.wakesAt ⟨context, sleeper.ends world.now delay⟩ world.signals world.now := by
  have twice (start later : Instant) : max start (max start later) = max start later := by
    ext
    simp only [Instant.nanos_max]
    omega
  exact twice _ _

/-- No time passes as a reply is delivered. -/
theorem now_deliver (world : World) (reply : Reply) : (world.deliver reply).2.now = world.now := by
  cases fires : reply.fires <;> cases reaction : reply.reaction <;>
    rw [deliver, fires, reaction] <;> rfl

/-- The clock does not go back in an effect. -/
theorem now_le_answer (effect : Effect) (world : World) :
    world.now ≤ (answer effect world).2.now := by
  cases suspends : effect.suspends with
  | false =>
      rw [now_answer suspends]
      exact Nat.le_refl _
  | true =>
      cases effect with
      | wait sleeper context delay =>
          rw [now_answer_wait, Wait.wakesAt, Instant.le_iff, Instant.nanos_max]
          exact Nat.le_max_left ..
      | send request =>
          rw [answer, begin, beginSend]
          dsimp only
          rw [now_deliver, moveTo, Instant.le_iff, Instant.nanos_max]
          exact Nat.le_max_left ..
      | _ => cases suspends

/-- A wait ends as its context asks for at that instant. -/
theorem answer_wait_fst (sleeper : Sleeper) (context : Context) (delay : Duration)
    (world : World) :
    (answer (.wait sleeper context delay) world).1
      = Wait.outcome ⟨context, sleeper.ends world.now delay⟩ world.signals
          (answer (.wait sleeper context delay) world).2.now := rfl

end World

namespace Trace

/-- The clock does not go back in a trace. -/
theorem now_le_replay (trace : Trace) (world : World) :
    world.now ≤ (trace.replay World.answer world).now := by
  induction trace generalizing world with
  | nil => exact Nat.le_refl _
  | cons exchange trace inductionHypothesis =>
      exact Nat.le_trans (World.now_le_answer ..) (inductionHypothesis _)

/-- A call that has come to a state does not end before it. -/
theorem now_le_perform {call : Call α} {world : World} {front back : Trace}
    (split : call.exchanges World.answer world = front ++ back) :
    (front.replay World.answer world).now ≤ (world.perform call).2.now := by
  rw [World.perform, Call.run_snd_eq_replay, split, replay_append]
  exact now_le_replay ..

/-- A call never gives way in a trace: it neither waits nor sends a request. -/
def Prompt (trace : Trace) : Prop := ∀ exchange ∈ trace, exchange.effect.suspends = false

/-- A trace is prompt if its first exchange is and all others are. -/
theorem prompt_cons {exchange : Exchange} {trace : Trace} :
    Prompt (exchange :: trace) ↔ exchange.effect.suspends = false ∧ trace.Prompt := by
  simp [Prompt]

/-- A trace is prompt if both its parts are. -/
theorem prompt_append {front back : Trace} :
    Prompt (front ++ back) ↔ front.Prompt ∧ back.Prompt := by
  simp [Prompt, or_imp, forall_and]

/-- No request is sent in a prompt trace. -/
theorem Prompt.requests_eq_nil {trace : Trace} (prompt : trace.Prompt) : trace.requests = [] := by
  refine List.filterMap_eq_nil_iff.mpr ?_
  rintro ⟨effect, answer⟩ member
  have stays : effect.suspends = false := prompt _ member
  cases effect <;> first | rfl | cases stays

/-- The clock stands still in a prompt trace. -/
theorem Prompt.now_replay {trace : Trace} (prompt : trace.Prompt) (world : World) :
    (trace.replay World.answer world).now = world.now := by
  induction trace generalizing world with
  | nil => rfl
  | cons exchange trace inductionHypothesis =>
      obtain ⟨first, others⟩ := prompt_cons.mp prompt
      rw [replay_cons, inductionHypothesis others, World.now_answer first]

end Trace

end Outbound
