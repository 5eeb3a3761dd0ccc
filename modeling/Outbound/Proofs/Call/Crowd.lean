import Outbound.World

/-! # Calls in a crowd

Any number of calls are under way in the same surroundings. Each step of the crowd begins or ends a
single effect of one call, so the calls interleave in every way that is possible; a call that waits
may be dropped by its caller and never goes on.

* `Surroundings` are what effects are begun in; `World.surroundings` is the scripted world.
* `Crowd.Step` is a step of the crowd and `Crowd.Reachable` what a crowd can get to from nothing.
* `Crowd.Reachable.forall_parties` proves a law of all calls of a crowd from a law of the steps of
  each of them. -/

namespace Outbound

/-! ## Surroundings -/

/-- An effect that was begun in surroundings with states of some kind. -/
structure Underway (σ α : Type) where
  /-- Whether it can end in a state. -/
  CanEnd : σ → Prop
  /-- The answer at its end, and the state behind it. -/
  finish : σ → α × σ

/-- What effects are begun in. -/
structure Surroundings (σ : Type) where
  /-- Begins an effect. -/
  begin : (effect : Effect) → σ → Underway σ effect.Answer × σ
  /-- The changes that no call brings about, such as the time that passes. -/
  Passes : σ → σ → Prop

/-- The scripted world, in which the clock moves and tokens are fired by callers. -/
def World.surroundings : Surroundings World where
  begin effect world :=
    let (pending, begun) := world.begin effect
    (⟨fun later => pending.endsAt later.signals ≤ later.now, pending.finish⟩, begun)
  Passes world later :=
    (∃ instant, later = world.moveTo instant) ∨ ∃ token, later = world.fire token world.now

/-- Whether a call gives way to its caller while an effect is under way: only there it can be
dropped. -/
def Effect.suspends : Effect → Bool
  | .wait _ _ _ | .send _ => true
  | _ => false

/-! ## Calls under way -/

/-- How far a call has got. -/
inductive Stage (σ : Type) where
  /-- The call goes on, or has ended. -/
  | running (rest : Call Outcome)
  /-- The call waits for the end of an effect. -/
  | waiting (effect : Effect) (underway : Underway σ effect.Answer)
      (next : effect.Answer → Call Outcome)
  /-- The call was dropped while it waited for the end of an effect. -/
  | dropped (effect : Effect)

/-- A call of a crowd. -/
structure Party (σ : Type) where
  /-- The request of the call. -/
  request : Request
  /-- The effects that it began, in order. -/
  begun : List Effect := []
  /-- How far it has got. -/
  stage : Stage σ

namespace Party

variable {σ : Type}

/-- A call that is about to start. -/
def start (transport : Transport) (request : Request) : Party σ :=
  { request, stage := .running (transport request) }

/-- A step of a single call, with the states of the surroundings before and after it. -/
inductive Step (surroundings : Surroundings σ) : σ → Party σ → σ → Party σ → Prop where
  /-- The call begins an effect. -/
  | begin (state : σ) (request : Request) (begun : List Effect) (effect : Effect)
      (next : effect.Answer → Call Outcome) :
      Step surroundings state ⟨request, begun, .running (.ask effect next)⟩
        (surroundings.begin effect state).2
        ⟨request, begun ++ [effect], .waiting effect (surroundings.begin effect state).1 next⟩
  /-- The effect that the call waits for ends. -/
  | finish (state : σ) (request : Request) (begun : List Effect) (effect : Effect)
      (underway : Underway σ effect.Answer) (next : effect.Answer → Call Outcome)
      (canEnd : underway.CanEnd state) :
      Step surroundings state ⟨request, begun, .waiting effect underway next⟩
        (underway.finish state).2 ⟨request, begun, .running (next (underway.finish state).1)⟩
  /-- The call is dropped while it waits. -/
  | drop (state : σ) (request : Request) (begun : List Effect) (effect : Effect)
      (underway : Underway σ effect.Answer) (next : effect.Answer → Call Outcome)
      (suspends : effect.suspends = true) :
      Step surroundings state ⟨request, begun, .waiting effect underway next⟩
        state ⟨request, begun, .dropped effect⟩

/-- Whether a call is over: it has ended, or was dropped. -/
def IsOver (party : Party σ) : Prop :=
  (∃ outcome, party.stage = .running (.done outcome)) ∨ ∃ effect, party.stage = .dropped effect

/-- A call that is over makes no further step. -/
theorem IsOver.not_step {surroundings : Surroundings σ} {state later : σ} {party after : Party σ}
    (isOver : party.IsOver) : ¬ Step surroundings state party later after := by
  intro step
  cases step <;> obtain ⟨_, same⟩ | ⟨_, same⟩ := isOver <;> cases same

end Party

/-! ## Crowds -/

/-- Calls under way in the same surroundings. -/
structure Crowd (σ : Type) where
  /-- The state of the surroundings. -/
  state : σ
  /-- The calls, in the order in which they started. -/
  parties : List (Party σ) := []

namespace Crowd

variable {σ : Type} {surroundings : Surroundings σ} {transport : Transport} {initial : σ}

/-- A step of a crowd of calls through a transport. -/
inductive Step (surroundings : Surroundings σ) (transport : Transport) :
    Crowd σ → Crowd σ → Prop where
  /-- A further call starts. -/
  | start (state : σ) (parties : List (Party σ)) (request : Request) :
      Step surroundings transport ⟨state, parties⟩ ⟨state, parties ++ [.start transport request]⟩
  /-- The surroundings change of themselves. -/
  | pass {state later : σ} (parties : List (Party σ)) (passes : surroundings.Passes state later) :
      Step surroundings transport ⟨state, parties⟩ ⟨later, parties⟩
  /-- One of the calls makes a step. -/
  | turn {state later : σ} {party after : Party σ} (front back : List (Party σ))
      (step : Party.Step surroundings state party later after) :
      Step surroundings transport ⟨state, front ++ party :: back⟩ ⟨later, front ++ after :: back⟩

/-- What a crowd of calls through a transport can get to. -/
inductive Reachable (surroundings : Surroundings σ) (transport : Transport) (initial : σ) :
    Crowd σ → Prop where
  /-- There are no calls at first. -/
  | initial : Reachable surroundings transport initial ⟨initial, []⟩
  /-- A crowd gets on by its steps. -/
  | step {before after : Crowd σ} (reachable : Reachable surroundings transport initial before)
      (step : Step surroundings transport before after) :
      Reachable surroundings transport initial after

/-- What holds of every call that is about to start and is kept by the steps of a call holds of all
calls of a crowd. -/
theorem Reachable.forall_parties {crowd : Crowd σ} {motive : Party σ → Prop}
    (reachable : Reachable surroundings transport initial crowd)
    (start : ∀ request, motive (.start transport request))
    (further : ∀ {state later : σ} {party after : Party σ}, motive party →
      Party.Step surroundings state party later after → motive after) :
    ∀ party ∈ crowd.parties, motive party := by
  induction reachable with
  | initial =>
      intro party member
      exact absurd member List.not_mem_nil
  | step _ step inductionHypothesis =>
      cases step with
      | start state parties request =>
          intro party member
          rcases List.mem_append.mp member with earlier | new
          · exact inductionHypothesis party earlier
          · rw [List.mem_singleton.mp new]
            exact start request
      | pass parties passes => exact inductionHypothesis
      | turn front back step =>
          -- Only the call whose turn it was is another one.
          intro party member
          rcases List.mem_append.mp member with inFront | rest
          · exact inductionHypothesis party (List.mem_append_left _ inFront)
          rcases List.mem_cons.mp rest with rfl | inBack
          · exact further (inductionHypothesis _ (by simp)) step
          · exact inductionHypothesis party (by simp [inBack])

end Crowd

end Outbound
