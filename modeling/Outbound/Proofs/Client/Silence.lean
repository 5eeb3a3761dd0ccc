import Outbound.Proofs.Call.Retelling
import Outbound.Proofs.Client.Layers

/-! # Calls that tell nothing

Where a client logs and measures makes no difference to its calls: a silent client makes the calls
of a recorded one, without the records and the measurements.

* `Call.muted` is a call without them; `Call.run_muted` says that it runs as the call does where
  nobody listens.
* `RetryPolicy.muted_transport`, `Admission.muted_transport` and `Observe.muted_transport` say that
  a silent layer is a muted one, and `Client.muted_execute` that a silent client is.
* `World.perform_silenced` compares the two in a scripted world. -/

namespace Outbound

/-! ## Muted calls -/

namespace Call

variable {α β σ : Type}

/-- The call without what it logs and measures. -/
def muted : Call α → Call α
  | .done value => .done value
  | .ask (.log _) next => (next ()).muted
  | .ask (.measure _) next => (next ()).muted
  | .ask effect next => .ask effect fun answer => (next answer).muted

/-- Calls that go on alike behind every answer to an effect are the same behind the effect. -/
theorem ask_congr {effect : Effect} {next other : effect.Answer → Call α}
    (same : ∀ answer, next answer = other answer) : ask effect next = ask effect other :=
  congrArg (ask effect) (funext same)

/-- Answers to effects where nobody listens. -/
def unheard (respond : (effect : Effect) → σ → effect.Answer × σ) :
    (effect : Effect) → σ → effect.Answer × σ
  | .log _, state => ((), state)
  | .measure _, state => ((), state)
  | effect, state => respond effect state

/-- A composed call is muted part by part. -/
theorem muted_bind (call : Call α) (further : α → Call β) :
    (call >>= further).muted = call.muted >>= fun value => (further value).muted := by
  induction call with
  | done value => rfl
  | ask effect next inductionHypothesis =>
      cases effect <;> simp only [ask_bind, muted, inductionHypothesis]

/-- A muted call runs as the call does where nobody listens. -/
theorem run_muted (respond : (effect : Effect) → σ → effect.Answer × σ) (call : Call α)
    (state : σ) : call.muted.run respond state = call.run (unheard respond) state := by
  induction call generalizing state with
  | done value => rfl
  | ask effect next inductionHypothesis =>
      cases effect <;> simp only [muted, run, unheard, inductionHypothesis]

end Call

/-- A muted record is not written. -/
@[simp] theorem Sink.muted_log (sink : Sink) (level : Level) (message : String)
    (fields : List Field) : (sink.log level message fields).muted = .done () := by
  cases sink <;> rfl

/-- A muted event is not counted. -/
@[simp] theorem Sink.muted_measure (sink : Sink) (event : MetricEvent) :
    (sink.measure event).muted = .done () := by cases sink <;> rfl

/-! ## Muted layers -/

variable {inner : Transport} {request : Request}

/-- The transport whose calls are muted. -/
def Transport.muted (inner : Transport) : Transport := fun request => (inner request).muted

namespace RetryPolicy

/-- The policy that tells nothing. -/
def silenced (policy : RetryPolicy) : RetryPolicy := { policy with sink := .silent }

/-- A muted pause only lets go of the response and waits. -/
theorem muted_pause (policy : RetryPolicy) (context : Context) (endpoint : String) (made : Nat)
    (outcome : Outcome) :
    (policy.pause context endpoint made outcome).muted
      = policy.silenced.pause context endpoint made outcome := by
  simp only [pause, Call.muted_bind, Sink.muted_log, Sink.muted_measure]
  cases outcome <;> rfl

/-- A muted series of attempts is a series of a policy that tells nothing. -/
theorem muted_attemptsFrom (policy : RetryPolicy) (endpoint : String) (made further : Nat) :
    (policy.attemptsFrom inner request endpoint made further).muted
      = policy.silenced.attemptsFrom inner.muted request endpoint made further := by
  induction further generalizing made with
  | zero =>
      simp only [attemptsFrom, Call.muted_bind]
      refine bind_congr fun outcome => ?_
      split
      · simp only [tellExhausted, Call.muted_bind, Sink.muted_log]
        rfl
      · rfl
  | succ further inductionHypothesis =>
      simp only [attemptsFrom, Call.muted_bind]
      refine bind_congr fun outcome => ?_
      split
      · simp only [Call.muted_bind, muted_pause]
        refine bind_congr fun ending => ?_
        cases ending with
        | ok _ => exact inductionHypothesis (made + 1)
        | error cause => rfl
      · rfl

/-- Muted repeated attempts are those of a policy that tells nothing. -/
theorem muted_transport (policy : RetryPolicy) :
    (policy.transport inner request).muted = policy.silenced.transport inner.muted request := by
  simp only [transport]
  cases buffered request.body with
  | error failure => rfl
  | ok body =>
      exact Call.ask_congr fun endpoint => muted_attemptsFrom policy endpoint 0 _

end RetryPolicy

namespace Admission

/-- The admission that tells nothing. -/
def silenced (admission : Admission) : Admission := { admission with sink := .silent }

/-- A muted admission is one that tells nothing. -/
theorem muted_admitted (admission : Admission) :
    (admission.admitted request).muted = admission.silenced.admitted request := by
  simp only [admitted, silenced]
  split
  · rfl
  · refine Call.ask_congr fun delay => ?_
    show Call.muted (ite _ _ _) = ite _ _ _
    split
    · rfl
    · simp only [await, Call.muted_bind, Sink.muted_log, Sink.muted_measure]
      show Call.perform _ >>= _ = Call.perform _ >>= _
      refine bind_congr fun ending => ?_
      cases ending <;> rfl

/-- A muted admission in front of a transport is one that tells nothing. -/
theorem muted_transport (admission : Admission) :
    (admission.transport inner request).muted
      = admission.silenced.transport inner.muted request := by
  simp only [transport, Call.muted_bind, muted_admitted]
  refine bind_congr fun answer => ?_
  cases answer <;> rfl

end Admission

namespace Observe

/-- The observation that tells nothing. -/
def silenced (observe : Observe) : Observe := { observe with sink := .silent }

/-- A muted observed call is one that tells nothing. -/
theorem muted_transport (observe : Observe) :
    (observe.transport inner request).muted = observe.silenced.transport inner.muted request := by
  simp only [transport, Call.muted_bind, Sink.muted_log]
  refine bind_congr fun _ => ?_
  refine Call.ask_congr fun start => bind_congr fun outcome => Call.ask_congr fun finish => ?_
  cases outcome with
  | error failure =>
      simp only [report, Call.muted_bind, Sink.muted_log, Sink.muted_measure]
      rfl
  | ok response =>
      simp only [report, Call.muted_bind, Sink.muted_log, Sink.muted_measure]
      rfl

end Observe

/-! ## Silent clients -/

/-- The configuration of a client that tells nothing. -/
def ClientConfig.silenced (config : ClientConfig) : ClientConfig := { config with sink := .silent }

/-- A silent client admits calls as ever, and tells nothing of it. -/
theorem ClientConfig.admission_silenced (config : ClientConfig) :
    config.silenced.admission = config.admission.map Admission.silenced := by
  cases selector : config.selector <;> cases limiter : config.limiter <;>
    simp only [admission, silenced, selector, limiter] <;> rfl

/-- The layers behind the credential of a silent client are muted. -/
theorem ClientConfig.muted_limited (config : ClientConfig) :
    (config.limited inner request).muted = config.silenced.limited inner.muted request := by
  cases limit : config.admission with
  | none =>
      simp only [limited, limit, admission_silenced, Option.map_none]
      exact config.retryPolicy.muted_transport
  | some admission =>
      have repeats : (config.retryPolicy.transport inner).muted
          = config.silenced.retryPolicy.transport inner.muted :=
        funext fun _ => config.retryPolicy.muted_transport
      simp only [limited, limit, admission_silenced, Option.map_some, Admission.muted_transport,
        repeats]

/-- A silent client makes the calls of a client, muted. -/
theorem Client.muted_execute (config : ClientConfig) :
    ((ofConfig config .base []).execute request).muted
      = (ofConfig config.silenced .base []).execute request := by
  have passed : Transport.base.muted = Transport.base := rfl
  rw [execute_eq, execute_eq, Observe.muted_transport]
  congr 1
  funext observed
  exact passed ▸ config.muted_limited

/-! ## Silence in a scripted world -/

/-- An event, unless it is a record or a measurement. -/
def Event.untold : Event → List Event
  | .log _ | .metric _ => []
  | event => [event]

/-- The world in which no records and no measurements were seen. -/
def World.silenced (world : World) : World := world.retold Event.untold

/-- Where nobody listens, effects are answered as ever. -/
theorem World.unheard_silenced (effect : Effect) (world : World) :
    Call.unheard answer effect world.silenced
      = ((answer effect world).1, (answer effect world).2.silenced) := by
  have elsewhere (same : ∀ event ∈ effect.event? world.now, event.untold = [event]) :=
    answer_retold Event.untold effect world same
  cases effect with
  | log record | measure event =>
      rw [answer_of_begin rfl]
      exact congrArg ((), ·) (retold_note_of_nil rfl).symm
  | _ =>
      refine elsewhere ?_
      rintro _ ⟨⟩ <;> rfl

/-- A silent client makes the calls of a client in a scripted world, without what that tells. -/
theorem World.perform_silenced (config : ClientConfig) (world : World) :
    world.silenced.perform ((Client.ofConfig config.silenced .base []).execute request)
      = ((world.perform ((Client.ofConfig config .base []).execute request)).1,
          (world.perform ((Client.ofConfig config .base []).execute request)).2.silenced) := by
  rw [← Client.muted_execute, perform, Call.run_muted]
  exact Call.run_view unheard_silenced _ world

end Outbound
