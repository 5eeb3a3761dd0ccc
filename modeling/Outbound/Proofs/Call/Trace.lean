import Outbound.Call

/-! # Traces of calls

The trace of a call is the list of the effects it asked for, each with the answer it got. A call is
determined by the answers it gets, so its trace fixes its value, whatever surroundings gave the
answers.

* `Call.Yields` says that a call with given answers ends with a value; `Call.yields_bind_iff` takes
  the trace of a composed call apart.
* `Trace.AtEach` speaks of each exchange of a trace and of what comes before and behind it;
  `Trace.atEach_append` takes it apart with the trace.
* `Call.exchanges` is the trace of a run, and `Call.yields_exchanges` says that every run of a call
  is one of its traces.
* `Call.through` puts a transport in place of the requests that a call sends; `Call.run_through`
  says that this is the same as letting the surroundings serve the requests by that transport. -/

namespace Outbound

/-! ## Exchanges -/

/-- An effect with the answer to it. -/
structure Exchange where
  /-- The effect that was asked for. -/
  effect : Effect
  /-- The answer. -/
  answer : effect.Answer

/-- The effects of a run with their answers, in order. -/
abbrev Trace := List Exchange

namespace Exchange

/-- The outcome of a request, if one was sent. -/
def outcome? : Exchange → Option Outcome
  | ⟨.send _, outcome⟩ => some outcome
  | _ => none

/-- The request that was sent, if one was. -/
def request? : Exchange → Option Request
  | ⟨.send request, _⟩ => some request
  | _ => none

/-- How a wait ended, if there was one. -/
def waited? : Exchange → Option (Except CancelCause Unit)
  | ⟨.wait _ _ _, ending⟩ => some ending
  | _ => none

end Exchange

namespace Trace

/-- The outcomes of the requests that were sent, in order. -/
def outcomes (trace : Trace) : List Outcome := trace.filterMap Exchange.outcome?

/-- How the waits ended, in order. -/
def waits (trace : Trace) : List (Except CancelCause Unit) := trace.filterMap Exchange.waited?

@[simp] theorem outcomes_nil : outcomes [] = [] := rfl

@[simp] theorem waits_nil : waits [] = [] := rfl

/-- The outcome of the first exchange comes first. -/
theorem outcomes_cons (exchange : Exchange) (trace : Trace) :
    outcomes (exchange :: trace) = exchange.outcome?.toList ++ outcomes trace := by
  cases known : exchange.outcome? <;> simp [outcomes, known]

/-- The wait of the first exchange comes first. -/
theorem waits_cons (exchange : Exchange) (trace : Trace) :
    waits (exchange :: trace) = exchange.waited?.toList ++ waits trace := by
  cases known : exchange.waited? <;> simp [waits, known]

@[simp] theorem outcomes_append (front back : Trace) :
    outcomes (front ++ back) = outcomes front ++ outcomes back := List.filterMap_append

@[simp] theorem waits_append (front back : Trace) :
    waits (front ++ back) = waits front ++ waits back := List.filterMap_append

/-- The requests that were sent, in order. -/
def requests (trace : Trace) : List Request := trace.filterMap Exchange.request?

@[simp] theorem requests_nil : requests [] = [] := rfl

/-- The request of the first exchange comes first. -/
theorem requests_cons (exchange : Exchange) (trace : Trace) :
    requests (exchange :: trace) = exchange.request?.toList ++ requests trace := by
  cases known : exchange.request? <;> simp [requests, known]

@[simp] theorem requests_append (front back : Trace) :
    requests (front ++ back) = requests front ++ requests back := List.filterMap_append

/-- Every request that was sent has its outcome. -/
theorem length_requests (trace : Trace) : trace.requests.length = trace.outcomes.length := by
  induction trace with
  | nil => rfl
  | cons exchange trace inductionHypothesis =>
      obtain ⟨effect, answer⟩ := exchange
      rw [requests_cons, outcomes_cons, List.length_append, List.length_append,
        inductionHypothesis]
      cases effect <;> rfl

/-- No request was sent if there was no outcome. -/
theorem requests_eq_nil_iff {trace : Trace} : trace.requests = [] ↔ trace.outcomes = [] := by
  rw [← List.length_eq_zero_iff, length_requests, List.length_eq_zero_iff]

/-! ### Places in a trace -/

/-- What holds of each exchange of a trace and of the exchanges before and behind it. -/
def AtEach (holds : Trace → Exchange → Trace → Prop) (trace : Trace) : Prop :=
  ∀ front exchange back, trace = front ++ exchange :: back → holds front exchange back

variable {holds : Trace → Exchange → Trace → Prop}

/-- The empty trace has no exchange. -/
theorem atEach_nil : AtEach holds [] := by
  intro front exchange back split
  simp at split

/-- The first exchange has none before it and stands before all others. -/
theorem atEach_cons {exchange : Exchange} {trace : Trace} :
    AtEach holds (exchange :: trace) ↔
      holds [] exchange trace ∧ AtEach (fun front => holds (exchange :: front)) trace := by
  constructor
  · intro each
    refine ⟨each [] exchange trace rfl, ?_⟩
    rintro front other back rfl
    exact each (exchange :: front) other back rfl
  · rintro ⟨first, others⟩ front other back split
    rcases List.cons_eq_append_iff.mp split with ⟨rfl, same⟩ | ⟨before, rfl, same⟩
    · obtain ⟨rfl, rfl⟩ := List.cons.inj same
      exact first
    · exact others before other back same

/-- The exchanges of the first of two traces stand before the second one. -/
theorem atEach_append {front back : Trace} :
    AtEach holds (front ++ back) ↔
      AtEach (fun before exchange behind => holds before exchange (behind ++ back)) front ∧
        AtEach (fun before => holds (front ++ before)) back := by
  induction front generalizing holds with
  | nil => simp [atEach_nil]
  | cons exchange front inductionHypothesis =>
      simp only [List.cons_append, atEach_cons, inductionHypothesis, and_assoc]

/-- What holds of an exchange wherever it stands holds of it in a trace. -/
theorem atEach_of_forall {trace : Trace}
    (anywhere : ∀ exchange ∈ trace, ∀ front back, holds front exchange back) :
    AtEach holds trace := by
  rintro front exchange back rfl
  exact anywhere exchange (by simp) front back

end Trace

namespace Call

variable {α β σ : Type}

/-! ## Yielding a value -/

/-- A call that gets the answers of a trace asks for its effects and ends with a value. -/
inductive Yields : Call α → Trace → α → Prop where
  /-- An ended call asks for nothing. -/
  | done (value : α) : Yields (.done value) [] value
  /-- The answer to the first effect decides how the call goes on. -/
  | ask {effect : Effect} {next : effect.Answer → Call α} {trace : Trace} {value : α}
      (answer : effect.Answer) (rest : Yields (next answer) trace value) :
      Yields (.ask effect next) (⟨effect, answer⟩ :: trace) value

/-- An ended call has the empty trace. -/
@[simp] theorem yields_done_iff {ended value : α} {trace : Trace} :
    (Call.done ended).Yields trace value ↔ trace = [] ∧ value = ended := by
  constructor
  · intro yields
    cases yields
    exact ⟨rfl, rfl⟩
  · rintro ⟨rfl, rfl⟩
    exact .done _

/-- The trace of a call that asks begins with the effect asked for. -/
theorem yields_ask_iff {effect : Effect} {next : effect.Answer → Call α} {trace : Trace}
    {value : α} :
    (Call.ask effect next).Yields trace value ↔
      ∃ answer rest, trace = ⟨effect, answer⟩ :: rest ∧ (next answer).Yields rest value := by
  constructor
  · intro yields
    cases yields with
    | ask answer rest => exact ⟨answer, _, rfl, rest⟩
  · rintro ⟨answer, rest, rfl, yields⟩
    exact .ask answer yields

/-- A single effect is the whole trace of the call that performs it. -/
@[simp] theorem yields_perform_iff {effect : Effect} {trace : Trace} {answer : effect.Answer} :
    (perform effect).Yields trace answer ↔ trace = [⟨effect, answer⟩] := by
  rw [perform, yields_ask_iff]
  constructor
  · rintro ⟨given, rest, rfl, yields⟩
    obtain ⟨rfl, rfl⟩ := yields_done_iff.mp yields
    rfl
  · rintro rfl
    exact ⟨answer, [], rfl, .done answer⟩

/-- The trace of a composed call is a trace of its first part with one of the second behind it. -/
theorem yields_bind_iff {call : Call α} {further : α → Call β} {trace : Trace} {value : β} :
    (call >>= further).Yields trace value ↔
      ∃ front back middle, trace = front ++ back ∧ call.Yields front middle ∧
        (further middle).Yields back value := by
  induction call generalizing trace with
  | done ended =>
      rw [done_bind]
      constructor
      · intro yields
        exact ⟨[], trace, ended, rfl, .done ended, yields⟩
      · rintro ⟨front, back, middle, rfl, ends, yields⟩
        obtain ⟨rfl, rfl⟩ := yields_done_iff.mp ends
        exact yields
  | ask effect next inductionHypothesis =>
      -- The first effect of the whole is that of the first part, and is moved over to its trace.
      rw [ask_bind, yields_ask_iff]
      constructor
      · rintro ⟨answer, rest, rfl, yields⟩
        obtain ⟨front, back, middle, rfl, first, second⟩ := (inductionHypothesis answer).mp yields
        exact ⟨⟨effect, answer⟩ :: front, back, middle, rfl, .ask answer first, second⟩
      · rintro ⟨front, back, middle, rfl, first, second⟩
        obtain ⟨answer, rest, rfl, yields⟩ := yields_ask_iff.mp first
        exact ⟨answer, rest ++ back, rfl,
          (inductionHypothesis answer).mpr ⟨rest, back, middle, rfl, yields, second⟩⟩

/-- A call that begins with a single effect goes on with the answer to it. -/
theorem yields_perform_bind_iff {effect : Effect} {further : effect.Answer → Call β}
    {trace : Trace} {value : β} :
    (perform effect >>= further).Yields trace value ↔
      ∃ answer rest, trace = ⟨effect, answer⟩ :: rest ∧ (further answer).Yields rest value :=
  yields_ask_iff

/-! ## Runs -/

/-- The trace of a run. -/
def exchanges (respond : (effect : Effect) → σ → effect.Answer × σ) : Call α → σ → Trace
  | .done _, _ => []
  | .ask effect next, state =>
      let (answer, after) := respond effect state
      ⟨effect, answer⟩ :: (next answer).exchanges respond after

/-- A run yields its value with its trace. -/
theorem yields_exchanges (respond : (effect : Effect) → σ → effect.Answer × σ) (call : Call α)
    (state : σ) : call.Yields (call.exchanges respond state) (call.run respond state).1 := by
  induction call generalizing state with
  | done value => exact .done value
  | ask effect next inductionHypothesis =>
      simp only [exchanges, run]
      exact .ask _ (inductionHypothesis _ _)

/-- The trace of a composed run is that of its first part with that of the second behind it. -/
theorem exchanges_bind (respond : (effect : Effect) → σ → effect.Answer × σ) (call : Call α)
    (further : α → Call β) (state : σ) :
    (call >>= further).exchanges respond state =
      call.exchanges respond state ++
        (further (call.run respond state).1).exchanges respond (call.run respond state).2 := by
  induction call generalizing state with
  | done value => rfl
  | ask effect next inductionHypothesis =>
      simp only [ask_bind, exchanges, run, inductionHypothesis, List.cons_append]

/-- Surroundings that never change: every request has the same outcome and every wait ends in the
same way, at the start of the clock. -/
def steady (outcome : Outcome) (ending : Except CancelCause Unit) :
    (effect : Effect) → Unit → effect.Answer × Unit
  | .log _, _ | .measure _, _ | .enter _, _ | .leave _ _, _ | .giveBack _, _ | .close _, _
  | .fireAfter _ _, _ => ((), ())
  | .clock, _ => (.start, ())
  | .template _ path, _ => (path, ())
  | .reserve _, _ => ((0 : Duration), ())
  | .wait _ _ _, _ => (ending, ())
  | .check _, _ => ((none : Option CancelCause), ())
  | .send _, _ => (outcome, ())

/-! ## Requests served by a transport -/

/-- The call with a transport in place of the requests it sends. -/
def through (inner : Transport) : Call α → Call α
  | .done value => .done value
  | .ask (.send request) next => inner request >>= fun outcome => (next outcome).through inner
  | .ask effect next => .ask effect fun answer => (next answer).through inner

/-- Answers to effects where requests are served by a transport. -/
def serving (respond : (effect : Effect) → σ → effect.Answer × σ) (inner : Transport) :
    (effect : Effect) → σ → effect.Answer × σ
  | .send request, state => (inner request).run respond state
  | effect, state => respond effect state

/-- A transport takes the place of the requests of each part of a composed call. -/
theorem through_bind (inner : Transport) (call : Call α) (further : α → Call β) :
    (call >>= further).through inner =
      call.through inner >>= fun value => (further value).through inner := by
  induction call with
  | done value => rfl
  | ask effect next inductionHypothesis =>
      -- Only requests are replaced: every other effect is asked for as before.
      cases effect with
      | send request =>
          simp only [ask_bind, through, bind_assoc, inductionHypothesis]
      | _ => simp only [ask_bind, through, inductionHypothesis]

/-- A call through a transport, and that through another one, is a call through both. -/
theorem through_through (middle inner : Transport) (call : Call α) :
    (call.through middle).through inner =
      call.through fun request => (middle request).through inner := by
  induction call with
  | done value => rfl
  | ask effect next inductionHypothesis =>
      cases effect with
      | send request => simp only [through, through_bind, inductionHypothesis]
      | _ => simp only [through, inductionHypothesis]

/-- A call through a transport runs as the call does where requests are served by the transport. -/
theorem run_through (inner : Transport) (respond : (effect : Effect) → σ → effect.Answer × σ)
    (call : Call α) (state : σ) :
    (call.through inner).run respond state = call.run (serving respond inner) state := by
  induction call generalizing state with
  | done value => rfl
  | ask effect next inductionHypothesis =>
      cases effect with
      | send request =>
          simp only [through, run_bind, run, serving, inductionHypothesis]
      | _ => simp only [through, run, serving, inductionHypothesis]

end Call

end Outbound
