import Mathlib.Data.List.Nodup
import Outbound.Proofs.Retry.Attempts

/-! # Open responses of a repeated call

A response is open from the attempt that it answers until it is let go or handed to the caller. A
repeated call lets go of a response before it waits for the next attempt, so that it holds at most
one and never keeps it over a wait.

* `Trace.opened` and `Trace.closed` are the responses that were opened and those that were let go,
  in order.
* `Trace.Orderly` follows the response that is open through a trace; `Trace.Orderly.opened_eq` and
  `Trace.Orderly.of_append` read off what was opened and let go, as a whole and on the way.
* `RetryPolicy.opened_eq_of_run` is the law of a whole run. -/

namespace Outbound

/-! ## Opening and closing -/

namespace Exchange

/-- The response that was opened, if one was. -/
def opened? : Exchange → Option ResponseId
  | ⟨.send _, .ok response⟩ => some response.id
  | _ => none

/-- The response that was let go, if one was. -/
def closed? : Exchange → Option ResponseId
  | ⟨.close response, _⟩ => some response
  | _ => none

end Exchange

/-- The response in an outcome, if there is one. -/
def Outcome.responseId? : Outcome → Option ResponseId
  | .ok response => some response.id
  | .error _ => none

namespace Trace

/-- The responses that were opened, in order. -/
def opened (trace : Trace) : List ResponseId := trace.filterMap Exchange.opened?

/-- The responses that were let go, in order. -/
def closed (trace : Trace) : List ResponseId := trace.filterMap Exchange.closed?

/-- What the first exchange opened comes first. -/
theorem opened_cons (exchange : Exchange) (trace : Trace) :
    opened (exchange :: trace) = exchange.opened?.toList ++ opened trace := by
  cases known : exchange.opened? <;> simp [opened, known]

/-- What the first exchange let go comes first. -/
theorem closed_cons (exchange : Exchange) (trace : Trace) :
    closed (exchange :: trace) = exchange.closed?.toList ++ closed trace := by
  cases known : exchange.closed? <;> simp [closed, known]

/-! ## Orderly traces -/

/-- A trace leads in an orderly way from the response that is open at first, if there is one, to the
response that is open at last: a response is opened only while no other is open, only the open
response is let go, and no wait begins while a response is open. -/
inductive Orderly : Option ResponseId → Trace → Option ResponseId → Prop where
  /-- Nothing happens. -/
  | nil (held : Option ResponseId) : Orderly held [] held
  /-- A response is opened. -/
  | opens {exchange : Exchange} {response : ResponseId} {rest : Trace} {last : Option ResponseId}
      (opens : exchange.opened? = some response) (closesNone : exchange.closed? = none)
      (further : Orderly (some response) rest last) : Orderly none (exchange :: rest) last
  /-- The open response is let go. -/
  | closes {exchange : Exchange} {response : ResponseId} {rest : Trace} {last : Option ResponseId}
      (opensNone : exchange.opened? = none) (closes : exchange.closed? = some response)
      (further : Orderly none rest last) : Orderly (some response) (exchange :: rest) last
  /-- Something else happens, which may be a wait, while nothing is open. -/
  | idle {exchange : Exchange} {rest : Trace} {last : Option ResponseId}
      (opensNone : exchange.opened? = none) (closesNone : exchange.closed? = none)
      (further : Orderly none rest last) : Orderly none (exchange :: rest) last
  /-- Something else happens, which is no wait, while a response is open. -/
  | busy {exchange : Exchange} {response : ResponseId} {rest : Trace} {last : Option ResponseId}
      (opensNone : exchange.opened? = none) (closesNone : exchange.closed? = none)
      (noWait : exchange.waited? = none) (further : Orderly (some response) rest last) :
      Orderly (some response) (exchange :: rest) last

namespace Orderly

variable {first middle last : Option ResponseId} {front back trace : Trace}

/-- Orderly traces can be put one behind the other. -/
theorem append (before : Orderly first front middle) (behind : Orderly middle back last) :
    Orderly first (front ++ back) last := by
  induction before with
  | nil => exact behind
  | opens opens closesNone _ inductionHypothesis =>
      exact .opens opens closesNone (inductionHypothesis behind)
  | closes opensNone closes _ inductionHypothesis =>
      exact .closes opensNone closes (inductionHypothesis behind)
  | idle opensNone closesNone _ inductionHypothesis =>
      exact .idle opensNone closesNone (inductionHypothesis behind)
  | busy opensNone closesNone noWait _ inductionHypothesis =>
      exact .busy opensNone closesNone noWait (inductionHypothesis behind)

/-- An orderly trace can be cut in two anywhere. -/
theorem of_append (whole : Orderly first (front ++ back) last) :
    ∃ middle, Orderly first front middle ∧ Orderly middle back last := by
  induction front generalizing first with
  | nil => exact ⟨first, .nil first, whole⟩
  | cons exchange front inductionHypothesis =>
      cases whole with
      | opens opens closesNone further =>
          obtain ⟨middle, before, behind⟩ := inductionHypothesis further
          exact ⟨middle, .opens opens closesNone before, behind⟩
      | closes opensNone closes further =>
          obtain ⟨middle, before, behind⟩ := inductionHypothesis further
          exact ⟨middle, .closes opensNone closes before, behind⟩
      | idle opensNone closesNone further =>
          obtain ⟨middle, before, behind⟩ := inductionHypothesis further
          exact ⟨middle, .idle opensNone closesNone before, behind⟩
      | busy opensNone closesNone noWait further =>
          obtain ⟨middle, before, behind⟩ := inductionHypothesis further
          exact ⟨middle, .busy opensNone closesNone noWait before, behind⟩

/-- What was open and what was opened was let go in this order, except for what is still open. -/
theorem opened_eq (orderly : Orderly first trace last) :
    first.toList ++ trace.opened = trace.closed ++ last.toList := by
  induction orderly with
  | nil held => simp [opened, closed]
  | opens opens closesNone _ inductionHypothesis =>
      simpa [opened_cons, closed_cons, opens, closesNone] using inductionHypothesis
  | closes opensNone closes _ inductionHypothesis =>
      simpa [opened_cons, closed_cons, opensNone, closes] using inductionHypothesis
  | idle opensNone closesNone _ inductionHypothesis =>
      simpa [opened_cons, closed_cons, opensNone, closesNone] using inductionHypothesis
  | busy opensNone closesNone _ _ inductionHypothesis =>
      simpa [opened_cons, closed_cons, opensNone, closesNone] using inductionHypothesis

/-- Nothing is open when a wait begins. -/
theorem eq_none_of_wait {exchange : Exchange} {ending : Except CancelCause Unit}
    (waits : exchange.waited? = some ending) (orderly : Orderly first (exchange :: trace) last) :
    first = none := by
  cases orderly with
  | opens => rfl
  | closes _ closes _ =>
      -- Nothing both waits and lets go of a response.
      obtain ⟨effect, answer⟩ := exchange
      cases effect <;> simp [Exchange.waited?, Exchange.closed?] at waits closes
  | idle => rfl
  | busy _ _ noWait _ =>
      rw [noWait] at waits
      cases waits

/-- What a sink is told opens nothing, lets nothing go and waits for nothing. -/
theorem told (sink : Sink) (held : Option ResponseId) {exchange : Exchange}
    (opensNone : exchange.opened? = none) (closesNone : exchange.closed? = none)
    (noWait : exchange.waited? = none) : Orderly held (sink.told exchange) held := by
  cases sink with
  | silent => exact .nil held
  | recorded =>
      cases held with
      | none => exact .idle opensNone closesNone (.nil none)
      | some response => exact .busy opensNone closesNone noWait (.nil (some response))

end Orderly

end Trace

/-! ## Repeated calls -/

namespace RetryPolicy

variable {policy : RetryPolicy} {request : Request} {endpoint : String}

open Trace (Orderly)

/-- An attempt at the base opens the response in its outcome. -/
theorem orderly_attempt (request : Request) (outcome : Outcome) :
    Orderly none [⟨.send request, outcome⟩] outcome.responseId? := by
  cases outcome with
  | ok response => exact .opens rfl rfl (.nil _)
  | error failure => exact .idle rfl rfl (.nil _)

/-- A pause lets go of the response of the attempt before it. -/
theorem orderly_pauseTrace (context : Context) (made : Nat) (outcome : Outcome)
    (ending : Except CancelCause Unit) :
    Orderly outcome.responseId? (policy.pauseTrace context endpoint made outcome ending) none := by
  have discards : Orderly outcome.responseId? (discardTrace outcome) none := by
    cases outcome with
    | ok response => exact .closes rfl rfl (.nil _)
    | error failure => exact .nil _
  have waits : Orderly none
      [⟨.wait policy.sleeper context (policy.waitAfter made outcome.toOption), ending⟩] none :=
    .idle rfl rfl (.nil _)
  exact (((Orderly.told _ _ rfl rfl rfl).append (.told _ _ rfl rfl rfl)).append discards).append
    waits

/-- A series of attempts at the base ends with the response in its outcome open, and no other. -/
theorem Attempts.orderly {made : Nat} {trace : Trace} {result : Outcome}
    (attempts : policy.Attempts .base request endpoint made trace result) :
    Orderly none trace result.responseId? := by
  induction attempts with
  | settled attempt _ _ =>
      obtain rfl := Call.yields_perform_iff.mp attempt
      exact orderly_attempt _ _
  | exhausted attempt _ _ =>
      rename_i outcome _ _
      obtain rfl := Call.yields_perform_iff.mp attempt
      have sameResponse : (policy.giveUp outcome).responseId? = outcome.responseId? := by
        cases outcome <;> rfl
      rw [sameResponse]
      exact (orderly_attempt _ _).append (.told _ _ rfl rfl rfl)
  | interrupted attempt _ _ cause =>
      obtain rfl := Call.yields_perform_iff.mp attempt
      exact (orderly_attempt _ _).append (orderly_pauseTrace _ _ _ _)
  | repeated attempt _ _ _ inductionHypothesis =>
      obtain rfl := Call.yields_perform_iff.mp attempt
      exact (orderly_attempt _ _).append ((orderly_pauseTrace _ _ _ _).append inductionHypothesis)

/-- A whole repeated call at the base is orderly. -/
theorem orderly_of_yields {trace : Trace} {result : Outcome}
    (yields : (policy.transport .base request).Yields trace result) :
    Orderly none trace result.responseId? := by
  cases read : buffered request.body with
  | error failure =>
      rw [transport, read] at yields
      obtain ⟨rfl, rfl⟩ := Call.yields_done_iff.mp yields
      exact .nil none
  | ok body =>
      obtain ⟨endpoint, series, rfl, attempts⟩ := attempts_of_yields_transport read yields
      exact .idle rfl rfl attempts.orderly

/-! ## Whole runs -/

/-- The law of responses. In a run of the repeating transport around any transport, in any
surroundings, the responses of the calls of the inner transport are let go in the order in which
they were opened, each of them once, except for the one that is returned. On the way at most one
response is open, and none when a wait begins; a run that fails leaves none open. -/
theorem opened_eq_of_run {σ : Type} (policy : RetryPolicy) (inner : Transport) (request : Request)
    (respond : (effect : Effect) → σ → effect.Answer × σ) (state : σ) :
    let calls := (policy.transport .base request).exchanges (Call.serving respond inner) state
    let result := ((policy.transport inner request).run respond state).1
    calls.opened = calls.closed ++ result.responseId?.toList ∧
      (∀ front back : Trace, calls = front ++ back →
        ∃ held : Option ResponseId, front.opened = front.closed ++ held.toList) ∧
      (∀ (front back : Trace) sleeper context delay ending,
        calls = front ++ ⟨.wait sleeper context delay, ending⟩ :: back →
          front.opened = front.closed) ∧
      (∀ failure, result = .error failure → calls.opened = calls.closed) ∧
      (calls.opened.Nodup → ∀ response ∈ calls.opened,
        (calls.closed.count response = 1 ∧ result.responseId? ≠ some response) ∨
          (response ∉ calls.closed ∧ result.responseId? = some response)) := by
  intro calls result
  have orderly : Orderly none calls result.responseId? :=
    orderly_of_yields (yields_served policy inner request respond state)
  have opened : calls.opened = calls.closed ++ result.responseId?.toList := orderly.opened_eq
  refine ⟨opened, ?_, ?_, ?_, ?_⟩
  · intro front back split
    obtain ⟨held, before, _⟩ := (split ▸ orderly).of_append
    exact ⟨held, before.opened_eq⟩
  · intro front back sleeper context delay ending split
    obtain ⟨held, before, behind⟩ := (split ▸ orderly).of_append
    obtain rfl := behind.eq_none_of_wait rfl
    simpa using before.opened_eq
  · intro failure failed
    simpa [failed, Outcome.responseId?] using opened
  · intro distinct response member
    rw [opened] at distinct member
    obtain ⟨closedOnce, _, apart⟩ := List.nodup_append.mp distinct
    rcases List.mem_append.mp member with isClosed | isReturned
    · left
      refine ⟨List.count_eq_one_of_mem closedOnce isClosed, fun returned => ?_⟩
      exact apart response isClosed response (by simp [returned]) rfl
    · right
      refine ⟨fun isClosed => apart response isClosed response isReturned rfl, ?_⟩
      simpa using isReturned

end RetryPolicy

end Outbound
