import Outbound.Proofs.Retry.Stopping

/-! # Waits of a repeated call

A repeated call makes its attempts and its waits in turn. How long it waits behind an attempt
depends on the number of this attempt and on its outcome alone, so that a wait that a server asks
for neither delays nor shortens any later one.

* `Trace.beats` are the attempts and the waits of a trace, `Trace.pauses` its waits;
  `RetryPolicy.Attempts.beats_eq` says that they take turns.
* `Outcome.Asks` is what a server asks for; `RetryPolicy.Attempts.exists_of_pauses` says which
  attempt a wait belongs to and how long it is.
* `RetryPolicy.Paced` is the schedule of a call, and `RetryPolicy.pauses_of_run` the law of a whole
  run. -/

namespace Outbound

/-! ## Waits in a trace -/

/-- A wait that was asked for, and how it ended. -/
structure Pause where
  /-- How the wait was to be carried out. -/
  sleeper : Sleeper
  /-- The context that could interrupt it. -/
  context : Context
  /-- How long it was to be. -/
  delay : Duration
  /-- How it ended. -/
  ending : Except CancelCause Unit

/-- What a repeated call does in turn. -/
inductive Beat where
  /-- It makes an attempt. -/
  | attempt (outcome : Outcome)
  /-- It waits. -/
  | pause (pause : Pause)

namespace Exchange

/-- The wait that was asked for, if one was. -/
def pause? : Exchange → Option Pause
  | ⟨.wait sleeper context delay, ending⟩ => some ⟨sleeper, context, delay, ending⟩
  | _ => none

/-- The attempt that was made or the wait that was asked for, if one was. -/
def beat? : Exchange → Option Beat
  | ⟨.send _, outcome⟩ => some (.attempt outcome)
  | ⟨.wait sleeper context delay, ending⟩ => some (.pause ⟨sleeper, context, delay, ending⟩)
  | _ => none

end Exchange

namespace Trace

/-- The waits that were asked for, in order. -/
def pauses (trace : Trace) : List Pause := trace.filterMap Exchange.pause?

/-- The attempts that were made and the waits that were asked for, in order. -/
def beats (trace : Trace) : List Beat := trace.filterMap Exchange.beat?

@[simp] theorem pauses_append (front back : Trace) :
    pauses (front ++ back) = pauses front ++ pauses back := List.filterMap_append

@[simp] theorem beats_append (front back : Trace) :
    beats (front ++ back) = beats front ++ beats back := List.filterMap_append

/-- A wait of a trace stands somewhere in it. -/
theorem exists_of_mem_pauses {trace : Trace} {pause : Pause} (member : pause ∈ trace.pauses) :
    ∃ front back, trace = front
      ++ ⟨.wait pause.sleeper pause.context pause.delay, pause.ending⟩ :: back := by
  obtain ⟨⟨effect, answer⟩, inside, waits⟩ := List.mem_filterMap.mp member
  obtain ⟨front, back, rfl⟩ := List.append_of_mem inside
  cases effect with
  | wait sleeper context delay =>
      obtain rfl := Option.some.inj waits
      exact ⟨front, back, rfl⟩
  | _ => cases waits

/-- Each wait ended in some way. -/
theorem waits_eq (trace : Trace) : trace.waits = trace.pauses.map Pause.ending := by
  have same : Exchange.waited? = fun exchange => exchange.pause?.map Pause.ending := by
    funext ⟨effect, answer⟩
    cases effect <;> rfl
  rw [pauses, List.map_filterMap, waits, same]

end Trace

/-- What a sink is told is neither an attempt nor a wait. -/
@[simp] theorem Sink.beats_told_log (sink : Sink) (record : LogRecord) :
    (sink.told ⟨.log record, ()⟩).beats = [] := by cases sink <;> rfl

@[simp] theorem Sink.beats_told_measure (sink : Sink) (event : MetricEvent) :
    (sink.told ⟨.measure event, ()⟩).beats = [] := by cases sink <;> rfl

@[simp] theorem Sink.pauses_told_log (sink : Sink) (record : LogRecord) :
    (sink.told ⟨.log record, ()⟩).pauses = [] := by cases sink <;> rfl

@[simp] theorem Sink.pauses_told_measure (sink : Sink) (event : MetricEvent) :
    (sink.told ⟨.measure event, ()⟩).pauses = [] := by cases sink <;> rfl

/-- The items of two lists in turn, beginning with the first list; what is left of one of them when
the other one has run out comes last. -/
def inTurn {α : Type} : List α → List α → List α
  | [], others => others
  | item :: items, [] => item :: items
  | item :: items, other :: others => item :: other :: inTurn items others

/-! ## What a server asks for -/

/-- The outcome asks for a wait of some seconds: there were too many requests, and the first field
that asks for a wait holds text and reads as that number between its blanks. -/
def Outcome.Asks (outcome : Outcome) (seconds : Nat) : Prop :=
  ∃ response value text, outcome = .ok response ∧ response.status.code = 429 ∧
    (response.headers.values .retryAfter).head? = some value ∧ value.text? = some text ∧
    RetryAfter.seconds? (RetryAfter.trim text) = some seconds

/-- A header asks for a wait by its first field of that name. -/
theorem RetryAfter.ofHeaders?_eq_some_iff {headers : Headers} {delay : Duration} :
    ofHeaders? headers = some delay ↔
      ∃ value text seconds, (headers.values .retryAfter).head? = some value ∧
        value.text? = some text ∧ seconds? (trim text) = some seconds ∧
        delay = .ofSeconds seconds := by
  simp only [ofHeaders?, Headers.first?, Option.bind_eq_bind, Option.bind_eq_some_iff,
    Option.pure_def, Option.some.injEq]
  constructor
  · rintro ⟨value, first, text, isText, seconds, reads, rfl⟩
    exact ⟨value, text, seconds, first, isText, reads, rfl⟩
  · rintro ⟨value, text, seconds, first, isText, reads, rfl⟩
    exact ⟨value, first, text, isText, seconds, reads, rfl⟩

namespace RetryPolicy

variable {policy : RetryPolicy} {request : Request} {endpoint : String}

/-- The wait that an outcome asks for. -/
theorem requestedWait?_eq_some_iff {outcome : Outcome} {delay : Duration} :
    outcome.toOption.bind requestedWait? = some delay ↔
      ∃ seconds, outcome.Asks seconds ∧ delay = .ofSeconds seconds := by
  cases outcome with
  | error failure =>
      constructor
      · nofun
      · rintro ⟨_, ⟨_, _, _, isResponse, _⟩, _⟩
        cases isResponse
  | ok response =>
      have tooMany : response.status = .tooManyRequests ↔ response.status.code = 429 :=
        ⟨fun same => by rw [same]; rfl, fun same => Status.code_injective same⟩
      show requestedWait? response = some delay ↔ _
      rw [requestedWait?]
      split
      next same =>
        rw [RetryAfter.ofHeaders?_eq_some_iff]
        constructor
        · rintro ⟨value, text, seconds, first, isText, reads, rfl⟩
          exact ⟨seconds, ⟨response, value, text, rfl, tooMany.mp same, first, isText, reads⟩, rfl⟩
        · rintro ⟨seconds, ⟨_, value, text, isResponse, _, first, isText, reads⟩, rfl⟩
          obtain rfl := Except.ok.inj isResponse
          exact ⟨value, text, seconds, first, isText, reads, rfl⟩
      next different =>
        constructor
        · nofun
        · rintro ⟨_, ⟨_, _, _, isResponse, same, _⟩, _⟩
          obtain rfl := Except.ok.inj isResponse
          exact absurd (tooMany.mpr same) different

/-- The wait after an outcome that asks for one is the one it asks for. -/
theorem waitAfter_of_asks {outcome : Outcome} {seconds : Nat} (asks : outcome.Asks seconds)
    (attempt : Nat) : policy.waitAfter attempt outcome.toOption = .ofSeconds seconds := by
  rw [waitAfter, requestedWait?_eq_some_iff.mpr ⟨seconds, asks, rfl⟩, Option.getD_some]

/-- The wait after any other outcome is that of the schedule. -/
theorem waitAfter_of_not_asks {outcome : Outcome} (asks : ∀ seconds, ¬ outcome.Asks seconds)
    (attempt : Nat) :
    policy.waitAfter attempt outcome.toOption = policy.backoff.delay attempt := by
  have nothing : outcome.toOption.bind requestedWait? = none := by
    rw [Option.eq_none_iff_forall_ne_some]
    intro delay known
    obtain ⟨seconds, asked, _⟩ := requestedWait?_eq_some_iff.mp known
    exact asks seconds asked
  rw [waitAfter, nothing, Option.getD_none]

/-! ## Series of attempts -/

/-- Nothing happens but telling when the attempts ran out. -/
@[simp] theorem beats_exhaustedTrace : (policy.exhaustedTrace endpoint).beats = [] :=
  Sink.beats_told_log ..

@[simp] theorem pauses_exhaustedTrace : (policy.exhaustedTrace endpoint).pauses = [] :=
  Sink.pauses_told_log ..

/-- The wait behind an attempt. -/
def pauseAfter (policy : RetryPolicy) (context : Context) (made : Nat) (outcome : Outcome)
    (ending : Except CancelCause Unit) : Pause :=
  ⟨policy.sleeper, context, policy.waitAfter made outcome.toOption, ending⟩

/-- Behind an attempt there is this wait and no other. -/
@[simp] theorem pauses_pauseTrace {context : Context} {made : Nat} {outcome : Outcome}
    {ending : Except CancelCause Unit} :
    (policy.pauseTrace context endpoint made outcome ending).pauses
      = [policy.pauseAfter context made outcome ending] := by
  cases outcome <;> simp [pauseTrace, discardTrace] <;> rfl

@[simp] theorem beats_pauseTrace {context : Context} {made : Nat} {outcome : Outcome}
    {ending : Except CancelCause Unit} :
    (policy.pauseTrace context endpoint made outcome ending).beats
      = [.pause (policy.pauseAfter context made outcome ending)] := by
  cases outcome <;> simp [pauseTrace, discardTrace] <;> rfl

/-- Attempts and waits take turns. -/
theorem Attempts.beats_eq {made : Nat} {trace : Trace} {result : Outcome}
    (attempts : policy.Attempts .base request endpoint made trace result) :
    trace.beats = inTurn (trace.outcomes.map .attempt) (trace.pauses.map .pause) := by
  induction attempts with
  | settled attempt _ _ =>
      obtain rfl := Call.yields_perform_iff.mp attempt
      rfl
  | exhausted attempt _ _ =>
      obtain rfl := Call.yields_perform_iff.mp attempt
      rw [Trace.beats_append, Trace.outcomes_append, Trace.pauses_append, beats_exhaustedTrace,
        outcomes_exhaustedTrace, pauses_exhaustedTrace]
      rfl
  | interrupted attempt _ _ _ =>
      obtain rfl := Call.yields_perform_iff.mp attempt
      rw [Trace.beats_append, Trace.outcomes_append, Trace.pauses_append, beats_pauseTrace,
        outcomes_pauseTrace, pauses_pauseTrace]
      rfl
  | repeated attempt _ _ _ inductionHypothesis =>
      obtain rfl := Call.yields_perform_iff.mp attempt
      rw [Trace.beats_append, Trace.beats_append, Trace.outcomes_append, Trace.outcomes_append,
        Trace.pauses_append, Trace.pauses_append, beats_pauseTrace, outcomes_pauseTrace,
        pauses_pauseTrace, inductionHypothesis]
      rfl

/-- The waits of a series are those behind its attempts, each by the number of its own attempt. -/
theorem Attempts.exists_of_pauses {made number : Nat} {trace : Trace} {result : Outcome}
    {pause : Pause} (attempts : policy.Attempts .base request endpoint made trace result)
    (found : trace.pauses[number]? = some pause) :
    ∃ outcome, trace.outcomes[number]? = some outcome ∧ outcome.Retryable ∧
      pause = policy.pauseAfter request.callContext (made + number) outcome pause.ending := by
  -- The attempts made before count up along the series while the number of the wait counts down.
  induction attempts generalizing number with
  | settled attempt _ _ =>
      obtain rfl := Call.yields_perform_iff.mp attempt
      cases found
  | exhausted attempt _ _ =>
      obtain rfl := Call.yields_perform_iff.mp attempt
      rw [Trace.pauses_append, pauses_exhaustedTrace, List.append_nil] at found
      cases found
  | @interrupted made sent outcome attempt _ retryable cause =>
      obtain rfl := Call.yields_perform_iff.mp attempt
      rw [Trace.pauses_append, pauses_pauseTrace] at found
      cases number with
      | zero =>
          obtain rfl := Option.some.inj found
          exact ⟨outcome, rfl, Outcome.isRetryable_eq_true_iff.mp retryable, rfl⟩
      | succ number => cases found
  | @repeated made sent rest outcome result attempt _ retryable _ inductionHypothesis =>
      obtain rfl := Call.yields_perform_iff.mp attempt
      rw [Trace.pauses_append, Trace.pauses_append, pauses_pauseTrace] at found
      rw [Trace.outcomes_append, Trace.outcomes_append, outcomes_pauseTrace]
      cases number with
      | zero =>
          obtain rfl := Option.some.inj found
          exact ⟨outcome, rfl, Outcome.isRetryable_eq_true_iff.mp retryable, rfl⟩
      | succ number =>
          obtain ⟨later, given, again, same⟩ := inductionHypothesis found
          rw [Nat.add_right_comm, Nat.add_assoc] at same
          exact ⟨later, given, again, same⟩

/-! ## Whole runs -/

/-- The waits of a call follow the schedule: how attempts and waits lie, how long each wait is, and
what may come behind the last attempt. -/
structure Paced (policy : RetryPolicy) (context : Context) (calls : Trace) : Prop where
  /-- Attempts and waits take turns. -/
  takeTurns : calls.beats = inTurn (calls.outcomes.map .attempt) (calls.pauses.map .pause)
  /-- There is a wait between two attempts. -/
  between {number : Nat} (another : number + 1 < calls.outcomes.length) :
    ∃ pause, calls.pauses[number]? = some pause
  /-- A wait is asked of the sleeper of the policy, behind an attempt that is worth repeating. It is
  as long as the outcome of that attempt asks for; if it asks for nothing, it is the one that the
  schedule has for the number of that attempt. -/
  asked {number : Nat} {pause : Pause} (found : calls.pauses[number]? = some pause) :
    pause.sleeper = policy.sleeper ∧ pause.context = context ∧
      ∃ outcome, calls.outcomes[number]? = some outcome ∧ outcome.Retryable ∧
        (∀ seconds, outcome.Asks seconds → pause.delay = .ofSeconds seconds) ∧
        ((∀ seconds, ¬ outcome.Asks seconds) → pause.delay = policy.backoff.delay number)
  /-- There is a further attempt behind a wait just if the wait was not interrupted. -/
  repeated {number : Nat} {pause : Pause} (found : calls.pauses[number]? = some pause) :
    pause.ending = .ok () ↔ number + 1 < calls.outcomes.length
  /-- An interrupted wait is the last one. -/
  interrupted {number : Nat} {pause : Pause} {cause : CancelCause}
    (found : calls.pauses[number]? = some pause) (broken : pause.ending = .error cause) :
    number + 1 = calls.pauses.length
  /-- Behind an attempt that settles the call, or uses up the attempts, there is no wait. -/
  final {last : Outcome} (found : calls.outcomes.getLast? = some last)
    (settled : ¬ last.Retryable ∨
      calls.outcomes.length = min (policy.maxRetries + 1) (UInt64.size - 1)) :
    calls.pauses.length + 1 = calls.outcomes.length

/-- Without attempts there are no waits. -/
theorem paced_nil (context : Context) : policy.Paced context [] where
  takeTurns := rfl
  between another := absurd another (Nat.not_lt_zero _)
  asked found := by cases found
  repeated found := by cases found
  interrupted found := by cases found
  final found := by cases found

/-- Behind the last attempt there is at most one wait, and this one was interrupted; there is none
if the attempt settles the call or uses up the attempts. -/
theorem Ending.waits_eq {count : Nat} {last result : Outcome}
    {waits : List (Except CancelCause Unit)} (ending : policy.Ending count last waits result) :
    waits = [] ∨ (last.Retryable ∧ count < policy.maxAttempts ∧
      ∃ cause, waits = [.error cause]) := by
  cases ending with
  | settled _ _ => exact .inl rfl
  | exhausted _ _ => exact .inl rfl
  | interrupted spare retryable cause =>
      exact .inr ⟨Outcome.isRetryable_eq_true_iff.mp retryable, spare, cause, rfl⟩

/-- Only a wait behind the last attempt can be interrupted, and it always is. -/
theorem Ending.eq_ok_iff {count earlier number : Nat} {last result : Outcome}
    {waits : List (Except CancelCause Unit)} {how : Except CancelCause Unit}
    (ending : policy.Ending count last waits result)
    (found : (List.replicate earlier (.ok ()) ++ waits)[number]? = some how) :
    how = .ok () ↔ number < earlier := by
  by_cases early : number < earlier
  · rw [List.getElem?_append_left (by simpa using early),
      List.getElem?_replicate_of_lt early] at found
    exact iff_of_true (Option.some.inj found).symm early
  · rw [List.getElem?_append_right (by simpa using early)] at found
    refine iff_of_false ?_ early
    rcases ending.waits_eq with rfl | ⟨_, _, cause, rfl⟩
    · cases found
    · obtain rfl := List.mem_singleton.mp (List.mem_of_getElem? found)
      nofun

/-- A series of attempts from the first one on is paced. -/
theorem Attempts.paced {trace : Trace} {result : Outcome}
    (attempts : policy.Attempts .base request endpoint 0 trace result) :
    policy.Paced request.callContext trace := by
  obtain ⟨earlier, last, waits, outcomes, _, waited, ending⟩ := attempts.split
  rw [Nat.zero_add] at ending
  have countOutcomes : trace.outcomes.length = earlier.length + 1 := by simp [outcomes]
  have countPauses : trace.pauses.length = earlier.length + waits.length := by
    have lengths := congrArg List.length waited
    rwa [Trace.waits_eq, List.length_map, List.length_append, List.length_replicate] at lengths
  have endingAt : ∀ {number : Nat} {pause : Pause}, trace.pauses[number]? = some pause →
      (List.replicate earlier.length (.ok ()) ++ waits)[number]? = some pause.ending := by
    intro number pause found
    rw [← waited, Trace.waits_eq, List.getElem?_map, found, Option.map_some]
  refine
    { takeTurns := attempts.beats_eq
      between := ?between
      asked := ?asked
      repeated := ?repeated
      interrupted := ?interrupted
      final := ?final }
  case between =>
    intro number another
    have inside : number < trace.pauses.length := by omega
    exact ⟨_, List.getElem?_eq_getElem inside⟩
  case asked =>
    intro number pause found
    obtain ⟨outcome, given, retryable, same⟩ := attempts.exists_of_pauses found
    rw [Nat.zero_add] at same
    rw [same]
    exact ⟨rfl, rfl, outcome, given, retryable, fun _ asks => waitAfter_of_asks asks number,
      fun asks => waitAfter_of_not_asks asks number⟩
  case repeated =>
    intro number pause found
    rw [countOutcomes, Nat.add_lt_add_iff_right]
    exact ending.eq_ok_iff (endingAt found)
  case interrupted =>
    intro number pause cause found broken
    have inside : number < trace.pauses.length := (List.getElem?_eq_some_iff.mp found).1
    have late : ¬ number < earlier.length := by
      rw [← ending.eq_ok_iff (endingAt found), broken]
      nofun
    have single : waits.length ≤ 1 := by
      rcases ending.waits_eq with rfl | ⟨_, _, _, rfl⟩
      · exact Nat.zero_le 1
      · exact Nat.le_refl 1
    omega
  case final =>
    intro final found settled
    obtain rfl : last = final := by simpa [outcomes] using found
    rcases ending.waits_eq with rfl | ⟨retryable, spare, _⟩
    · rw [countPauses, countOutcomes, List.length_nil, Nat.add_zero]
    · rw [← maxAttempts_eq, countOutcomes] at settled
      rcases settled with unworthy | spent
      · exact absurd retryable unworthy
      · omega

/-- A whole repeated call at the base is paced. If its body cannot be read, there are neither
attempts nor waits. -/
theorem paced_of_yields {trace : Trace} {result : Outcome}
    (yields : (policy.transport .base request).Yields trace result) :
    policy.Paced request.callContext trace := by
  cases read : buffered request.body with
  | error failure =>
      rw [transport, read] at yields
      obtain ⟨rfl, rfl⟩ := Call.yields_done_iff.mp yields
      exact paced_nil _
  | ok body =>
      obtain ⟨endpoint, series, rfl, attempts⟩ := attempts_of_yields_transport read yields
      -- Telling the template of the path is neither an attempt nor a wait.
      have paced := attempts.paced
      exact ⟨paced.takeTurns, paced.between, paced.asked, paced.repeated, paced.interrupted,
        paced.final⟩

/-- The law of waits. A run of the repeating transport around any transport, in any surroundings, is
a run where the inner transport serves the requests; its attempts and waits follow the schedule. -/
theorem pauses_of_run {σ : Type} (policy : RetryPolicy) (inner : Transport) (request : Request)
    (respond : (effect : Effect) → σ → effect.Answer × σ) (state : σ) :
    let served := Call.serving respond inner
    (policy.transport inner request).run respond state
        = (policy.transport .base request).run served state ∧
      policy.Paced request.callContext
        ((policy.transport .base request).exchanges served state) := by
  intro served
  refine ⟨?_, paced_of_yields (yields_served policy inner request respond state)⟩
  rw [← through_transport, Call.run_through]

end RetryPolicy

end Outbound
