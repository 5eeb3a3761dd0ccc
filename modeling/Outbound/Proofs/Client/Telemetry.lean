import Outbound.Proofs.Client.Places
import Outbound.Proofs.Client.Silence
import Outbound.Proofs.Retry.Stopping

/-! # What a call tells

A recorded client tells each call in a fixed order: that it started, that it waits for its token,
each further attempt before the wait for it, that the attempts ran out, and how the call ended.

* `Trace.headlines` are the levels and messages of what was logged in a trace and `Trace.measures`
  what was measured, in order; `Trace.delays` are the times for which its tokens are not there yet.
* `Admission.Grants.tells`, `RetryPolicy.Attempts.tells` and `ClientConfig.Course.tells` say what
  the layers tell.
* `ClientConfig.telemetry_of_perform` is the law of a whole call in a scripted world. -/

namespace Outbound

/-! ## What a trace tells -/

namespace Exchange

/-- The level and the message of the record that was written, if one was. -/
def headline? : Exchange → Option (Level × String)
  | ⟨.log record, _⟩ => some (record.level, record.message)
  | _ => none

/-- The event that was counted, if one was. -/
def measured? : Exchange → Option MetricEvent
  | ⟨.measure event, _⟩ => some event
  | _ => none

/-- The time after which a reserved token is there, if it is not there at once. -/
def delay? : Exchange → Option Duration
  | ⟨.reserve _, delay⟩ => if delay = 0 then none else some delay
  | _ => none

/-- A token that is not there at once is there after its delay. -/
theorem delay?_reserve {bucket : BucketId} {delay : Duration} (later : delay ≠ 0) :
    delay? ⟨.reserve bucket, delay⟩ = some delay := if_neg later

end Exchange

namespace Trace

/-- The levels and messages of the records that were written, in order. -/
def headlines (trace : Trace) : List (Level × String) := trace.filterMap Exchange.headline?

/-- The events that were counted, in order. -/
def measures (trace : Trace) : List MetricEvent := trace.filterMap Exchange.measured?

/-- The times after which reserved tokens are there, where they are not there at once. -/
def delays (trace : Trace) : List Duration := trace.filterMap Exchange.delay?

/-- What a trace tells: the levels and messages of its records, and its events. -/
structure Tells (trace : Trace) (headlines : List (Level × String))
    (measures : List MetricEvent) : Prop where
  /-- The levels and messages of the records. -/
  headlines : trace.headlines = headlines
  /-- The events. -/
  measures : trace.measures = measures

/-- A trace tells what its parts tell. -/
theorem Tells.append {front back : Trace} {headlines further : List (Level × String)}
    {measures more : List MetricEvent} (first : front.Tells headlines measures)
    (second : back.Tells further more) :
    Tells (front ++ back) (headlines ++ further) (measures ++ more) := by
  constructor
  · rw [← first.headlines, ← second.headlines]
    exact List.filterMap_append
  · rw [← first.measures, ← second.measures]
    exact List.filterMap_append

@[simp] theorem delays_append (front back : Trace) :
    delays (front ++ back) = delays front ++ delays back := List.filterMap_append

/-- No token is late in a trace in which none is reserved. -/
theorem delays_eq_nil {trace : Trace} (noToken : ∀ bucket, .reserve bucket ∉ trace.dealings) :
    trace.delays = [] := by
  refine List.filterMap_eq_nil_iff.mpr ?_
  rintro ⟨effect, answer⟩ member
  cases effect with
  | reserve bucket =>
      exact absurd (List.mem_filter.mpr ⟨List.mem_map_of_mem member, rfl⟩) (noToken bucket)
  | _ => rfl

/-- No token is reserved in a quiet trace. -/
theorem Quiet.delays_eq_nil {trace : Trace} (quiet : trace.Quiet) : trace.delays = [] :=
  Trace.delays_eq_nil (by simp [quiet.dealings_eq_nil])

end Trace

/-! ## What the layers tell -/

namespace Observe

variable {observe : Observe} {request : Request}

/-- The level and the message of the record of how a call ended. -/
def endHeadline : Outcome → Level × String
  | .ok response => (if 400 ≤ response.status.code then .warn else .debug, "http request completed")
  | .error _ => (.error, "http request failed")

/-- The event of how a call ended. -/
def endMeasure (request : Request) (endpoint : String) (duration : Duration) :
    Outcome → MetricEvent
  | .ok response =>
      .httpRequest request.method.text endpoint response.status.code duration
  | .error failure => .error "http_request" failure.kind

/-- The start of a call is recorded. -/
theorem tells_opening (recorded : observe.sink = .recorded) (start : Instant) :
    (observe.opening request start).Tells [(.debug, "http request started")] [] := by
  rw [opening, recorded]
  exact ⟨rfl, rfl⟩

/-- The end of a call is recorded and counted. -/
theorem tells_closing (recorded : observe.sink = .recorded) (outcome : Outcome)
    (start finish : Instant) (template : String) :
    (observe.closing request outcome start finish template).Tells [endHeadline outcome]
      [endMeasure request template (finish.since start) outcome] := by
  cases outcome <;>
    · rw [closing, reportTrace, recorded]
      exact ⟨rfl, rfl⟩

end Observe

/-- A wait for a token is recorded and counted, and there is one if and only if the token is not
there at once. -/
theorem Admission.Grants.tells {admission : Admission} {request : Request} {trace : Trace}
    {answer : Except Failure Unit} (recorded : admission.sink = .recorded)
    (grants : admission.Grants request trace answer) :
    trace.Tells (trace.delays.map fun _ => (.info, "rate limit wait"))
        (trace.delays.map (.rateLimit (admission.selector request).label)) ∧
      trace.delays.length ≤ 1 ∧ trace.waits.length = trace.delays.length := by
  cases grants with
  | bypassed _ => exact ⟨⟨rfl, rfl⟩, Nat.zero_le _, rfl⟩
  | atOnce _ => exact ⟨⟨rfl, rfl⟩, Nat.zero_le _, rfl⟩
  | waited _ later | refused _ later _ =>
      rw [tellsWait, recorded, Trace.delays,
        List.filterMap_cons_some (Exchange.delay?_reserve later)]
      exact ⟨⟨rfl, rfl⟩, Nat.le_refl 1, rfl⟩

namespace RetryPolicy

variable {policy : RetryPolicy} {request : Request} {endpoint : String}

/-- A pause is recorded and counted. -/
theorem tells_pauseTrace (recorded : policy.sink = .recorded) (context : Context)
    (endpoint : String) (made : Nat) (outcome : Outcome) (ending : Except CancelCause Unit) :
    (policy.pauseTrace context endpoint made outcome ending).Tells [(.warn, "retrying request")]
      [.retry (made + 1) endpoint] := by
  cases outcome <;>
    · rw [pauseTrace, recorded]
      exact ⟨rfl, rfl⟩

/-- That the attempts ran out is recorded. -/
theorem tells_exhaustedTrace (recorded : policy.sink = .recorded) :
    (policy.exhaustedTrace endpoint).Tells [(.warn, "retries exhausted")] [] := by
  rw [exhaustedTrace, recorded]
  exact ⟨rfl, rfl⟩

/-- The level and the message of the record that the attempts ran out, if a number of them did on
the last of some outcomes. -/
def exhaustedHeadline (policy : RetryPolicy) (count : Nat) (outcomes : List Outcome) :
    List (Level × String) :=
  if count = policy.maxAttempts ∧ outcomes.getLast?.any Outcome.isRetryable then
    [(.warn, "retries exhausted")]
  else []

/-- An outcome in front of others does not change which one is the last. -/
theorem exhaustedHeadline_cons (policy : RetryPolicy) (count : Nat) (outcome : Outcome)
    {outcomes : List Outcome} (others : outcomes ≠ []) :
    policy.exhaustedHeadline count (outcome :: outcomes)
      = policy.exhaustedHeadline count outcomes := by
  obtain ⟨earlier, last, rfl⟩ := (List.eq_nil_or_concat outcomes).resolve_left others
  simp [exhaustedHeadline, List.getLast?_cons]

/-- No tokens are reserved for attempts. -/
theorem Attempts.delays_eq_nil {made : Nat} {trace : Trace} {result : Outcome}
    (attempts : policy.Attempts .base request endpoint made trace result) : trace.delays = [] :=
  Trace.delays_eq_nil (by simp [attempts.dealings_eq])

/-- A series of attempts tells of each pause, with the number of attempts made by then, and of its
end if the attempts ran out. -/
theorem Attempts.tells (recorded : policy.sink = .recorded) {made : Nat} {trace : Trace}
    {result : Outcome} (attempts : policy.Attempts .base request endpoint made trace result) :
    trace.Tells
      (List.replicate trace.waits.length (.warn, "retrying request")
        ++ policy.exhaustedHeadline (made + trace.outcomes.length) trace.outcomes)
      ((List.range trace.waits.length).map fun number => .retry (made + number + 1) endpoint) := by
  have sentTells (outcome : Outcome) : Trace.Tells [⟨.send request, outcome⟩] [] [] := ⟨rfl, rfl⟩
  have sentOutcomes (outcome : Outcome) : Trace.outcomes [⟨.send request, outcome⟩] = [outcome] :=
    rfl
  have sentWaits (outcome : Outcome) : Trace.waits [⟨.send request, outcome⟩] = [] := rfl
  -- By induction on the attempts; those made before say which number comes next.
  induction attempts with
  | @settled made _ outcome attempt _ final =>
      obtain rfl := Call.yields_perform_iff.mp attempt
      have noneLeft : policy.exhaustedHeadline (made + 1) [outcome] = [] :=
        if_neg fun both => by simp [final] at both
      rw [sentOutcomes, sentWaits, List.length_singleton, noneLeft]
      exact sentTells outcome
  | @exhausted made _ outcome attempt spent retryable =>
      obtain rfl := Call.yields_perform_iff.mp attempt
      have ranOut : policy.exhaustedHeadline (made + 1) [outcome]
          = [(.warn, "retries exhausted")] := if_pos ⟨spent, retryable⟩
      simp only [Trace.outcomes_append, Trace.waits_append, sentOutcomes, sentWaits,
        outcomes_exhaustedTrace, waits_exhaustedTrace, List.append_nil, List.length_singleton,
        ranOut]
      exact (sentTells outcome).append (tells_exhaustedTrace recorded)
  | @interrupted made _ outcome attempt spare _ cause =>
      obtain rfl := Call.yields_perform_iff.mp attempt
      -- The pause is told of before its wait, so an interruption takes nothing back.
      have noneLeft : policy.exhaustedHeadline (made + 1) [outcome] = [] :=
        if_neg fun both => spare.ne both.1
      simp only [Trace.outcomes_append, Trace.waits_append, sentOutcomes, sentWaits,
        outcomes_pauseTrace, waits_pauseTrace, List.append_nil, List.nil_append,
        List.length_singleton, noneLeft]
      exact (sentTells outcome).append (tells_pauseTrace recorded ..)
  | @repeated made _ rest outcome _ attempt _ _ others inductionHypothesis =>
      obtain rfl := Call.yields_perform_iff.mp attempt
      have told := (sentTells outcome).append
        ((tells_pauseTrace recorded request.callContext endpoint made outcome (.ok ())).append
          inductionHypothesis)
      have someOutcome : rest.outcomes ≠ [] :=
        Trace.requests_eq_nil_iff.not.mp others.requests_ne_nil
      have outcomes : Trace.outcomes ([⟨.send request, outcome⟩]
          ++ (policy.pauseTrace request.callContext endpoint made outcome (.ok ()) ++ rest))
          = outcome :: rest.outcomes := by simp [Trace.outcomes_cons, Exchange.outcome?]
      have waits : Trace.waits ([⟨.send request, outcome⟩]
          ++ (policy.pauseTrace request.callContext endpoint made outcome (.ok ()) ++ rest))
          = .ok () :: rest.waits := by simp [Trace.waits_cons, Exchange.waited?]
      -- The pause is the first one told of, and those behind it are counted from there on.
      have counted : made + (rest.outcomes.length + 1) = made + 1 + rest.outcomes.length := by omega
      have numbered : (List.range (rest.waits.length + 1)).map
            (fun number => MetricEvent.retry (made + number + 1) endpoint)
          = .retry (made + 1) endpoint :: (List.range rest.waits.length).map
            (fun number => .retry (made + 1 + number + 1) endpoint) := by
        rw [List.range_succ_eq_map, List.map_cons, List.map_map]
        refine congrArg _ (List.map_congr_left fun number _ => ?_)
        show MetricEvent.retry (made + (number + 1) + 1) endpoint = _
        congr 1
        omega
      rw [outcomes, waits, List.length_cons, List.length_cons, counted, numbered,
        List.replicate_succ, exhaustedHeadline_cons policy _ outcome someOutcome]
      exact told

/-- The waits of a series are counted by its attempts: there is one behind each attempt but the
last, and one behind the last if that was interrupted. -/
theorem Attempts.length_waits {trace : Trace} {result : Outcome}
    (attempts : policy.Attempts .base request endpoint 0 trace result) :
    ((∃ cause, trace.waits.getLast? = some (.error cause)) ∧
        trace.waits.length = trace.requests.length) ∨
      ((∀ cause, trace.waits.getLast? ≠ some (.error cause)) ∧
        trace.waits.length + 1 = trace.requests.length) := by
  obtain ⟨earlier, last, waits, outcomes, _, waited, ending⟩ := attempts.split
  rw [Trace.length_requests, outcomes, waited]
  have wentWell (cause : CancelCause) :
      (List.replicate earlier.length (Except.ok ())).getLast? ≠ some (Except.error cause) := by
    rw [List.getLast?_replicate]
    split <;> simp
  cases ending with
  | settled _ _ | exhausted _ _ => exact .inr ⟨by simpa using wentWell, by simp⟩
  | interrupted _ _ cause => exact .inl ⟨⟨cause, by simp⟩, by simp⟩

end RetryPolicy

namespace ClientConfig

variable {config : ClientConfig} {request : Request} {trace : Trace} {outcome : Outcome}

/-- A layer of admission tells what the client does. -/
theorem sink_of_admission {admission : Admission} (limit : config.admission = some admission) :
    admission.sink = config.sink := by
  obtain ⟨_, rfl, _⟩ := exists_of_admission limit
  rfl

/-- A wait for a token is recorded and counted, and there is one if and only if the token is not
there at once. -/
theorem Admits.tells {answer : Except Failure Unit} (recorded : config.sink = .recorded)
    (admits : config.Admits request trace answer) :
    trace.Tells (trace.delays.map fun _ => (.info, "rate limit wait"))
        (trace.delays.map (.rateLimit (config.selection request).label)) ∧
      trace.delays.length ≤ 1 ∧ trace.waits.length = trace.delays.length := by
  cases admits with
  | unlimited _ => exact ⟨⟨rfl, rfl⟩, Nat.zero_le _, rfl⟩
  | limited limit grants =>
      rw [selection, limit]
      exact grants.tells ((sink_of_admission limit).trans recorded)

/-- How the backoff waits that were begun go with the requests that were sent: none without a
request, else one behind each request but the last, and one behind the last if that was
interrupted. -/
def Paced (requests : List Request) (backoffs : List (Except CancelCause Unit)) : Prop :=
  (requests = [] ∧ backoffs.length = 0) ∨
    (requests ≠ [] ∧
      (((∃ cause, backoffs.getLast? = some (.error cause)) ∧ backoffs.length = requests.length) ∨
        ((∀ cause, backoffs.getLast? ≠ some (.error cause)) ∧
          backoffs.length + 1 = requests.length)))

/-- Every template that a trace was told is that of its path. -/
def Templated (trace : Trace) : Prop :=
  ∀ memo path (template : String), ⟨.template memo path, template⟩ ∈ trace →
    template = Path.template path

/-- A call tells of its wait for a token, of each pause, and of its end if the attempts ran out. -/
theorem Course.tells (recorded : config.sink = .recorded)
    (course : config.Course .base request trace outcome) (templated : Templated trace) :
    let backoffs := trace.waits.drop trace.delays.length
    trace.Tells
        (trace.delays.map (fun _ => (.info, "rate limit wait"))
          ++ (List.replicate backoffs.length (.warn, "retrying request")
            ++ config.retryPolicy.exhaustedHeadline trace.outcomes.length trace.outcomes))
        (trace.delays.map (.rateLimit (config.selection request).label)
          ++ (List.range backoffs.length).map fun number =>
            .retry (number + 1) (Path.template request.uri.path)) ∧
      trace.delays.length ≤ 1 ∧
      trace.waits.length = trace.delays.length + backoffs.length ∧
      Paced trace.requests backoffs := by
  intro backoffs
  -- Without any attempt the only wait is the one for the token.
  have unsent {answer : Except Failure Unit} (admits : config.Admits request trace answer) :
      trace.requests = [] ∧ backoffs = [] ∧
        config.retryPolicy.exhaustedHeadline trace.outcomes.length trace.outcomes = [] := by
    obtain ⟨_, _, waits⟩ := admits.tells recorded
    have noOutcome := Trace.requests_eq_nil_iff.mp admits.requests_eq_nil
    refine ⟨admits.requests_eq_nil, List.drop_eq_nil_iff.mpr waits.le, ?_⟩
    rw [noOutcome]
    exact if_neg fun both => Bool.false_ne_true both.2
  cases course with
  | refused admits | unread admits _ =>
      obtain ⟨tells, atMostOne, waits⟩ := admits.tells recorded
      obtain ⟨requests, noBackoff, noneLeft⟩ := unsent admits
      rw [noBackoff, noneLeft, requests]
      simp only [List.length_nil, List.replicate_zero, List.range_zero, List.map_nil,
        List.append_nil]
      exact ⟨tells, atMostOne, waits, .inl ⟨rfl, rfl⟩⟩
  | @attempted admission series endpoint body result admits whole attempts =>
      obtain ⟨tells, atMostOne, waits⟩ := admits.tells recorded
      have told := attempts.tells recorded
      simp only [Nat.zero_add] at told
      obtain rfl := templated .shared request.uri.path endpoint (by simp)
      let template : Exchange :=
        ⟨.template .shared request.uri.path, Path.template request.uri.path⟩
      have templateTells : Trace.Tells [template] [] [] := ⟨rfl, rfl⟩
      -- The attempts take no token and the admission sends nothing, so the waits fall apart in two.
      have delays : Trace.delays (admission ++ template :: series) = admission.delays := by
        rw [Trace.delays_append]
        exact (congrArg _ attempts.delays_eq_nil).trans (List.append_nil _)
      have allWaits : Trace.waits (admission ++ template :: series)
          = admission.waits ++ series.waits := Trace.waits_append ..
      have outcomes : Trace.outcomes (admission ++ template :: series) = series.outcomes := by
        rw [Trace.outcomes_append, Trace.requests_eq_nil_iff.mp admits.requests_eq_nil]
        rfl
      have requests : Trace.requests (admission ++ template :: series) = series.requests := by
        rw [Trace.requests_append, admits.requests_eq_nil]
        rfl
      have paused : backoffs = series.waits := by
        show List.drop _ _ = _
        rw [delays, allWaits, ← waits, List.drop_left]
      rw [paused, delays, allWaits, outcomes, requests]
      exact ⟨tells.append (templateTells.append told), atMostOne, by simp [waits],
        .inr ⟨attempts.requests_ne_nil, attempts.length_waits⟩⟩

/-- An observed call tells its start and its end besides. -/
theorem Course.tells_observed (recorded : config.sink = .recorded) {calls during : Trace}
    {result : Outcome} {start finish : Instant} {template : String}
    (course : config.Course .base (config.credited request) during result)
    (split : calls = config.observe.opening request start
      ++ (during ++ config.observe.closing request result start finish template))
    (templated : Templated calls) :
    let backoffs := calls.waits.drop calls.delays.length
    calls.Tells
        ([(.debug, "http request started")]
          ++ (calls.delays.map (fun _ => (.info, "rate limit wait"))
            ++ (List.replicate backoffs.length (.warn, "retrying request")
              ++ config.retryPolicy.exhaustedHeadline calls.outcomes.length calls.outcomes)
            ++ [Observe.endHeadline result]))
        ([] ++ (calls.delays.map (.rateLimit (config.selection (config.credited request)).label)
            ++ ((List.range backoffs.length).map fun number =>
              .retry (number + 1) (Path.template request.uri.path))
            ++ [Observe.endMeasure request (Path.template request.uri.path) (finish.since start)
              result])) ∧
      calls.delays.length ≤ 1 ∧
      calls.waits.length = calls.delays.length + backoffs.length ∧
      Paced calls.requests backoffs := by
  have quietOpening : (config.observe.opening request start).Quiet := Observe.quiet_opening start
  have quietClosing : (config.observe.closing request result start finish template).Quiet :=
    Observe.quiet_closing result start finish template
  have delays : calls.delays = during.delays := by
    rw [split, Trace.delays_append, Trace.delays_append, quietOpening.delays_eq_nil,
      quietClosing.delays_eq_nil, List.nil_append, List.append_nil]
  have waits : calls.waits = during.waits := split ▸ Trace.waits_between quietOpening quietClosing
  have requests : calls.requests = during.requests :=
    split ▸ Trace.requests_between quietOpening quietClosing
  have outcomes : calls.outcomes = during.outcomes := by
    rw [split, Trace.outcomes_append, Trace.outcomes_append,
      Trace.requests_eq_nil_iff.mp quietOpening.requests_eq_nil,
      Trace.requests_eq_nil_iff.mp quietClosing.requests_eq_nil, List.nil_append, List.append_nil]
  have inside : Templated during := fun memo path label member =>
    templated memo path label (by simp [split, member])
  -- The template at the end is only told of a response, and it is that of the path as well.
  have closing : (config.observe.closing request result start finish template).Tells
      [Observe.endHeadline result]
      [Observe.endMeasure request (Path.template request.uri.path) (finish.since start)
        result] := by
    have told : (config.observe.closing request result start finish template).Tells
        [Observe.endHeadline result]
        [Observe.endMeasure request template (finish.since start) result] :=
      Observe.tells_closing recorded result start finish template
    cases result with
    | error failure => exact told
    | ok response =>
        obtain rfl := templated config.observe.memo request.uri.path template
          (by simp [split, Observe.closing, Observe.reportTrace])
        exact told
  obtain ⟨tells, atMostOne, counted, paced⟩ := course.tells recorded inside
  rw [delays, waits, requests, outcomes]
  rw [uri_credited] at tells
  refine ⟨?_, atMostOne, counted, paced⟩
  rw [split]
  exact (Observe.tells_opening recorded start).append (tells.append closing)

/-! ## Calls in a scripted world -/

/-- A run in a scripted world is told the templates of its paths. -/
theorem templated_exchanges {α : Type} (call : Call α) (world : World) :
    Templated (call.exchanges World.answer world) := by
  intro memo path template member
  obtain ⟨front, back, split⟩ := List.append_of_mem member
  have answered : template
      = (World.answer (.template memo path) (Trace.replay World.answer front world)).1 :=
    Call.atEach_exchanges World.answer call world front _ back split
  rw [answered, World.answer_of_begin rfl]
  exact World.template_fst ..

/-- A run in a scripted world is told the time of the state that it has come to. -/
theorem eq_of_clock {α : Type} {call : Call α} {world : World} {front back : Trace}
    {instant : Instant} (split : call.exchanges World.answer world
      = front ++ ⟨.clock, instant⟩ :: back) :
    instant = (Trace.replay World.answer front world).now := by
  have answered : instant = (World.answer .clock (Trace.replay World.answer front world)).1 :=
    Call.atEach_exchanges World.answer call world front _ back split
  rw [answered, World.answer_of_begin rfl]

/-- An observed call in a scripted world begins with it and ends with it. -/
theorem clocks_of_exchanges {call : Call Outcome} {world : World} {observe : Observe}
    {start finish : Instant} {template : String} {during : Trace}
    (split : call.exchanges World.answer world
      = observe.opening request start
        ++ (during ++ observe.closing request outcome start finish template)) :
    start = world.now ∧ finish = (world.perform call).2.now := by
  let told := observe.sink.told ⟨.log ⟨.debug, "http request started",
    [⟨"method", request.method.text⟩, ⟨"url", request.uri.render⟩, ⟨"path", request.uri.path⟩]⟩, ()⟩
  let report := observe.reportTrace request (finish.since start) template outcome
  constructor
  · have begins : call.exchanges World.answer world = told ++ ⟨.clock, start⟩
        :: (during ++ observe.closing request outcome start finish template) := by
      rw [split, Observe.opening, List.append_assoc]
      rfl
    rw [eq_of_clock begins]
    exact (Trace.quiet_told _ rfl).prompt.now_replay world
  · have ends : call.exchanges World.answer world
        = (observe.opening request start ++ during) ++ ⟨.clock, finish⟩ :: report := by
      rw [split, List.append_assoc]
      rfl
    have quiet : Trace.Quiet (⟨.clock, finish⟩ :: report) :=
      Observe.quiet_closing outcome start finish template
    rw [eq_of_clock ends, World.perform, Call.run_snd_eq_replay, ends]
    exact ((congrArg World.now (Trace.replay_append ..)).trans (quiet.prompt.now_replay _)).symm

/-- The law of telemetry. A client that logs and measures tells each call of a scripted world in
this order: that it started; that it waits for its token, just if the token it reserved is not there
at once; each further attempt before the wait for it; that the attempts ran out, just if their
greatest number was made and the last outcome was retryable; and how it ended, a response with a
status from 400 on as a warning. Of the records of the log these are the levels and the messages.
The measurements come in the same order. They tell the label and the delay of the wait, number the
further attempts from one, name the template of the path, and end with the status or the kind of the
failure that the call resulted in. There are as many further attempts told as waits for one begun. A
silent client has the same result and leaves the same world behind, in which nothing was logged or
measured. -/
theorem telemetry_of_perform (config : ClientConfig) (recorded : config.sink = .recorded)
    (request : Request) (world : World) :
    let call := (Client.ofConfig config .base []).execute request
    let calls := call.exchanges World.answer world
    let result := (world.perform call).1
    let last := (world.perform call).2
    let delays := calls.delays
    let backoffs := calls.waits.drop delays.length
    let retries := backoffs.length
    let label := (config.selection (config.credited request)).label
    let endpoint := Path.template request.uri.path
    calls.headlines =
        [(.debug, "http request started")]
          ++ delays.map (fun _ => (.info, "rate limit wait"))
          ++ List.replicate retries (.warn, "retrying request")
          ++ (if calls.requests.length = min (config.maxRetries + 1) (UInt64.size - 1)
                ∧ calls.outcomes.getLast?.any Outcome.isRetryable then
              [(.warn, "retries exhausted")] else [])
          ++ [match result with
            | .ok response =>
                (if 400 ≤ response.status.code then .warn else .debug, "http request completed")
            | .error _ => (.error, "http request failed")] ∧
      calls.measures =
        delays.map (.rateLimit label)
          ++ (List.range retries).map (fun number => .retry (number + 1) endpoint)
          ++ [match result with
            | .ok response => .httpRequest request.method.text endpoint response.status.code
                (last.now.since world.now)
            | .error failure => .error "http_request" failure.kind] ∧
      delays.length ≤ 1 ∧
      calls.waits.length = delays.length + retries ∧
      Paced calls.requests backoffs ∧
      world.silenced.perform ((Client.ofConfig config.silenced .base []).execute request)
        = (result, last.silenced) := by
  intro call calls result last delays backoffs retries label endpoint
  obtain ⟨start, finish, template, during, split, course⟩ :=
    observed_of_yields (Call.yields_exchanges World.answer call world)
  -- The duration that is told is the one that the call took in the world.
  obtain ⟨rfl, rfl⟩ : start = world.now ∧ finish = last.now := clocks_of_exchanges split
  obtain ⟨tells, atMostOne, counted, paced⟩ :=
    course.tells_observed recorded split (templated_exchanges call world)
  refine ⟨?_, ?_, atMostOne, counted, paced, World.perform_silenced config world⟩
  · rw [Trace.length_requests]
    have headlines := tells.headlines
    simp only [← List.append_assoc] at headlines
    exact headlines
  · have measures := tells.measures
    simp only [List.nil_append, ← List.append_assoc] at measures
    exact measures

/-- What is told of a call to a server that fails twice, where one further attempt is allowed. -/
theorem telemetry_of_perform_failing_server :
    let config : ClientConfig :=
      { baseUrl := none, maxRetries := 1, initialWait := .ofSeconds 1, limiter := none
        selector := none, sink := .recorded, sleeper := .timer, credential := none
        connection := {} }
    let request : Request := { method := .get, uri := ⟨none, none, "/sites/12345", none⟩ }
    let failing : Reply := { reaction := .respond ⟨503, by decide⟩ .empty .empty }
    let world : World := { buckets := fun _ => .full 1 1 .start, script := [failing, failing] }
    let calls := ((Client.ofConfig config .base []).execute request).exchanges World.answer world
    config.sink = .recorded ∧
      calls.headlines =
        [(.debug, "http request started"), (.warn, "retrying request"),
          (.warn, "retries exhausted"), (.warn, "http request completed")] ∧
      calls.measures =
        [.retry 1 "/sites/:id", .httpRequest "GET" "/sites/:id" 503 (.ofSeconds 1)] := by
  intro config request failing world calls
  obtain ⟨headlines, measures, _⟩ := telemetry_of_perform config rfl request world
  exact ⟨rfl, headlines.trans (by decide +kernel), measures.trans (by decide +kernel)⟩

end ClientConfig

end Outbound
