import Outbound.Client
import Outbound.Proofs.Retry.Attempts

/-! # The course of a call through the layers of a client

A call of a client is observed, gets the credential, waits for its token and makes its attempts, in
this order. Its trace is the trace of the last two between what the observation tells.

* `Trace.Quiet` holds of traces in which something is told or asked and nothing else is done.
* `Observe.exists_of_yields_transport`, `Admission.Grants` and `RetryPolicy.Attempts` describe the
  traces of the single layers.
* `ClientConfig.Course` puts them together, and `ClientConfig.course_of_yields` says that a call has
  no other traces; `ClientConfig.exists_course_of_run` says so of a run. -/

namespace Outbound

/-! ## Quiet traces -/

/-- Whether an effect only tells or asks something: it takes no time and leaves tokens, requests and
responses alone. -/
def Effect.isTelling : Effect → Bool
  | .log _ | .measure _ | .enter _ | .leave _ _ | .clock | .template _ _ | .check _ => true
  | _ => false

/-- Nothing is done in a trace but to tell or to ask something. -/
def Trace.Quiet (trace : Trace) : Prop := ∀ exchange ∈ trace, exchange.effect.isTelling = true

namespace Trace

variable {trace front back : Trace}

/-- The empty trace is quiet. -/
theorem quiet_nil : Quiet [] := by simp [Quiet]

/-- A trace is quiet if its first exchange is and all others are. -/
theorem quiet_cons {exchange : Exchange} :
    Quiet (exchange :: trace) ↔ exchange.effect.isTelling = true ∧ trace.Quiet := by
  simp [Quiet]

/-- A trace is quiet if both its parts are. -/
theorem quiet_append : Quiet (front ++ back) ↔ front.Quiet ∧ back.Quiet := by
  simp [Quiet, or_imp, forall_and]

/-- What a sink is told is quiet. -/
theorem quiet_told (sink : Sink) {exchange : Exchange}
    (telling : exchange.effect.isTelling = true) : Quiet (sink.told exchange) := by
  cases sink with
  | silent => exact quiet_nil
  | recorded => exact quiet_cons.mpr ⟨telling, quiet_nil⟩

/-- An exchange that only tells something is no request. -/
theorem request?_eq_none {exchange : Exchange} (telling : exchange.effect.isTelling = true) :
    exchange.request? = none := by
  obtain ⟨effect, answer⟩ := exchange
  cases effect <;> first | rfl | cases telling

/-- An exchange that only tells something is no wait. -/
theorem waited?_eq_none {exchange : Exchange} (telling : exchange.effect.isTelling = true) :
    exchange.waited? = none := by
  obtain ⟨effect, answer⟩ := exchange
  cases effect <;> first | rfl | cases telling

/-- No request is sent in a quiet trace. -/
theorem Quiet.requests_eq_nil (quiet : trace.Quiet) : trace.requests = [] :=
  List.filterMap_eq_nil_iff.mpr fun _ member => request?_eq_none (quiet _ member)

/-- Nothing is waited for in a quiet trace. -/
theorem Quiet.waits_eq_nil (quiet : trace.Quiet) : trace.waits = [] :=
  List.filterMap_eq_nil_iff.mpr fun _ member => waited?_eq_none (quiet _ member)

/-- What is told before and behind a trace adds no request. -/
theorem requests_between {during : Trace} (before : front.Quiet) (behind : back.Quiet) :
    (front ++ (during ++ back)).requests = during.requests := by
  simp [before.requests_eq_nil, behind.requests_eq_nil]

/-- What is told before and behind a trace adds no wait. -/
theorem waits_between {during : Trace} (before : front.Quiet) (behind : back.Quiet) :
    (front ++ (during ++ back)).waits = during.waits := by
  simp [before.waits_eq_nil, behind.waits_eq_nil]

end Trace

/-! ## Observation -/

namespace Observe

variable {observe : Observe} {inner : Transport} {request : Request} {trace : Trace}

/-- What is told when a call starts. -/
def opening (observe : Observe) (request : Request) (start : Instant) : Trace :=
  observe.sink.told ⟨.log ⟨.debug, "http request started",
      [⟨"method", request.method.text⟩, ⟨"url", request.uri.render⟩,
        ⟨"path", request.uri.path⟩]⟩, ()⟩
    ++ [⟨.clock, start⟩]

/-- What is told of how a call ended; the template of its path only if there was a response. -/
def reportTrace (observe : Observe) (request : Request) (duration : Duration)
    (template : String) : Outcome → Trace
  | .error failure =>
      observe.sink.told ⟨.log ⟨.error, "http request failed",
          [⟨"method", request.method.text⟩, ⟨"url", request.uri.render⟩,
            ⟨"duration_ms", toString duration.millis⟩, ⟨"error", failure.message⟩]⟩, ()⟩
        ++ observe.sink.told ⟨.measure (.error "http_request" failure.kind), ()⟩
  | .ok response =>
      observe.sink.told ⟨.log ⟨levelOf response.status, "http request completed",
          [⟨"method", request.method.text⟩, ⟨"url", request.uri.render⟩,
            ⟨"status", toString response.status.code⟩,
            ⟨"duration_ms", toString duration.millis⟩]⟩, ()⟩
        ++ ⟨.template observe.memo request.uri.path, template⟩
          :: observe.sink.told ⟨.measure
            (.httpRequest request.method.text template response.status.code duration), ()⟩

/-- What is told when a call has ended. -/
def closing (observe : Observe) (request : Request) (outcome : Outcome) (start finish : Instant)
    (template : String) : Trace :=
  ⟨.clock, finish⟩ :: observe.reportTrace request (finish.since start) template outcome

/-- The start of a call is told quietly. -/
theorem quiet_opening (start : Instant) : (observe.opening request start).Quiet :=
  Trace.quiet_append.mpr ⟨Trace.quiet_told _ rfl, Trace.quiet_cons.mpr ⟨rfl, Trace.quiet_nil⟩⟩

/-- The end of a call is told quietly. -/
theorem quiet_closing (outcome : Outcome) (start finish : Instant) (template : String) :
    (observe.closing request outcome start finish template).Quiet := by
  refine Trace.quiet_cons.mpr ⟨rfl, ?_⟩
  cases outcome with
  | error failure => exact Trace.quiet_append.mpr ⟨Trace.quiet_told _ rfl, Trace.quiet_told _ rfl⟩
  | ok response =>
      exact Trace.quiet_append.mpr
        ⟨Trace.quiet_told _ rfl, Trace.quiet_cons.mpr ⟨rfl, Trace.quiet_told _ rfl⟩⟩

/-- A report has the trace of a report. -/
theorem exists_of_yields_report {outcome : Outcome} {duration : Duration} {answer : Unit}
    (yields : (observe.report request outcome duration).Yields trace answer) :
    ∃ template, trace = observe.reportTrace request duration template outcome := by
  cases outcome with
  | error failure =>
      obtain ⟨_, _, _, rfl, logs, measures⟩ := Call.yields_bind_iff.mp yields
      obtain rfl := Sink.yields_log_iff.mp logs
      obtain rfl := Sink.yields_measure_iff.mp measures
      exact ⟨"", rfl⟩
  | ok response =>
      obtain ⟨_, _, _, rfl, logs, labels⟩ := Call.yields_bind_iff.mp yields
      obtain ⟨template, _, rfl, measures⟩ := Call.yields_perform_bind_iff.mp labels
      obtain rfl := Sink.yields_log_iff.mp logs
      obtain rfl := Sink.yields_measure_iff.mp measures
      exact ⟨template, rfl⟩

/-- An observed call does what the call does between what is told of its start and of its end. -/
theorem exists_of_yields_transport {outcome : Outcome}
    (yields : (observe.transport inner request).Yields trace outcome) :
    ∃ start finish template during,
      trace = observe.opening request start
        ++ (during ++ observe.closing request outcome start finish template) ∧
      (inner request).Yields during outcome := by
  obtain ⟨told, _, _, rfl, logs, starts⟩ := Call.yields_bind_iff.mp yields
  obtain rfl := Sink.yields_log_iff.mp logs
  obtain ⟨start, _, rfl, goesOn⟩ := Call.yields_perform_bind_iff.mp starts
  obtain ⟨during, _, result, rfl, inside, finishes⟩ := Call.yields_bind_iff.mp goesOn
  obtain ⟨finish, _, rfl, tells⟩ := Call.yields_perform_bind_iff.mp finishes
  obtain ⟨report, _, _, rfl, reports, ends⟩ := Call.yields_bind_iff.mp tells
  obtain ⟨rfl, rfl⟩ := Call.yields_done_iff.mp ends
  obtain ⟨template, rfl⟩ := exists_of_yields_report reports
  refine ⟨start, finish, template, during, ?_, inside⟩
  rw [List.append_nil, opening, List.append_assoc]
  rfl

end Observe

/-! ## Admission -/

namespace Admission

variable {admission : Admission} {request : Request} {trace : Trace}

/-- What is told of a wait for a token. -/
def tellsWait (admission : Admission) (label : String) (delay : Duration) : Trace :=
  admission.sink.told ⟨.log ⟨.info, "rate limit wait",
      [⟨"endpoint", label⟩, ⟨"wait_ms", toString delay.millis⟩]⟩, ()⟩
    ++ admission.sink.told ⟨.measure (.rateLimit label delay), ()⟩

/-- What is told of a wait is quiet. -/
theorem quiet_tellsWait (label : String) (delay : Duration) :
    (admission.tellsWait label delay).Quiet :=
  Trace.quiet_append.mpr ⟨Trace.quiet_told _ rfl, Trace.quiet_told _ rfl⟩

/-- The traces of an admission, with its answer. -/
inductive Grants (admission : Admission) (request : Request) :
    Trace → Except Failure Unit → Prop where
  /-- The request needs no token. -/
  | bypassed (bypass : (admission.selector request).bucket = none) :
      Grants admission request [] (.ok ())
  /-- The token exists at once. -/
  | atOnce {bucket : BucketId} (selected : (admission.selector request).bucket = some bucket) :
      Grants admission request [⟨.reserve bucket, (0 : Duration)⟩] (.ok ())
  /-- The token exists after a wait. -/
  | waited {bucket : BucketId} (selected : (admission.selector request).bucket = some bucket)
      {delay : Duration} (later : delay ≠ 0) :
      Grants admission request
        (⟨.reserve bucket, delay⟩ :: (admission.tellsWait (admission.selector request).label delay
          ++ [⟨.wait admission.sleeper request.callContext delay, .ok ()⟩])) (.ok ())
  /-- The wait is interrupted, and the token is put back. -/
  | refused {bucket : BucketId} (selected : (admission.selector request).bucket = some bucket)
      {delay : Duration} (later : delay ≠ 0) (cause : CancelCause) :
      Grants admission request
        (⟨.reserve bucket, delay⟩ :: (admission.tellsWait (admission.selector request).label delay
          ++ [⟨.wait admission.sleeper request.callContext delay, .error cause⟩,
            ⟨.giveBack bucket, ()⟩]))
        (.error (.rateLimitWait (admission.selector request).label cause))

/-- An admission has only such traces. -/
theorem grants_of_yields {answer : Except Failure Unit}
    (yields : (admission.admitted request).Yields trace answer) :
    admission.Grants request trace answer := by
  simp only [admitted] at yields
  split at yields
  next bypass =>
    obtain ⟨rfl, rfl⟩ := Call.yields_done_iff.mp yields
    exact .bypassed bypass
  next bucket selected =>
    obtain ⟨delay, _, rfl, taken⟩ := Call.yields_perform_bind_iff.mp yields
    split at taken
    next atOnce =>
      obtain ⟨rfl, rfl⟩ := Call.yields_done_iff.mp taken
      rw [atOnce]
      exact .atOnce selected
    next later =>
      obtain ⟨_, _, _, rfl, logs, logged⟩ := Call.yields_bind_iff.mp taken
      obtain rfl := Sink.yields_log_iff.mp logs
      obtain ⟨_, _, _, rfl, measures, told⟩ := Call.yields_bind_iff.mp logged
      obtain rfl := Sink.yields_measure_iff.mp measures
      obtain ⟨ending, _, rfl, ended⟩ := Call.yields_perform_bind_iff.mp told
      rw [← List.append_assoc]
      cases ending with
      | ok _ =>
          obtain ⟨rfl, rfl⟩ := Call.yields_done_iff.mp ended
          exact .waited selected later
      | error cause =>
          obtain ⟨_, _, rfl, putBack⟩ := Call.yields_perform_bind_iff.mp ended
          obtain ⟨rfl, rfl⟩ := Call.yields_done_iff.mp putBack
          exact .refused selected later cause

/-- No request is sent for an admission. -/
theorem Grants.requests_eq_nil {answer : Except Failure Unit}
    (grants : admission.Grants request trace answer) : trace.requests = [] := by
  cases grants <;>
    simp [Trace.requests_cons, Exchange.request?, (quiet_tellsWait _ _).requests_eq_nil]

/-- A token that is granted was not waited for in vain. -/
theorem Grants.forall_waits (grants : admission.Grants request trace (.ok ())) :
    ∀ ending ∈ trace.waits, ending = .ok () := by
  cases grants <;>
    simp [Trace.waits_cons, Exchange.waited?, (quiet_tellsWait _ _).waits_eq_nil]

/-- An admission fails with its only wait, by the cause of that. -/
theorem Grants.exists_of_error {failure : Failure}
    (grants : admission.Grants request trace (.error failure)) :
    ∃ label cause, failure = .rateLimitWait label cause ∧ trace.waits = [.error cause] := by
  cases grants with
  | refused selected later cause =>
      refine ⟨_, cause, rfl, ?_⟩
      simp [Trace.waits_cons, Exchange.waited?, (quiet_tellsWait _ _).waits_eq_nil]

end Admission

/-! ## The whole call -/

namespace ClientConfig

variable {config : ClientConfig} {inner : Transport} {request : Request} {trace : Trace}

/-- A request with the credential of a client, if it has one. -/
def credited (config : ClientConfig) (request : Request) : Request :=
  match config.credential with
  | some credential => credential.apply request
  | none => request

@[simp] theorem method_credited : (config.credited request).method = request.method := by
  cases known : config.credential <;> simp [credited, known, Credential.apply]

@[simp] theorem uri_credited : (config.credited request).uri = request.uri := by
  cases known : config.credential <;> simp [credited, known, Credential.apply]

@[simp] theorem version_credited : (config.credited request).version = request.version := by
  cases known : config.credential <;> simp [credited, known, Credential.apply]

@[simp] theorem body_credited : (config.credited request).body = request.body := by
  cases known : config.credential <;> simp [credited, known, Credential.apply]

@[simp] theorem extensions_credited :
    (config.credited request).extensions = request.extensions := by
  cases known : config.credential <;> simp [credited, known, Credential.apply]

/-- The context of a call is that of the request as it was made. -/
@[simp] theorem callContext_credited :
    (config.credited request).callContext = request.callContext := by
  simp [Request.callContext]

/-- A limit waits and tells as the client does, and picks buckets by the selector of the client, or
always its own bucket. -/
theorem exists_of_admission {admission : Admission} (limit : config.admission = some admission) :
    ∃ selector, admission = { selector, sleeper := config.sleeper, sink := config.sink } ∧
      (config.selector = some selector ∨
        (config.selector = none ∧ config.limiter.isSome ∧ selector = .always .own)) := by
  unfold ClientConfig.admission at limit
  split at limit
  next selector given => exact ⟨selector, (Option.some.inj limit).symm, .inl given⟩
  next bucket without given =>
    exact ⟨.always .own, (Option.some.inj limit).symm, .inr ⟨without, by simp [given], rfl⟩⟩
  · cases limit

/-- The bucket of a request to a client and its label. No token is needed if the client has no
limit. -/
def selection (config : ClientConfig) (request : Request) : Selection :=
  match config.admission with
  | some admission => admission.selector request
  | none => ⟨none, Selection.defaultLabel⟩

/-- The traces of the admission of a request by a client, which may have no limit. -/
inductive Admits (config : ClientConfig) (request : Request) :
    Trace → Except Failure Unit → Prop where
  /-- The client has no limit. -/
  | unlimited (noLimit : config.admission = none) : Admits config request [] (.ok ())
  /-- The client has a limit. -/
  | limited {admission : Admission} {trace : Trace} {answer : Except Failure Unit}
      (limit : config.admission = some admission)
      (grants : admission.Grants request trace answer) : Admits config request trace answer

/-- No request is sent for an admission. -/
theorem Admits.requests_eq_nil {answer : Except Failure Unit}
    (admits : config.Admits request trace answer) : trace.requests = [] := by
  cases admits with
  | unlimited _ => rfl
  | limited _ grants => exact grants.requests_eq_nil

/-- An admitted request did not wait in vain. -/
theorem Admits.forall_waits (admits : config.Admits request trace (.ok ())) :
    ∀ ending ∈ trace.waits, ending = .ok () := by
  cases admits with
  | unlimited _ => simp
  | limited _ grants => exact grants.forall_waits

/-- A request is refused with its only wait, by the cause of that. -/
theorem Admits.exists_of_error {failure : Failure}
    (admits : config.Admits request trace (.error failure)) :
    ∃ label cause, failure = .rateLimitWait label cause ∧ trace.waits = [.error cause] := by
  cases admits with
  | limited _ grants => exact grants.exists_of_error

/-- The course of a call between the ends of its observation: the call is refused, its body breaks
off, or it makes a series of attempts. -/
inductive Course (config : ClientConfig) (inner : Transport) (request : Request) :
    Trace → Outcome → Prop where
  /-- The call is not admitted. -/
  | refused {admission : Trace} {failure : Failure}
      (admits : config.Admits request admission (.error failure)) :
      Course config inner request admission (.error failure)
  /-- The body cannot be read. -/
  | unread {admission : Trace} {failure : Failure}
      (admits : config.Admits request admission (.ok ()))
      (broken : RetryPolicy.buffered request.body = .error failure) :
      Course config inner request admission (.error failure)
  /-- Attempts are made. -/
  | attempted {admission series : Trace} {endpoint : String} {body : Option Body}
      {result : Outcome} (admits : config.Admits request admission (.ok ()))
      (whole : RetryPolicy.buffered request.body = .ok body)
      (attempts :
        config.retryPolicy.Attempts inner { request with body } endpoint 0 series result) :
      Course config inner request
        (admission ++ ⟨.template .shared request.uri.path, endpoint⟩ :: series) result

/-- The layers of a client behind the credential: admission, if the client has a limit, and repeated
attempts. -/
def limited (config : ClientConfig) (inner : Transport) : Transport :=
  match config.admission with
  | some admission => admission.transport (config.retryPolicy.transport inner)
  | none => config.retryPolicy.transport inner

/-- The layers of a client are the observation around the credential and the layers behind it. -/
theorem chain_layers :
    chain config.layers inner request =
      config.observe.transport (fun observed => config.limited inner (config.credited observed))
        request := by
  cases credential : config.credential <;> cases limit : config.admission <;>
    simp only [layers, credential, limit, credited, limited] <;> rfl

/-- An admitted call fails with its body, or makes its attempts. -/
theorem Admits.course {admission series : Trace} {outcome : Outcome}
    (admits : config.Admits request admission (.ok ()))
    (yields : (config.retryPolicy.transport inner request).Yields series outcome) :
    config.Course inner request (admission ++ series) outcome := by
  cases read : RetryPolicy.buffered request.body with
  | error failure =>
      rw [RetryPolicy.transport, read] at yields
      obtain ⟨rfl, rfl⟩ := Call.yields_done_iff.mp yields
      rw [List.append_nil]
      exact .unread admits read
  | ok body =>
      obtain ⟨endpoint, attempted, rfl, attempts⟩ :=
        RetryPolicy.attempts_of_yields_transport read yields
      exact .attempted admits read attempts

/-- The layers behind the credential take such a course. -/
theorem course_of_yields_limited {outcome : Outcome}
    (yields : (config.limited inner request).Yields trace outcome) :
    config.Course inner request trace outcome := by
  cases limit : config.admission with
  | none =>
      simp only [limited, limit] at yields
      exact (Admits.unlimited limit).course yields
  | some admission =>
      simp only [limited, limit] at yields
      obtain ⟨front, back, answer, rfl, admitted, goesOn⟩ := Call.yields_bind_iff.mp yields
      have admits := Admits.limited limit (Admission.grants_of_yields admitted)
      cases answer with
      | ok _ => exact admits.course goesOn
      | error failure =>
          obtain ⟨rfl, rfl⟩ := Call.yields_done_iff.mp goesOn
          rw [List.append_nil]
          exact .refused admits

/-- A call of a client takes such a course between what is told of its start and of its end. -/
theorem observed_of_yields {outcome : Outcome}
    (yields : ((Client.ofConfig config inner []).execute request).Yields trace outcome) :
    ∃ start finish template during,
      trace = config.observe.opening request start
        ++ (during ++ config.observe.closing request outcome start finish template) ∧
      config.Course inner (config.credited request) during outcome := by
  have noFurther : (Client.ofConfig config inner []).execute request
      = chain config.layers inner request := by
    rw [Client.execute, Client.transport_ofConfig, List.append_nil]
  rw [noFurther, chain_layers] at yields
  obtain ⟨start, finish, template, during, split, inside⟩ :=
    Observe.exists_of_yields_transport yields
  exact ⟨start, finish, template, during, split, course_of_yields_limited inside⟩

/-- A call of a client takes such a course, and is otherwise quiet. -/
theorem course_of_yields {outcome : Outcome}
    (yields : ((Client.ofConfig config inner []).execute request).Yields trace outcome) :
    ∃ before during behind, trace = before ++ (during ++ behind) ∧ before.Quiet ∧ behind.Quiet ∧
      config.Course inner (config.credited request) during outcome := by
  obtain ⟨start, finish, template, during, split, course⟩ := observed_of_yields yields
  exact ⟨_, during, _, split, Observe.quiet_opening start,
    Observe.quiet_closing outcome start finish template, course⟩

/-- A run of a call takes such a course, which has all its requests and waits. -/
theorem exists_course_of_run {σ : Type} (config : ClientConfig) (inner : Transport)
    (request : Request) (respond : (effect : Effect) → σ → effect.Answer × σ) (state : σ) :
    let call := (Client.ofConfig config inner []).execute request
    ∃ during : Trace,
      config.Course inner (config.credited request) during (call.run respond state).1 ∧
      (call.exchanges respond state).requests = during.requests ∧
      (call.exchanges respond state).waits = during.waits := by
  intro call
  obtain ⟨before, during, behind, split, quietBefore, quietBehind, course⟩ :=
    course_of_yields (Call.yields_exchanges respond call state)
  refine ⟨during, course, ?_, ?_⟩
  · rw [split]
    exact Trace.requests_between quietBefore quietBehind
  · rw [split]
    exact Trace.waits_between quietBefore quietBehind

end ClientConfig

end Outbound
