import Outbound.Proofs.Client.Course

/-! # The requests of a call

All attempts of a call send the same request: the one of the caller with its body in one piece and
with the credential of the client in place of whatever stood under its name.

* `RetryPolicy.read_of_buffered` says that buffering keeps the bytes of a body, and keeps a request
  without a body apart from one with an empty body.
* `RetryPolicy.Attempts.eq_of_mem_requests` says that a series of attempts sends nothing but its
  request.
* `ClientConfig.requests_of_run` is the law of a whole call. -/

namespace Outbound

/-! ## Buffered bodies -/

namespace RetryPolicy

variable {policy : RetryPolicy} {request : Request} {endpoint : String} {trace : Trace}

/-- A buffered body holds the chunks of the body one behind the other, and there is one if there was
one before. -/
theorem read_of_buffered {given body : Option Body} (whole : buffered given = .ok body) :
    body.map Body.read = given.map fun body => .ok body.chunks.flatten := by
  cases given with
  | none =>
      obtain rfl := Except.ok.inj whole
      rfl
  | some given =>
      cases broken : given.failure with
      | none =>
          simp only [buffered, Body.read, broken] at whole
          obtain rfl := Except.ok.inj whole
          simp
      | some message => simp [buffered, Body.read, broken] at whole

/-- A body that breaks off cannot be buffered. -/
theorem buffered_of_read_error {body : Body} {message : String}
    (broken : body.read = .error message) :
    buffered (some body) = .error (.transport (.brokenBody message)) := by
  simp [buffered, broken]

/-! ## Attempts -/

/-- No request is sent when the attempts ran out. -/
@[simp] theorem requests_exhaustedTrace : (policy.exhaustedTrace endpoint).requests = [] :=
  Trace.requests_eq_nil_iff.mpr outcomes_exhaustedTrace

/-- No request is sent during a pause. -/
@[simp] theorem requests_pauseTrace {context : Context} {made : Nat} {outcome : Outcome}
    {ending : Except CancelCause Unit} :
    (policy.pauseTrace context endpoint made outcome ending).requests = [] :=
  Trace.requests_eq_nil_iff.mpr outcomes_pauseTrace

/-- A series of attempts at the base sends nothing but its request. -/
theorem Attempts.eq_of_mem_requests {made : Nat} {result : Outcome}
    (attempts : policy.Attempts .base request endpoint made trace result) :
    ∀ sent ∈ trace.requests, sent = request := by
  induction attempts with
  | settled attempt _ _ | exhausted attempt _ _ | interrupted attempt _ _ _ =>
      obtain rfl := Call.yields_perform_iff.mp attempt
      simp [Trace.requests_cons, Exchange.request?]
  | repeated attempt _ _ _ inductionHypothesis =>
      obtain rfl := Call.yields_perform_iff.mp attempt
      simpa [Trace.requests_cons, Exchange.request?] using inductionHypothesis

/-- A series of attempts at the base sends a request. -/
theorem Attempts.requests_ne_nil {made : Nat} {result : Outcome}
    (attempts : policy.Attempts .base request endpoint made trace result) :
    trace.requests ≠ [] := by
  cases attempts with
  | settled attempt _ _ | exhausted attempt _ _ | interrupted attempt _ _ _
  | repeated attempt _ _ _ =>
      obtain rfl := Call.yields_perform_iff.mp attempt
      simp [Trace.requests_cons, Exchange.request?]

end RetryPolicy

/-! ## Whole calls -/

namespace ClientConfig

variable {config : ClientConfig} {request : Request} {trace : Trace} {outcome : Outcome}

/-- The values of a name in a request with the credential. -/
theorem values_credited (name : HeaderName) :
    (config.credited request).headers.values name =
      match config.credential with
      | some credential =>
          if name = credential.name then [credential.value] else request.headers.values name
      | none => request.headers.values name := by
  cases known : config.credential with
  | none => simp [credited, known]
  | some credential =>
      simp only [credited, known, Credential.apply]
      split
      next same =>
        rw [same]
        exact Headers.values_set_self ..
      next different => exact Headers.values_set_other _ _ different

/-- A call sends nothing but its request with a buffered body. -/
theorem Course.exists_of_mem_requests (course : config.Course .base request trace outcome) :
    ∀ sent ∈ trace.requests, ∃ body, RetryPolicy.buffered request.body = .ok body ∧
      sent = { request with body } := by
  intro sent member
  cases course with
  | refused admits | unread admits _ => simp [admits.requests_eq_nil] at member
  | attempted admits whole attempts =>
      refine ⟨_, whole, attempts.eq_of_mem_requests sent ?_⟩
      simpa [Trace.requests_cons, Exchange.request?, admits.requests_eq_nil] using member

/-- A call that sends no request fails. -/
theorem Course.exists_error (course : config.Course .base request trace outcome)
    (nothingSent : trace.requests = []) : ∃ failure, outcome = .error failure := by
  cases course with
  | refused _ | unread _ _ => exact ⟨_, rfl⟩
  | attempted _ _ attempts =>
      simp [Trace.requests_cons, Exchange.request?, attempts.requests_ne_nil] at nothingSent

/-- A call whose body breaks off sends no request. It fails with its body once it is admitted, and
else with the wait in which it was refused. -/
theorem Course.of_read_error {body : Body} {message : String}
    (course : config.Course .base request trace outcome) (given : request.body = some body)
    (broken : body.read = .error message) :
    trace.requests = [] ∧
      (((∀ ending ∈ trace.waits, ending = .ok ()) ∧
          outcome = .error (.transport (.brokenBody message))) ∨
        ∃ label cause, trace.waits = [.error cause] ∧
          outcome = .error (.rateLimitWait label cause)) := by
  have unreadable := RetryPolicy.buffered_of_read_error broken
  rw [← given] at unreadable
  cases course with
  | refused admits =>
      obtain ⟨label, cause, rfl, waits⟩ := admits.exists_of_error
      exact ⟨admits.requests_eq_nil, .inr ⟨label, cause, waits, rfl⟩⟩
  | unread admits failed =>
      obtain rfl := Except.error.inj (failed.symm.trans unreadable)
      exact ⟨admits.requests_eq_nil, .inl ⟨admits.forall_waits, rfl⟩⟩
  | attempted _ whole _ =>
      rw [unreadable] at whole
      cases whole

/-- The law of replay. In any surroundings, all requests that a call sends to the base are the same
one, and it is that of the caller: with its method, its target, its version and what rides along,
with the bytes of its body or without a body, and with its header fields, except that the values
under the name of the credential are replaced by the secret value alone. A call that sends no
request fails; if its body breaks off it sends none, and it fails with the body once it is admitted,
else with the wait in which it was refused. -/
theorem requests_of_run {σ : Type} (config : ClientConfig) (request : Request)
    (respond : (effect : Effect) → σ → effect.Answer × σ) (state : σ) :
    let call := (Client.ofConfig config .base []).execute request
    let calls := call.exchanges respond state
    let result := (call.run respond state).1
    (∀ sent ∈ calls.requests, ∀ other ∈ calls.requests, sent = other) ∧
      (∀ sent ∈ calls.requests,
        sent.method = request.method ∧ sent.uri = request.uri ∧
          sent.version = request.version ∧ sent.extensions = request.extensions ∧
          (sent.body.map Body.read = request.body.map fun body => .ok body.chunks.flatten) ∧
          ∀ name, sent.headers.values name =
            match config.credential with
            | some credential =>
                if name = credential.name then [credential.value]
                else request.headers.values name
            | none => request.headers.values name) ∧
      (∀ credential, config.credential = some credential → credential.value.sensitive = true) ∧
      (calls.requests = [] → ∃ failure, result = .error failure) ∧
      ∀ body message, request.body = some body → body.read = .error message →
        calls.requests = [] ∧
          (((∀ ending ∈ calls.waits, ending = .ok ()) ∧
              result = .error (.transport (.brokenBody message))) ∨
            ∃ label cause, calls.waits = [.error cause] ∧
              result = .error (.rateLimitWait label cause)) := by
  intro call calls result
  obtain ⟨during, course, requests, waits⟩ :
      ∃ during : Trace, config.Course .base (config.credited request) during result ∧
        calls.requests = during.requests ∧ calls.waits = during.waits :=
    exists_course_of_run config .base request respond state
  rw [requests, waits]
  refine ⟨?_, ?_, fun credential _ => credential.secret, course.exists_error, ?_⟩
  · intro sent member other otherMember
    obtain ⟨body, whole, rfl⟩ := course.exists_of_mem_requests sent member
    obtain ⟨otherBody, otherWhole, rfl⟩ := course.exists_of_mem_requests other otherMember
    rw [Except.ok.inj (whole.symm.trans otherWhole)]
  · intro sent member
    obtain ⟨body, whole, rfl⟩ := course.exists_of_mem_requests sent member
    rw [body_credited] at whole
    exact ⟨method_credited, uri_credited, version_credited, extensions_credited,
      RetryPolicy.read_of_buffered whole, values_credited⟩
  · intro body message given broken
    exact course.of_read_error (body_credited.trans given) broken

end ClientConfig

end Outbound
