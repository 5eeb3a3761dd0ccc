import Outbound.Proofs.Client.Requests
import Outbound.Proofs.Json.Null
import Outbound.Proofs.Retry.Stopping

/-! # Verdicts on calls

A call for a payload and a call for a status alone are judged by the last response, in the same way
in which the attempts before it were judged: a status that is retryable ends the call only when the
attempts have run out, and then the verdict tells how many there were.

* `Client.run_sendJson` and `Client.run_sendNoContent` are the verdicts on an outcome;
  `Client.payloadOf_eq_ok_iff` says when there is a payload.
* `ClientConfig.Course.attempts_of_retryable` says that all attempts were made before a retryable
  status is the last one.
* `ClientConfig.verdicts_of_run` is the law of a whole call. -/

namespace Outbound

/-! ## Single responses -/

/-- The failure of an unexpected status that is retryable tells the attempts. -/
theorem Failure.ofStatus_of_retryable {operation : String} {expected actual : Status}
    {attempts : Option Nat} (retryable : actual.isRetryable = true) :
    ofStatus operation expected actual attempts =
      if actual.code = 429 then .rateLimited operation attempts
      else .server operation actual attempts := by
  have limited : actual = .tooManyRequests ↔ actual.code = 429 :=
    ⟨fun same => by rw [same]; rfl, fun same => Status.code_injective same⟩
  rw [ofStatus]
  by_cases tooMany : actual.code = 429
  · rw [if_pos (limited.mpr tooMany), if_pos tooMany]
  · have serverError : actual.isServerError = true := by
      have outside := ((actual.isRetryable_iff).mp retryable).resolve_left tooMany
      simpa [Status.isServerError] using outside
    rw [if_neg (mt limited.mp tooMany), if_pos serverError, if_neg tooMany]

/-- Any other unexpected status is told together with the expected one. -/
theorem Failure.ofStatus_of_final {operation : String} {expected actual : Status}
    {attempts : Option Nat} (final : actual.isRetryable = false) :
    ofStatus operation expected actual attempts = .unexpectedStatus operation expected actual := by
  have neither : actual ≠ .tooManyRequests ∧ actual.isServerError = false := by
    simpa [Status.isRetryable] using final
  simp [ofStatus, neither]

/-- A status that is told together with the expected one is not retryable. -/
theorem Failure.isRetryable_of_ofStatus {operation named : String}
    {expected actual wanted told : Status} {attempts : Option Nat}
    (failure : ofStatus operation expected actual attempts = .unexpectedStatus named wanted told) :
    told.isRetryable = false := by
  cases known : actual.isRetryable with
  | true =>
      rw [ofStatus_of_retryable known] at failure
      split_ifs at failure
  | false =>
      rw [ofStatus_of_final known] at failure
      obtain ⟨_, _, rfl⟩ := Failure.unexpectedStatus.inj failure
      exact known

/-- An answer with a payload is judged by its status alone. -/
theorem Answer.judge_of_payload {α : Type} {operation : String} {expected status : Status}
    {payload : α} {attempts : Option Nat} :
    judge operation expected (.ok ⟨status, some payload, attempts⟩) =
      if status = expected then .ok payload
      else .error (.ofStatus operation expected status attempts) := by
  by_cases same : status = expected <;> simp [judge, same]

namespace Client

variable {operation : String} {shape : Json.Shape} {expected : Status} {response : Response}
  {bytes : Bytes}

/-- A response with another status is not decoded. -/
theorem payloadOf_of_ne (different : response.status ≠ expected) :
    payloadOf operation shape expected response
      = .error (.ofStatus operation expected response.status response.attempts) := by
  simp [payloadOf, different, bind, Except.bind, Answer.judge]

/-- A response with the expected status is judged by its body. -/
theorem payloadOf_of_eq (same : response.status = expected) :
    payloadOf operation shape expected response =
      match payloadIn operation shape response.body with
      | .ok (some value) => .ok value
      | .ok none => .error (.emptyResponse operation)
      | .error failure => .error failure := by
  rw [payloadOf, if_pos same]
  cases payloadIn operation shape response.body with
  | error failure => rfl
  | ok payload => cases payload <;> simp [bind, Except.bind, Answer.judge, same]

/-- A body that breaks off fails the operation. -/
theorem payloadIn_of_read_error {body : Body} {message : String}
    (broken : body.read = .error message) :
    payloadIn operation shape body
      = .error (.within operation (.transport (.brokenBody message))) := by
  simp only [payloadIn, broken]

/-- There is no payload in an empty body. -/
theorem payloadIn_of_read_nil {body : Body} (whole : body.read = .ok []) :
    payloadIn operation shape body = .ok none := by
  simp only [payloadIn, whole]

/-- Any other body is decoded. -/
theorem payloadIn_of_read {body : Body} (whole : body.read = .ok bytes) (filled : bytes ≠ []) :
    payloadIn operation shape body
      = (Json.decode shape bytes).mapError (.undecodable operation) := by
  cases bytes with
  | nil => exact absurd rfl filled
  | cons byte bytes =>
      simp only [payloadIn, whole]
      cases Json.decode shape (byte :: bytes) <;> rfl

/-- There is a payload if the status is the expected one and the body holds a value of the shape. -/
theorem payloadOf_eq_ok_iff {value : Json.Value} :
    payloadOf operation shape expected response = .ok value ↔
      response.status = expected ∧ ∃ bytes, response.body.read = .ok bytes ∧ bytes ≠ [] ∧
        Json.decode shape bytes = .ok (some value) := by
  by_cases same : response.status = expected
  · rw [payloadOf_of_eq same, and_iff_right same]
    cases whole : response.body.read with
    | error message => simp [payloadIn_of_read_error whole]
    | ok bytes =>
        by_cases filled : bytes = []
        · simp [payloadIn_of_read_nil (filled ▸ whole), filled]
        · rw [payloadIn_of_read whole filled]
          cases decodes : Json.decode shape bytes with
          | error error => simp [Except.mapError, decodes]
          | ok payload => cases payload <;> simp [Except.mapError, decodes, filled]
  · rw [payloadOf_of_ne same]
    exact iff_of_false nofun fun both => same both.1

/-- A response with the expected status whose body breaks off fails the operation. -/
theorem payloadOf_of_read_error (same : response.status = expected) {message : String}
    (broken : response.body.read = .error message) :
    payloadOf operation shape expected response
      = .error (.within operation (.transport (.brokenBody message))) := by
  rw [payloadOf_of_eq same, payloadIn_of_read_error broken]

/-- There is no payload in a response with the expected status if its body is empty or null. -/
theorem payloadOf_of_absent (same : response.status = expected)
    (whole : response.body.read = .ok bytes) (absent : bytes = [] ∨ Json.IsNull bytes) :
    payloadOf operation shape expected response = .error (.emptyResponse operation) := by
  rw [payloadOf_of_eq same]
  rcases absent with rfl | isNull
  · rw [payloadIn_of_read_nil whole]
  · rw [payloadIn_of_read whole isNull.ne_nil, Json.decode_eq_none_iff.mpr isNull]
    rfl

/-- A response with the expected status whose body cannot be decoded is told as such. -/
theorem payloadOf_of_decode_error (same : response.status = expected)
    (whole : response.body.read = .ok bytes) (filled : bytes ≠ []) {error : Json.DecodeError}
    (fails : Json.decode shape bytes = .error error) :
    payloadOf operation shape expected response = .error (.undecodable operation error) := by
  rw [payloadOf_of_eq same, payloadIn_of_read whole filled, fails]
  rfl

/-- A response with the expected status is not refused for its status. -/
theorem payloadOf_ne_unexpectedStatus (same : response.status = expected) {named : String}
    {wanted actual : Status} :
    payloadOf operation shape expected response
      ≠ .error (.unexpectedStatus named wanted actual) := by
  rw [payloadOf_of_eq same]
  cases whole : response.body.read with
  | error message => simp [payloadIn_of_read_error whole]
  | ok bytes =>
      by_cases filled : bytes = []
      · simp [payloadIn_of_read_nil (filled ▸ whole)]
      · rw [payloadIn_of_read whole filled]
        cases Json.decode shape bytes with
        | error error => simp [Except.mapError]
        | ok payload => cases payload <;> simp [Except.mapError]

/-! ## Runs -/

section Runs

variable {σ : Type} (client : Client) (request : Request)
  (respond : (effect : Effect) → σ → effect.Answer × σ) (state : σ)

/-- A call for a payload ends with the verdict on its response. -/
theorem run_sendJson :
    ((client.sendJson operation shape expected request).run respond state).1 =
      match ((client.execute request).run respond state).1 with
      | .error failure => .error (.within operation failure)
      | .ok response => payloadOf operation shape expected response := by
  rw [sendJson, Call.run_bind]
  cases ((client.execute request).run respond state).1 <;> rfl

/-- A call for a status ends with the verdict on its response. -/
theorem run_sendNoContent :
    ((client.sendNoContent operation expected request).run respond state).1 =
      match ((client.execute request).run respond state).1 with
      | .error failure => .error (.within operation failure)
      | .ok response =>
          if response.status = expected then .ok ()
          else .error (.ofStatus operation expected response.status response.attempts) := by
  rw [sendNoContent, Call.run_bind]
  cases ((client.execute request).run respond state).1 with
  | error failure => rfl
  | ok response => exact Answer.judge_of_payload

/-- The requests of a call for a payload are those of the call for its response. -/
theorem requests_sendJson :
    ((client.sendJson operation shape expected request).exchanges respond state).requests
      = ((client.execute request).exchanges respond state).requests := by
  rw [sendJson, Call.exchanges_bind, Trace.requests_append]
  cases ((client.execute request).run respond state).1 <;> exact List.append_nil _

/-- The requests of a call for a status are those of the call for its response. -/
theorem requests_sendNoContent :
    ((client.sendNoContent operation expected request).exchanges respond state).requests
      = ((client.execute request).exchanges respond state).requests := by
  rw [sendNoContent, Call.exchanges_bind, Trace.requests_append]
  cases ((client.execute request).run respond state).1 <;> exact List.append_nil _

end Runs

end Client

/-! ## Retryable statuses -/

/-- A series that ends with a retryable status has made all its attempts, and tells so. -/
theorem RetryPolicy.Attempts.attempts_of_retryable {policy : RetryPolicy} {request : Request}
    {endpoint : String} {made : Nat} {trace : Trace} {response : Response}
    (attempts : policy.Attempts .base request endpoint made trace (.ok response))
    (retryable : response.status.isRetryable = true) :
    response.attempts = some policy.maxAttempts ∧
      made + trace.requests.length = policy.maxAttempts := by
  obtain ⟨earlier, last, waits, outcomes, _, _, ending⟩ := attempts.split
  rw [Trace.length_requests, outcomes, List.length_append, List.length_singleton, ← Nat.add_assoc]
  generalize result : (.ok response : Outcome) = outcome at ending
  cases ending with
  | settled _ final =>
      subst result
      rw [Outcome.isRetryable, retryable] at final
      cases final
  | exhausted spent _ =>
      refine ⟨?_, spent⟩
      cases last with
      | ok given =>
          rw [Except.ok.inj result]
      | error failure => cases result
  | interrupted _ _ cause => cases result

namespace ClientConfig

/-- A call that ends with a retryable status has made all its attempts, and tells so. -/
theorem Course.attempts_of_retryable {config : ClientConfig} {request : Request} {trace : Trace}
    {response : Response} (course : config.Course .base request trace (.ok response))
    (retryable : response.status.isRetryable = true) :
    response.attempts = some config.retryPolicy.maxAttempts ∧
      trace.requests.length = config.retryPolicy.maxAttempts := by
  cases course with
  | attempted admits whole attempts =>
      simpa [Trace.requests_cons, Exchange.request?, admits.requests_eq_nil]
        using attempts.attempts_of_retryable retryable

/-- A verdict on a status that is not the expected one. A retryable status is told with the number
of attempts, and as many requests were sent; any other one is told with the expected one. -/
theorem Course.verdict {config : ClientConfig} {request : Request} {trace : Trace}
    {response : Response} (course : config.Course .base request trace (.ok response))
    (operation : String) (expected : Status) :
    let limit := min (config.maxRetries + 1) (UInt64.size - 1)
    let code := response.status.code
    let failure := Failure.ofStatus operation expected response.status response.attempts
    (code = 429 ∧ failure = .rateLimited operation (some limit) ∧ trace.requests.length = limit) ∨
      (500 ≤ code ∧ code ≤ 599 ∧ failure = .server operation response.status (some limit) ∧
        trace.requests.length = limit) ∨
      (code ≠ 429 ∧ ¬ (500 ≤ code ∧ code ≤ 599) ∧
        failure = .unexpectedStatus operation expected response.status) := by
  intro limit code failure
  have limited : config.retryPolicy.maxAttempts = limit := rfl
  cases known : response.status.isRetryable with
  | true =>
      obtain ⟨tagged, sent⟩ := course.attempts_of_retryable known
      have verdict : failure = _ := Failure.ofStatus_of_retryable known
      rw [tagged, limited] at verdict
      rw [limited] at sent
      rcases (response.status.isRetryable_iff).mp known with tooMany | ⟨least, most⟩
      · rw [if_pos tooMany] at verdict
        exact .inl ⟨tooMany, verdict, sent⟩
      · rw [if_neg (by omega)] at verdict
        exact .inr (.inl ⟨least, most, verdict, sent⟩)
  | false =>
      have outside := mt (response.status.isRetryable_iff).mpr (Bool.eq_false_iff.mp known)
      obtain ⟨notTooMany, noServerError⟩ := not_or.mp outside
      exact .inr (.inr ⟨notTooMany, noServerError, Failure.ofStatus_of_final known⟩)

/-- The law of verdicts. In any surroundings, a call for a payload succeeds with a value just if the
last response has the expected status and its body holds the value, and a call for a status just if
the last response has it. On any other status both fail in the same way: by a server error or by too
many requests only after the greatest number of attempts, which is told, and else by a status that
is not retryable. A failure of the layers is named for the operation, and nothing else about it is
changed. With the expected status, a payload that is missing, malformed or broken off is told as
such. -/
theorem verdicts_of_run {σ : Type} (config : ClientConfig) (request : Request)
    (operation : String) (shape : Json.Shape) (expected : Status)
    (respond : (effect : Effect) → σ → effect.Answer × σ) (state : σ) :
    let client := Client.ofConfig config .base []
    let withPayload := client.sendJson operation shape expected request
    let withStatus := client.sendNoContent operation expected request
    let limit := min (config.maxRetries + 1) (UInt64.size - 1)
    let final := ((client.execute request).run respond state).1
    let payload := (withPayload.run respond state).1
    let confirmation := (withStatus.run respond state).1
    (∀ value, payload = .ok value ↔
        ∃ response bytes, final = .ok response ∧ response.status = expected ∧
          response.body.read = .ok bytes ∧ bytes ≠ [] ∧
          Json.decode shape bytes = .ok (some value) ∧ value ≠ .null) ∧
      (confirmation = .ok () ↔ ∃ response, final = .ok response ∧ response.status = expected) ∧
      (∀ response, final = .ok response → response.status ≠ expected →
        let code := response.status.code
        let allMade := (withPayload.exchanges respond state).requests.length = limit ∧
          (withStatus.exchanges respond state).requests.length = limit
        ∃ failure, payload = .error failure ∧ confirmation = .error failure ∧
          ((code = 429 ∧ failure = .rateLimited operation (some limit) ∧ allMade) ∨
            (500 ≤ code ∧ code ≤ 599 ∧ failure = .server operation response.status (some limit) ∧
              allMade) ∨
            (code ≠ 429 ∧ ¬ (500 ≤ code ∧ code ≤ 599) ∧
              failure = .unexpectedStatus operation expected response.status))) ∧
      (∀ named wanted actual, payload = .error (.unexpectedStatus named wanted actual) ∨
          confirmation = .error (.unexpectedStatus named wanted actual) →
        actual.code ≠ 429 ∧ ¬ (500 ≤ actual.code ∧ actual.code ≤ 599)) ∧
      (∀ failure, final = .error failure →
        let named := Failure.within operation failure
        payload = .error named ∧ confirmation = .error named ∧ named.kind = failure.kind ∧
          named.cancelCause? = failure.cancelCause? ∧ named.attempts? = failure.attempts?) ∧
      ∀ response, final = .ok response → response.status = expected →
        (∀ message, response.body.read = .error message →
          payload = .error (.within operation (.transport (.brokenBody message)))) ∧
        ∀ bytes, response.body.read = .ok bytes →
          (bytes = [] ∨ Json.IsNull bytes → payload = .error (.emptyResponse operation)) ∧
          ∀ error, bytes ≠ [] → Json.decode shape bytes = .error error →
            payload = .error (.undecodable operation error) := by
  intro client withPayload withStatus limit final payload confirmation
  obtain ⟨payloadIs, confirmationIs⟩ :
      (payload = match final with
        | .error failure => .error (.within operation failure)
        | .ok response => Client.payloadOf operation shape expected response) ∧
      (confirmation = match final with
        | .error failure => .error (.within operation failure)
        | .ok response =>
            if response.status = expected then .ok ()
            else .error (.ofStatus operation expected response.status response.attempts)) :=
    ⟨Client.run_sendJson client request respond state,
      Client.run_sendNoContent client request respond state⟩
  have payloadCalls : (withPayload.exchanges respond state).requests = _ :=
    Client.requests_sendJson client request respond state
  have statusCalls : (withStatus.exchanges respond state).requests = _ :=
    Client.requests_sendNoContent client request respond state
  rw [payloadCalls, statusCalls]
  obtain ⟨during, course, requests, _⟩ :
      ∃ during : Trace, config.Course .base (config.credited request) during final ∧
        ((client.execute request).exchanges respond state).requests = during.requests ∧
        ((client.execute request).exchanges respond state).waits = during.waits :=
    exists_course_of_run config .base request respond state
  rw [requests]
  -- From here on only the last outcome matters.
  clear_value final payload confirmation
  cases final with
  | error failure =>
      rw [payloadIs, confirmationIs]
      refine ⟨by simp, by simp, nofun, by simp, ?_, nofun⟩
      rintro other same
      obtain rfl := Except.error.inj same
      exact ⟨rfl, rfl, rfl, rfl, rfl⟩
  | ok response =>
      have verdict := course.verdict operation expected
      simp only at payloadIs confirmationIs
      rw [payloadIs, confirmationIs]
      refine ⟨fun value => ?_, ?_, ?_, ?_, nofun, ?_⟩
      · rw [Client.payloadOf_eq_ok_iff]
        constructor
        · rintro ⟨same, bytes, whole, filled, decodes⟩
          exact ⟨response, bytes, rfl, same, whole, filled, decodes, Json.ne_null_of_decode decodes⟩
        · rintro ⟨other, bytes, equal, same, whole, filled, decodes, _⟩
          obtain rfl := Except.ok.inj equal
          exact ⟨same, bytes, whole, filled, decodes⟩
      · by_cases same : response.status = expected <;> simp [same]
      · intro other equal different
        obtain rfl := Except.ok.inj equal
        rw [Client.payloadOf_of_ne different, if_neg different]
        refine ⟨_, rfl, rfl, ?_⟩
        simpa only [and_self] using verdict
      · intro named wanted actual failed
        by_cases same : response.status = expected
        · rw [if_pos same] at failed
          exact (failed.elim (Client.payloadOf_ne_unexpectedStatus same) nofun).elim
        · rw [Client.payloadOf_of_ne same, if_neg same] at failed
          have final := Failure.isRetryable_of_ofStatus
            (failed.elim Except.error.inj Except.error.inj)
          rw [Bool.eq_false_iff, Ne, Status.isRetryable_iff] at final
          exact not_or.mp final
      · intro other equal same
        obtain rfl := Except.ok.inj equal
        refine ⟨fun message => Client.payloadOf_of_read_error same, fun bytes whole => ⟨?_, ?_⟩⟩
        · exact Client.payloadOf_of_absent same whole
        · intro error filled fails
          exact Client.payloadOf_of_decode_error same whole filled fails

end ClientConfig

end Outbound
