import Outbound.Proofs.Admission.Accounting
import Outbound.Proofs.Call.Replay
import Outbound.Proofs.Client.Requests

/-! # Places in the trace of a call

Where an exchange of a call can stand depends on what comes before and behind it: a request is the
first one or directly follows a wait that went well, and behind a wait that was interrupted the call
only ends.

* `Trace.Placed` lists the places that an exchange of a call can have.
* `RetryPolicy.Attempts.placed`, `Admission.Grants.placed` and `ClientConfig.Course.placed` find the
  places in the traces of the single layers.
* `ClientConfig.placed_of_yields` says that every exchange of a call has such a place. -/

namespace Outbound

/-! ## Places in a call -/

namespace Trace

/-- What a trace did about tokens and requests. -/
def dealings (trace : Trace) : List Effect :=
  (trace.map Exchange.effect).filter Effect.isDealing

@[simp] theorem dealings_nil : dealings [] = [] := rfl

/-- What the first exchange did comes first. -/
theorem dealings_cons (exchange : Exchange) (trace : Trace) :
    dealings (exchange :: trace)
      = (if exchange.effect.isDealing then [exchange.effect] else []) ++ dealings trace := by
  cases known : exchange.effect.isDealing <;> simp [dealings, known]

@[simp] theorem dealings_append (front back : Trace) :
    dealings (front ++ back) = dealings front ++ dealings back := by
  simp [dealings]

/-- Nothing is done about tokens and requests in a quiet trace. -/
theorem Quiet.dealings_eq_nil {trace : Trace} (quiet : trace.Quiet) : trace.dealings = [] := by
  refine List.filter_eq_nil_iff.mpr ?_
  rintro _ member
  obtain ⟨⟨effect, _⟩, inside, rfl⟩ := List.mem_map.mp member
  have telling : effect.isTelling = true := quiet _ inside
  cases effect <;> first | exact Bool.false_ne_true | cases telling

/-- A call gives way nowhere in a quiet trace. -/
theorem Quiet.prompt {trace : Trace} (quiet : trace.Quiet) : trace.Prompt := by
  rintro ⟨effect, _⟩ member
  have telling : effect.isTelling = true := quiet _ member
  cases effect <;> first | rfl | cases telling

/-- A request may be sent behind a trace if it is the first one, or if the trace ends with a wait
that went well. -/
def MaySend (sleeper : Sleeper) (context : Context) (trace : Trace) : Prop :=
  trace.requests = [] ∨
    ∃ before delay, trace = before ++ [⟨.wait sleeper context delay, .ok ()⟩]

/-- The places of an exchange in a call that ends with an outcome. The call only gives way when it
sends a request, which it may do there, and when it waits. Behind a wait that was interrupted, only
the token is put back, if it was the wait for that, and the call fails. -/
inductive Placed (sleeper : Sleeper) (context : Context) (outcome : Outcome) :
    Trace → Exchange → Trace → Prop where
  /-- Anything in which the call does not give way. -/
  | prompt {front back : Trace} {exchange : Exchange}
      (prompt : exchange.effect.suspends = false) :
      Placed sleeper context outcome front exchange back
  /-- A request that may be sent. -/
  | sent {front back : Trace} {request : Request} {answer : Outcome}
      (maySend : front.MaySend sleeper context) :
      Placed sleeper context outcome front ⟨.send request, answer⟩ back
  /-- A wait that goes well. -/
  | waited {front back : Trace} {delay : Duration} :
      Placed sleeper context outcome front ⟨.wait sleeper context delay, .ok ()⟩ back
  /-- The wait for a token, when it is interrupted. -/
  | refused {front back : Trace} {bucket : BucketId} {delay : Duration} {label : String}
      {cause : CancelCause} (unsent : front.requests = [])
      (took : front.dealings = [.reserve bucket]) (quiet : back.Quiet)
      (fails : outcome = .error (.rateLimitWait label cause)) :
      Placed sleeper context outcome front ⟨.wait sleeper context delay, .error cause⟩
        (⟨.giveBack bucket, ()⟩ :: back)
  /-- The wait for another attempt, when it is interrupted. -/
  | aborted {front back : Trace} {delay : Duration} {cause : CancelCause}
      (sent : front.requests ≠ []) (quiet : back.Quiet)
      (fails : outcome = .error
        (.retryAborted front.requests.length (.cancelled "retry backoff" cause))) :
      Placed sleeper context outcome front ⟨.wait sleeper context delay, .error cause⟩ back

variable {sleeper : Sleeper} {context : Context} {outcome : Outcome}

/-- What is only told behind a call changes no place. -/
theorem Placed.append {front back behind : Trace} {exchange : Exchange} (quiet : behind.Quiet)
    (placed : Placed sleeper context outcome front exchange back) :
    Placed sleeper context outcome front exchange (back ++ behind) := by
  cases placed with
  | prompt prompt => exact .prompt prompt
  | sent maySend => exact .sent maySend
  | waited => exact .waited
  | refused unsent took quietBack fails =>
      exact .refused unsent took (quiet_append.mpr ⟨quietBack, quiet⟩) fails
  | aborted sent quietBack fails => exact .aborted sent (quiet_append.mpr ⟨quietBack, quiet⟩) fails

/-- All exchanges of a prompt trace have such a place, wherever it stands. -/
theorem Prompt.placed {trace : Trace} (prompt : trace.Prompt) (toFront toBack : Trace → Trace) :
    trace.AtEach fun front exchange back =>
      Placed sleeper context outcome (toFront front) exchange (toBack back) :=
  atEach_of_forall fun exchange member _ _ => .prompt (prompt exchange member)

end Trace

/-! ## The places of attempts -/

namespace RetryPolicy

variable {policy : RetryPolicy} {request : Request} {endpoint : String}

open Trace (Placed)

/-- A pause is a wait behind some prompt telling. -/
theorem exists_pauseTrace (policy : RetryPolicy) (context : Context) (endpoint : String)
    (made : Nat) (outcome : Outcome) (ending : Except CancelCause Unit) :
    ∃ (news : Trace) (delay : Duration), news.Prompt ∧
      policy.pauseTrace context endpoint made outcome ending
        = news ++ [⟨.wait policy.sleeper context delay, ending⟩] := by
  refine ⟨_, _, ?_, rfl⟩
  have discards : (discardTrace outcome).Prompt := by
    cases outcome <;> simp [discardTrace, Trace.Prompt, Effect.suspends]
  refine Trace.prompt_append.mpr ⟨Trace.prompt_append.mpr ⟨?_, ?_⟩, discards⟩
  · exact (Trace.quiet_told _ rfl).prompt
  · exact (Trace.quiet_told _ rfl).prompt

/-- An attempt has its place where a request may be sent; all behind it may have theirs. -/
theorem atEach_send {sleeper : Sleeper} {context : Context} {result answer : Outcome}
    {prior others : Trace} (maySend : prior.MaySend sleeper context)
    (placed : others.AtEach fun front exchange back =>
      Placed sleeper context result (prior ++ ⟨.send request, answer⟩ :: front) exchange back) :
    Trace.AtEach (fun front exchange back =>
        Placed sleeper context result (prior ++ front) exchange back)
      (⟨.send request, answer⟩ :: others) := by
  refine Trace.atEach_cons.mpr ⟨?_, placed⟩
  rw [List.append_nil]
  exact .sent maySend

/-- The exchanges of a series of attempts have their places behind what came before it. -/
theorem Attempts.placed {made : Nat} {trace : Trace} {result : Outcome}
    (attempts : policy.Attempts .base request endpoint made trace result) (prior : Trace)
    (counted : prior.requests.length = made)
    (maySend : prior.MaySend policy.sleeper request.callContext) :
    trace.AtEach fun front exchange back =>
      Placed policy.sleeper request.callContext result (prior ++ front) exchange back := by
  induction attempts generalizing prior with
  | settled attempt _ _ =>
      obtain rfl := Call.yields_perform_iff.mp attempt
      exact atEach_send maySend Trace.atEach_nil
  | exhausted attempt _ _ =>
      obtain rfl := Call.yields_perform_iff.mp attempt
      exact atEach_send maySend ((Trace.quiet_told _ rfl).prompt.placed _ id)
  | @interrupted made sent outcome attempt _ _ cause =>
      obtain rfl := Call.yields_perform_iff.mp attempt
      obtain ⟨news, delay, prompt, pause⟩ :=
        exists_pauseTrace policy request.callContext endpoint made outcome (.error cause)
      rw [pause, List.singleton_append]
      refine atEach_send maySend (Trace.atEach_append.mpr ⟨prompt.placed _ _, ?_⟩)
      refine Trace.atEach_cons.mpr ⟨.aborted ?_ Trace.quiet_nil ?_, Trace.atEach_nil⟩
      · simp [Trace.requests_cons, Exchange.request?]
      · simp [Trace.requests_cons, Exchange.request?, prompt.requests_eq_nil, counted]
  | @repeated made sent rest outcome result attempt _ _ _ inductionHypothesis =>
      obtain rfl := Call.yields_perform_iff.mp attempt
      obtain ⟨news, delay, prompt, pause⟩ :=
        exists_pauseTrace policy request.callContext endpoint made outcome (.ok ())
      rw [pause, List.singleton_append, List.append_assoc]
      refine atEach_send maySend (Trace.atEach_append.mpr ⟨prompt.placed _ _, ?_⟩)
      refine Trace.atEach_cons.mpr ⟨.waited, ?_⟩
      -- The attempts that are left stand behind the wait.
      have others := inductionHypothesis (prior ++ ⟨.send request, outcome⟩ :: (news ++
        [⟨.wait policy.sleeper request.callContext delay, .ok ()⟩])) ?_ ?_
      · simpa using others
      · simp [Trace.requests_cons, Exchange.request?, prompt.requests_eq_nil, counted]
      · exact .inr ⟨prior ++ ⟨.send request, outcome⟩ :: news, delay, by simp⟩

/-- Nothing is done about tokens and requests in a pause. -/
theorem dealings_pauseTrace (context : Context) (made : Nat) (outcome : Outcome)
    (ending : Except CancelCause Unit) :
    (policy.pauseTrace context endpoint made outcome ending).dealings = [] := by
  cases sink : policy.sink <;> cases outcome <;>
    · rw [pauseTrace, sink]
      rfl

/-- A series of attempts sends its requests and takes no tokens. -/
theorem Attempts.dealings_eq {made : Nat} {trace : Trace} {result : Outcome}
    (attempts : policy.Attempts .base request endpoint made trace result) :
    trace.dealings = trace.requests.map .send := by
  have sent (outcome : Outcome) : Trace.dealings [⟨.send request, outcome⟩] = [.send request] := rfl
  have asked (outcome : Outcome) : Trace.requests [⟨.send request, outcome⟩] = [request] := rfl
  induction attempts with
  | settled attempt _ _ =>
      obtain rfl := Call.yields_perform_iff.mp attempt
      rfl
  | exhausted attempt _ _ =>
      obtain rfl := Call.yields_perform_iff.mp attempt
      rw [Trace.dealings_append, Trace.requests_append, sent, asked, requests_exhaustedTrace,
        exhaustedTrace, (Trace.quiet_told _ rfl).dealings_eq_nil]
      rfl
  | interrupted attempt _ _ _ =>
      obtain rfl := Call.yields_perform_iff.mp attempt
      rw [Trace.dealings_append, Trace.requests_append, sent, asked, requests_pauseTrace,
        dealings_pauseTrace]
      rfl
  | repeated attempt _ _ _ inductionHypothesis =>
      obtain rfl := Call.yields_perform_iff.mp attempt
      rw [Trace.dealings_append, Trace.requests_append, Trace.dealings_append,
        Trace.requests_append, sent, asked, requests_pauseTrace, dealings_pauseTrace,
        inductionHypothesis]
      rfl

end RetryPolicy

/-! ## The places of a whole call -/

/-- The exchanges of an admission have their places. Behind a refusal nothing may be done, and it is
the outcome of the call. -/
theorem Admission.Grants.placed {admission : Admission} {request : Request} {trace : Trace}
    {answer : Except Failure Unit} (grants : admission.Grants request trace answer)
    {prior : Trace} (quiet : prior.Quiet) (behind : Trace) (outcome : Outcome)
    (fails : ∀ failure, answer = .error failure → behind = [] ∧ outcome = .error failure) :
    trace.AtEach fun front exchange back =>
      Trace.Placed admission.sleeper request.callContext outcome (prior ++ front) exchange
        (back ++ behind) := by
  cases grants with
  | bypassed => exact Trace.atEach_nil
  | atOnce => exact Trace.atEach_cons.mpr ⟨.prompt rfl, Trace.atEach_nil⟩
  | waited selected later =>
      refine Trace.atEach_cons.mpr ⟨.prompt rfl, Trace.atEach_append.mpr ⟨?_, ?_⟩⟩
      · exact (quiet_tellsWait _ _).prompt.placed _ _
      · exact Trace.atEach_cons.mpr ⟨.waited, Trace.atEach_nil⟩
  | @refused bucket selected delay later cause =>
      obtain ⟨rfl, failed⟩ := fails _ rfl
      have tells : (admission.tellsWait (admission.selector request).label delay).Quiet :=
        quiet_tellsWait _ _
      refine Trace.atEach_cons.mpr ⟨.prompt rfl, Trace.atEach_append.mpr ⟨?_, ?_⟩⟩
      · exact tells.prompt.placed _ _
      · refine Trace.atEach_cons.mpr ⟨?_, Trace.atEach_cons.mpr ⟨.prompt rfl, Trace.atEach_nil⟩⟩
        refine .refused ?_ ?_ Trace.quiet_nil failed
        · simp [Trace.requests_cons, Exchange.request?, quiet.requests_eq_nil,
            tells.requests_eq_nil]
        · simp [Trace.dealings_cons, Effect.isDealing, quiet.dealings_eq_nil,
            tells.dealings_eq_nil]

namespace ClientConfig

variable {config : ClientConfig} {request : Request} {trace : Trace} {outcome : Outcome}

/-- The waits of an admission are carried out as all waits of the client are. -/
theorem sleeper_of_admission {admission : Admission} (limit : config.admission = some admission) :
    admission.sleeper = config.sleeper := by
  obtain ⟨_, rfl, _⟩ := exists_of_admission limit
  rfl

/-- The exchanges of the admission of a call have their places. -/
theorem Admits.placed {answer : Except Failure Unit} (admits : config.Admits request trace answer)
    {prior : Trace} (quiet : prior.Quiet) (behind : Trace) (outcome : Outcome)
    (fails : ∀ failure, answer = .error failure → behind = [] ∧ outcome = .error failure) :
    trace.AtEach fun front exchange back =>
      Trace.Placed config.sleeper request.callContext outcome (prior ++ front) exchange
        (back ++ behind) := by
  cases admits with
  | unlimited _ => exact Trace.atEach_nil
  | limited limit grants =>
      rw [← sleeper_of_admission limit]
      exact grants.placed quiet behind outcome fails

/-- The exchanges of a call have their places behind what is told before. -/
theorem Course.placed (course : config.Course .base request trace outcome) {prior : Trace}
    (quiet : prior.Quiet) :
    trace.AtEach fun front exchange back =>
      Trace.Placed config.sleeper request.callContext outcome (prior ++ front) exchange back := by
  cases course with
  | @refused trace failure admits =>
      have placed := admits.placed quiet [] (.error failure) fun _ same =>
        ⟨rfl, congrArg Except.error (Except.error.inj same)⟩
      simpa only [List.append_nil] using placed
  | @unread trace failure admits _ =>
      have placed := admits.placed quiet [] (.error failure) nofun
      simpa only [List.append_nil] using placed
  | @attempted admission series endpoint body result admits whole attempts =>
      refine Trace.atEach_append.mpr ⟨admits.placed quiet _ _ nofun, ?_⟩
      refine Trace.atEach_cons.mpr ⟨.prompt rfl, ?_⟩
      let start : Trace := prior ++ (admission ++ [⟨.template .shared request.uri.path, endpoint⟩])
      have unsent : start.requests = [] := by
        simp [start, Trace.requests_cons, Exchange.request?, quiet.requests_eq_nil,
          admits.requests_eq_nil]
      have placed := attempts.placed start (by rw [unsent]; rfl) (.inl unsent)
      simp only [start, List.append_assoc, List.cons_append, List.nil_append] at placed
      exact placed

/-- The exchanges of a call have their places. -/
theorem placed_of_yields
    (yields : ((Client.ofConfig config .base []).execute request).Yields trace outcome) :
    trace.AtEach (Trace.Placed config.sleeper request.callContext outcome) := by
  obtain ⟨before, during, behind, rfl, quietBefore, quietBehind, course⟩ := course_of_yields yields
  rw [Trace.atEach_append, Trace.atEach_append]
  refine ⟨quietBefore.prompt.placed id _, ?_, quietBehind.prompt.placed _ id⟩
  have placed := course.placed quietBefore
  rw [callContext_credited] at placed
  intro front exchange back split
  exact (placed front exchange back split).append quietBehind

end ClientConfig

end Outbound
