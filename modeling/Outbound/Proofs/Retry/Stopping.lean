import Mathlib.Order.Bounds.Basic
import Outbound.Proofs.Retry.Attempts

/-! # Where repeated attempts stop

A repeated call may stop at the number of an attempt whose outcome is not retryable, at the greatest
number of attempts, and at the number of an attempt whose wait was interrupted. It stops at the
least number at which it may.

* `RetryPolicy.Attempts.split` finds the last attempt of a series: all earlier ones were retryable
  and were followed by a wait that was not interrupted.
* `RetryPolicy.Ending.stopsAt` and `RetryPolicy.le_of_stopsAt` say that the series may stop at its
  last attempt and at no earlier one.
* `RetryPolicy.attempts_of_run` is the law of a whole run: as many attempts are made as the least
  such number, and a count that the result tells is the number of attempts made. -/

namespace Outbound

namespace RetryPolicy

variable {policy : RetryPolicy} {request : Request} {endpoint : String}

/-! ## The last attempt -/

/-- How a series ends with its last attempt: the waits behind that attempt, of which there is at
most one, and the outcome of the series. -/
inductive Ending (policy : RetryPolicy) (count : Nat) (last : Outcome) :
    List (Except CancelCause Unit) → Outcome → Prop where
  /-- The last outcome is not retryable. -/
  | settled (within : count ≤ policy.maxAttempts) (final : Outcome.isRetryable last = false) :
      Ending policy count last [] last
  /-- There are no attempts left. -/
  | exhausted (spent : count = policy.maxAttempts) (retryable : Outcome.isRetryable last = true) :
      Ending policy count last [] (policy.giveUp last)
  /-- The wait for the next attempt is interrupted. -/
  | interrupted (spare : count < policy.maxAttempts)
      (retryable : Outcome.isRetryable last = true) (cause : CancelCause) :
      Ending policy count last [.error cause]
        (.error (.retryAborted count (.cancelled "retry backoff" cause)))

/-- No series ends beyond the greatest number of attempts. -/
theorem Ending.count_le {count : Nat} {last result : Outcome}
    {waits : List (Except CancelCause Unit)} (ending : policy.Ending count last waits result) :
    count ≤ policy.maxAttempts := by
  cases ending with
  | settled within _ => exact within
  | exhausted spent _ => exact spent.le
  | interrupted spare _ _ => exact spare.le

/-- A series of attempts at the base is taken apart at its last attempt. -/
theorem Attempts.split {made : Nat} {trace : Trace} {result : Outcome}
    (attempts : policy.Attempts .base request endpoint made trace result) :
    ∃ earlier last waits,
      trace.outcomes = earlier ++ [last] ∧
        (∀ outcome ∈ earlier, Outcome.isRetryable outcome = true) ∧
        trace.waits = List.replicate earlier.length (.ok ()) ++ waits ∧
        policy.Ending (made + earlier.length + 1) last waits result := by
  induction attempts with
  | settled attempt within final =>
      obtain rfl := Call.yields_perform_iff.mp attempt
      exact ⟨[], _, [], rfl, by simp, rfl, .settled within final⟩
  | exhausted attempt spent retryable =>
      obtain rfl := Call.yields_perform_iff.mp attempt
      refine ⟨[], _, [], ?_, by simp, ?_, .exhausted spent retryable⟩
      · simp [Trace.outcomes_cons, Exchange.outcome?]
      · simp [Trace.waits_cons, Exchange.waited?]
  | interrupted attempt spare retryable cause =>
      obtain rfl := Call.yields_perform_iff.mp attempt
      refine ⟨[], _, [.error cause], ?_, by simp, ?_, .interrupted spare retryable cause⟩
      · simp [Trace.outcomes_cons, Exchange.outcome?]
      · simp [Trace.waits_cons, Exchange.waited?]
  | @repeated made sent rest outcome result attempt spare retryable others inductionHypothesis =>
      obtain rfl := Call.yields_perform_iff.mp attempt
      -- The first attempt is one of the earlier ones; the last one is that of the others.
      obtain ⟨earlier, last, waits, outcomes, allRetryable, waited, ending⟩ := inductionHypothesis
      refine ⟨outcome :: earlier, last, waits, ?_, ?_, ?_, ?_⟩
      · simp [Trace.outcomes_cons, Exchange.outcome?, outcomes]
      · simpa [retryable] using allRetryable
      · simp [Trace.waits_cons, Exchange.waited?, waited, List.replicate_succ]
      · have sameCount : made + (outcome :: earlier).length + 1
            = made + 1 + earlier.length + 1 := by
          simp only [List.length_cons]
          omega
        rw [sameCount]
        exact ending

/-! ## Where a run may stop -/

/-- A call may stop at an attempt of some number: its outcome is not retryable, no further attempt
is allowed, or the wait behind it was interrupted. -/
def StopsAt (policy : RetryPolicy) (calls : Trace) (number : Nat) : Prop :=
  (∃ outcome, calls.outcomes[number - 1]? = some outcome ∧ ¬ Outcome.Retryable outcome) ∨
    number = min (policy.maxRetries + 1) (UInt64.size - 1) ∨
    ∃ cause, calls.waits[number - 1]? = some (.error cause)

/-- The greatest number of attempts is one more than the retries, as far as it can be counted. -/
theorem maxAttempts_eq (policy : RetryPolicy) :
    policy.maxAttempts = min (policy.maxRetries + 1) (UInt64.size - 1) := rfl

/-- A series may stop at its last attempt. -/
theorem Ending.stopsAt {calls : Trace} {earlier : List Outcome} {last result : Outcome}
    {waits : List (Except CancelCause Unit)}
    (ending : policy.Ending (earlier.length + 1) last waits result)
    (outcomes : calls.outcomes = earlier ++ [last])
    (waited : calls.waits = List.replicate earlier.length (.ok ()) ++ waits) :
    policy.StopsAt calls (earlier.length + 1) := by
  cases ending with
  | settled _ final =>
      left
      refine ⟨last, by simp [outcomes], fun retryable => ?_⟩
      rw [Outcome.isRetryable_eq_true_iff.mpr retryable] at final
      exact Bool.noConfusion final
  | exhausted spent _ => exact .inr (.inl spent)
  | interrupted _ _ cause => exact .inr (.inr ⟨cause, by simp [waited]⟩)

/-- A series may not stop earlier. -/
theorem le_of_stopsAt {calls : Trace} {earlier : List Outcome} {last : Outcome}
    {waits : List (Except CancelCause Unit)} {number : Nat}
    (within : earlier.length + 1 ≤ policy.maxAttempts)
    (outcomes : calls.outcomes = earlier ++ [last])
    (allRetryable : ∀ outcome ∈ earlier, Outcome.isRetryable outcome = true)
    (waited : calls.waits = List.replicate earlier.length (.ok ()) ++ waits)
    (positive : 1 ≤ number) (stops : policy.StopsAt calls number) :
    earlier.length + 1 ≤ number := by
  -- Earlier the outcome was retryable, the limit was not reached and the wait went well.
  by_contra early
  have inside : number - 1 < earlier.length := by omega
  rcases stops with ⟨outcome, found, final⟩ | limit | ⟨cause, found⟩
  · rw [outcomes, List.getElem?_append_left inside] at found
    exact final (Outcome.isRetryable_eq_true_iff.mp
      (allRetryable outcome (List.mem_of_getElem? found)))
  · rw [← maxAttempts_eq] at limit
    omega
  · rw [waited, List.getElem?_append_left (by simpa using inside),
      List.getElem?_replicate_of_lt inside] at found
    cases found

/-! ## Whole runs -/

/-- The law of a run of the repeating transport around any transport, in any surroundings. Its
calls of the inner transport are the requests of a run where the inner transport serves the
requests. There are as many as the least number at which the call may stop. The last outcome is the
result if it is not retryable; else it is tagged with the number of calls if that is the greatest
one, and else the last wait was interrupted and the result tells the number of calls. -/
theorem attempts_of_run {σ : Type} (policy : RetryPolicy) (inner : Transport) (request : Request)
    {body : Option Body} (whole : buffered request.body = .ok body)
    (respond : (effect : Effect) → σ → effect.Answer × σ) (state : σ) :
    let served := Call.serving respond inner
    let calls := (policy.transport .base request).exchanges served state
    let result := ((policy.transport inner request).run respond state).1
    let limit := min (policy.maxRetries + 1) (UInt64.size - 1)
    ∃ count last,
      (policy.transport inner request).run respond state
          = (policy.transport .base request).run served state ∧
        calls.outcomes.length = count ∧ calls.outcomes[count - 1]? = some last ∧
        IsLeast {number | 1 ≤ number ∧ policy.StopsAt calls number} count ∧
        count ≤ limit ∧ count < UInt64.size ∧
        ((¬ Outcome.Retryable last ∧ calls.waits.length = count - 1 ∧ result = last) ∨
          (Outcome.Retryable last ∧ count = limit ∧ calls.waits.length = count - 1 ∧
            ((∃ response, last = .ok response ∧
                result = .ok { response with attempts := some count }) ∨
              ∃ failure, last = .error failure ∧
                result = .error (.retriesExhausted count failure))) ∨
          (Outcome.Retryable last ∧ count < limit ∧
            ∃ cause, calls.waits[count - 1]? = some (.error cause) ∧
              result = .error (.retryAborted count (.cancelled "retry backoff" cause)))) := by
  intro served calls result limit
  have sameRun : (policy.transport inner request).run respond state
      = (policy.transport .base request).run served state := by
    rw [← through_transport, Call.run_through]
  have yields : (policy.transport .base request).Yields calls result := by
    have served := Call.yields_exchanges served (policy.transport .base request) state
    rwa [← sameRun] at served
  obtain ⟨endpoint, series, traced, attempts⟩ := attempts_of_yields_transport whole yields
  obtain ⟨earlier, last, waits, outcomes, allRetryable, waited, ending⟩ := attempts.split
  rw [Nat.zero_add] at ending
  have within := ending.count_le
  have limited : policy.maxAttempts = limit := policy.maxAttempts_eq
  -- Telling the template of the path is neither a request nor a wait.
  have callOutcomes : calls.outcomes = earlier ++ [last] := by
    rw [← outcomes, traced]
    exact Trace.outcomes_cons _ _
  have callWaits : calls.waits = List.replicate earlier.length (.ok ()) ++ waits := by
    rw [← waited, traced]
    exact Trace.waits_cons _ _
  refine ⟨earlier.length + 1, last, sameRun, by simp [callOutcomes], by simp [callOutcomes],
    ⟨⟨by omega, ending.stopsAt callOutcomes callWaits⟩, ?_⟩, limited ▸ within, ?_, ?_⟩
  · rintro number ⟨positive, stops⟩
    exact le_of_stopsAt within callOutcomes allRetryable callWaits positive stops
  · have below : limit ≤ UInt64.size - 1 := Nat.min_le_right _ _
    have positive : 0 < UInt64.size := by decide
    omega
  · clear_value result
    cases ending with
    | settled _ final =>
        left
        refine ⟨fun retryable => ?_, by simp [callWaits], rfl⟩
        rw [Outcome.isRetryable_eq_true_iff.mpr retryable] at final
        exact Bool.noConfusion final
    | exhausted spent retryable =>
        right
        left
        refine ⟨Outcome.isRetryable_eq_true_iff.mp retryable, spent.trans limited,
          by simp [callWaits], ?_⟩
        rw [giveUp.eq_def, ← spent]
        cases last with
        | ok response => exact .inl ⟨response, rfl, rfl⟩
        | error failure => exact .inr ⟨failure, rfl, rfl⟩
    | interrupted spare retryable cause =>
        right
        right
        exact ⟨Outcome.isRetryable_eq_true_iff.mp retryable, limited ▸ spare, cause,
          by simp [callWaits], rfl⟩

/-- A server that always fails is called twice if one retry is allowed. -/
theorem attempts_of_run_failing_server :
    let policy : RetryPolicy := { maxRetries := 1 }
    let request : Request := { method := .get, uri := ⟨none, none, "/", none⟩ }
    let failing := Call.steady (.ok ⟨1, ⟨503, by decide⟩, .empty, .empty, none⟩) (.ok ())
    let calls := (policy.transport .base request).exchanges (Call.serving failing .base) ()
    buffered request.body = .ok none ∧
      ∃ count, count = 2 ∧ IsLeast {number | 1 ≤ number ∧ policy.StopsAt calls number} count := by
  intro policy request failing calls
  obtain ⟨count, _, _, made, _, least, _⟩ :=
    attempts_of_run policy .base request rfl failing ()
  exact ⟨rfl, count, made.symm.trans rfl, least⟩

end RetryPolicy

end Outbound
