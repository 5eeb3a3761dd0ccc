import Outbound.Proofs.Bucket.Conservation

/-! # The deficit of a bucket

The balance of a bucket falls below zero when tokens are promised that do not exist yet. Every token
that is missing is missing for someone who waits: whatever is reserved, cancelled and taken at once,
and in whatever order, the deficit never exceeds the number of reservations that are still waited
for.

* `Ledger.waiting` are the reservations that are waited for now, and `Ledger.unready` the tokens
  that will not be ready by some later instant.
* `Ledger.Covered` is the invariant. What is said of now alone is not kept by every step, so it
  speaks of all instants to come; `Ledger.Covered.step` says that every step keeps it.
* `Ledger.deficit_le_waiting` is the law of all runs, with the longest delay of a next
  reservation. -/

namespace Outbound

namespace Ledger

variable {terms : Terms} {before after ledger : Ledger terms}

/-! ## Tokens that are not ready -/

/-- The reservations that were not cancelled and are not ready yet. -/
def waiting (ledger : Ledger terms) : List Grant :=
  ledger.reservations.filter fun grant => grant.isLive && decide (ledger.now < grant.ready)

/-- The tokens that were not put back and are not ready by an instant. -/
def unready (ledger : Ledger terms) (instant : ℚ) : List Grant :=
  ledger.live.filter fun grant => instant < grant.ready

/-- The balance at an instant to come, if nobody makes use of the bucket until then and it holds
whatever it gains. -/
def balanceAt (ledger : Ledger terms) (instant : ℚ) : ℚ :=
  ledger.balance + terms.rate * (instant - ledger.now)

/-- The balance now is that of now. -/
@[simp] theorem balanceAt_now (ledger : Ledger terms) :
    ledger.balanceAt ledger.now = ledger.balance := by
  rw [balanceAt, sub_self, mul_zero, add_zero]

/-- A bucket that is full now owes nothing from now on. -/
theorem balanceAt_nonneg_of_full {instant : ℚ} (full : ledger.balance = terms.capacity)
    (later : ledger.now ≤ instant) : 0 ≤ ledger.balanceAt instant := by
  have capacity := terms.one_le_capacity
  have gained : 0 ≤ terms.rate * (instant - ledger.now) :=
    mul_nonneg terms.rate_pos.le (sub_nonneg.mpr later)
  rw [balanceAt, full]
  linarith

/-- A token that is given out is not ready until then. -/
theorem length_unready_of_granted {grant : Grant} (live : grant.returned = none)
    (grants : after.grants.Perm (grant :: before.grants)) (instant : ℚ) :
    (after.unready instant).length
      = (before.unready instant).length + if instant < grant.ready then 1 else 0 := by
  have perm := (live_perm_of_granted live grants).filter fun grant => decide (instant < grant.ready)
  rw [unready, perm.length_eq, List.filter_cons, unready]
  by_cases early : instant < grant.ready
  · rw [if_pos (decide_eq_true early), if_pos early, List.length_cons]
  · rw [if_neg (by simpa using early), if_neg early, add_zero]

/-- A token that is put back is no longer waited for. -/
theorem length_unready_of_returned {front back : List Grant} {grant : Grant} {step : Nat}
    (live : grant.returned = none) (grants : before.grants = front ++ grant :: back)
    (grantsAfter : after.grants = front ++ grant.giveBack step :: back) (instant : ℚ) :
    (before.unready instant).length ≤ (after.unready instant).length + 1 := by
  have perm := (live_perm_of_returned live grants grantsAfter).filter fun grant =>
    decide (instant < grant.ready)
  rw [unready, perm.length_eq, List.filter_cons]
  split
  · rw [List.length_cons, unready]
  · exact Nat.le_succ _

/-! ## The invariant -/

/-- No more tokens are missing at any instant to come than are waited for then, and none of those
taken at once. -/
structure Covered (ledger : Ledger terms) : Prop where
  /-- What is missing at an instant is waited for. -/
  missing : ∀ instant, ledger.now ≤ instant →
    -ledger.balanceAt instant ≤ (ledger.unready instant).length
  /-- A token that was taken at once is ready. -/
  taken : ∀ grant ∈ ledger.takings, grant.ready ≤ ledger.now

/-- Nothing is missing in a full bucket. -/
theorem covered_opened (terms : Terms) (created : Instant) : (opened terms created).Covered where
  missing instant later := by
    have full : (opened terms created).balance = terms.capacity :=
      BucketRun.balance_of_refilled rfl le_rfl
    have owed := balanceAt_nonneg_of_full full later
    have counted : (0 : ℚ) ≤ ((opened terms created).unready instant).length := Nat.cast_nonneg _
    linarith
  taken := by simp [opened]

/-- No step changes what is missing beyond what is waited for. -/
theorem Covered.missing_of_change (covered : before.Covered) (change : before.Change after)
    (instant : ℚ) (later : after.now ≤ instant) :
    -after.balanceAt instant ≤ (after.unready instant).length := by
  have counted : (0 : ℚ) ≤ (after.unready instant).length := Nat.cast_nonneg _
  cases change with
  | still now balance grants =>
      rw [now] at later
      have missing := covered.missing instant later
      rw [balanceAt, balance, now, unready, live_eq_of_grants_eq grants]
      exact missing
  | elapsed seconds forward now balance grants =>
      have missing := covered.missing instant (by linarith)
      rw [balanceAt] at missing
      rcases min_choice (before.balance + seconds * terms.rate) terms.capacity with all | full
      · -- What was gained meanwhile was counted on before.
        rw [all] at balance
        rw [balanceAt, balance, now, unready, live_eq_of_grants_eq grants]
        refine le_trans (le_of_eq ?_) missing
        ring
      · rw [full] at balance
        have owed := balanceAt_nonneg_of_full balance later
        linarith
  | granted grant step live ready now balance grants =>
      rw [now] at later
      have missing := covered.missing instant later
      have owed := deficit_le_gain ready
      rw [length_unready_of_granted live grants]
      rw [balanceAt] at missing
      by_cases early : instant < grant.ready
      · -- One token more is missing, and one more is waited for.
        rw [if_pos early, balanceAt, balance, now]
        push_cast
        linarith
      · -- When the new token is ready, all that was missing behind it is gained back.
        have enough : terms.rate * (grant.ready - before.now)
            ≤ terms.rate * (instant - before.now) :=
          mul_le_mul_of_nonneg_left (by linarith) terms.rate_pos.le
        have none : -after.balanceAt instant ≤ 0 := by
          rw [balanceAt, now]
          linarith
        exact none.trans (Nat.cast_nonneg _)
  | returned front grant back live now balance grants grantsAfter =>
      rw [now] at later
      have missing := covered.missing instant later
      rcases min_choice (before.balance + 1) terms.capacity with back | full
      · -- One token less is missing, and one less is waited for at most.
        have fewer : ((before.unready instant).length : ℚ)
            ≤ (after.unready instant).length + 1 := by
          exact_mod_cast length_unready_of_returned live grants grantsAfter instant
        rw [balanceAt] at missing
        rw [balanceAt, balance, back, now]
        linarith
      · rw [full] at balance
        have owed := balanceAt_nonneg_of_full balance (now.le.trans later)
        linarith

/-- The clock never goes back. -/
theorem Change.now_le (change : before.Change after) : before.now ≤ after.now := by
  cases change with
  | elapsed seconds forward now _ _ => linarith
  | still now _ _ => exact now.ge
  | granted _ _ _ _ now _ _ => exact now.ge
  | returned _ _ _ _ now _ _ _ => exact now.ge

/-- A token that is taken at once is ready as it is taken. -/
theorem Covered.taken_step (covered : ledger.Covered) (step : BucketStep) :
    ∀ grant ∈ (ledger.step step).takings, grant.ready ≤ (ledger.step step).now := by
  intro grant member
  have forward : ledger.now ≤ (ledger.step step).now := (ledger.change_step step).now_le
  have earlier : grant ∈ ledger.takings → grant.ready ≤ (ledger.step step).now :=
    fun known => (covered.taken grant known).trans forward
  cases step with
  | tryAcquire =>
      change grant ∈ (if _ then _ else _) at member
      split at member
      · rcases List.mem_append.mp member with known | new
        · exact earlier known
        · rw [List.mem_singleton.mp new]
          exact forward
      · exact earlier member
  | _ => exact earlier member

/-- Every step keeps the invariant. -/
theorem Covered.step (covered : ledger.Covered) (step : BucketStep) :
    (ledger.step step).Covered where
  missing := covered.missing_of_change (ledger.change_step step)
  taken := covered.taken_step step

/-- Every run keeps the invariant. -/
theorem covered_steps (terms : Terms) (created : Instant) (steps : List BucketStep) :
    ((opened terms created).steps steps).Covered :=
  steps_induction steps (covered_opened terms created) fun _ step covered => covered.step step

/-! ## The law of the deficit -/

/-- Nobody waits for a token that was taken at once. -/
theorem Covered.unready_now (covered : ledger.Covered) :
    ledger.unready ledger.now = ledger.waiting := by
  have none : ledger.takings.filter
      (fun grant => decide (ledger.now < grant.ready) && grant.isLive) = [] := by
    refine List.filter_eq_nil_iff.mpr fun grant member => ?_
    have ready := covered.taken grant member
    simp [not_lt.mpr ready]
  rw [unready, live, grants, List.filter_filter, List.filter_append, none, List.append_nil, waiting]
  refine List.filter_congr fun grant _ => ?_
  rw [Bool.and_comm]

/-- The law of the deficit. In every run from a full bucket no more tokens are missing than are
waited for: than there are reservations that were not cancelled and are not ready yet. So the delay
of the next reservation is at most the time in which these tokens and one more are gained, and a
bucket on which nobody waits owes nothing. -/
theorem deficit_le_waiting (terms : Terms) (created : Instant) (steps : List BucketStep) :
    let ledger := (opened terms created).steps steps
    ledger.run = ((opened terms created).run.steps steps).2 ∧
      max 0 (-ledger.balance) ≤ ledger.waiting.length ∧
      (∃ delay, (ledger.run.step .reserve).1 = .delay delay ∧
        delay ≤ (ledger.waiting.length + 1) / terms.rate) ∧
      (ledger.waiting = [] → 0 ≤ ledger.balance) := by
  intro ledger
  have covered : ledger.Covered := covered_steps terms created steps
  have owed : -ledger.balance ≤ ledger.waiting.length := by
    have missing := covered.missing ledger.now le_rfl
    rwa [balanceAt_now, covered.unready_now] at missing
  have counted : (0 : ℚ) ≤ ledger.waiting.length := Nat.cast_nonneg _
  refine ⟨run_steps _ steps, max_le counted owed,
    ⟨(ledger.run.bucket.reserve ledger.run.now).1, rfl, ?_⟩, ?_⟩
  · rw [BucketRun.delay_reserve, ledger.rate_eq]
    refine div_le_div_of_nonneg_right (max_le (by linarith) ?_) terms.rate_pos.le
    have owedNow : -ledger.run.balance ≤ ledger.waiting.length := owed
    linarith
  · intro nobody
    rw [nobody, List.length_nil, Nat.cast_zero] at owed
    linarith

end Ledger

end Outbound
