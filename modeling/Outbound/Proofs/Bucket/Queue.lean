import Outbound.Proofs.Bucket.Deficit

/-! # The queue of a bucket

Who reserves a token that does not exist yet waits for it, and the deficit of the bucket is the
queue of those who wait. As long as nobody leaves the queue it is served in order, and at the rate
at which tokens are gained: what other callers ask of the bucket meanwhile, and when, makes no
difference.

* `Ledger.due` is the second at which a token is ready that is reserved now, and
  `Ledger.idleBalance` the balance at a second to come if the bucket is left alone until then.
* `Ledger.balanceAt_steps_le` says that a balance never gets ahead of what it gains, and
  `Ledger.idleBalance_steps` that it does not fall behind unless a token is given out.
* `Ledger.served_in_turn` is the law of the queue. -/

namespace Outbound

/-- Whether a step leaves the tokens that were given out where they are. -/
def BucketStep.keeps : BucketStep → Bool
  | .cancel _ => false
  | _ => true

namespace Ledger

variable {terms : Terms} {before after ledger : Ledger terms} {step : BucketStep}
  {steps : List BucketStep}

/-! ## Steps that put nothing back -/

/-- What was given out stays booked, unless it is put back. -/
theorem grants_sublist_step (keeps : step.keeps) :
    ledger.grants.Sublist (ledger.step step).grants := by
  refine List.Sublist.append ?_ ?_
  · cases step with
    | reserve => exact List.sublist_append_left _ _
    | cancel reservation => cases keeps
    | _ => exact List.Sublist.refl _
  · cases step with
    | tryAcquire =>
        show ledger.takings.Sublist (if _ then _ else _)
        split
        · exact List.sublist_append_left _ _
        · exact List.Sublist.refl _
    | _ => exact List.Sublist.refl _

/-- What holds at first and is kept by every step that puts nothing back holds after such steps. -/
theorem steps_induction_of_keeps {motive : Ledger terms → Prop}
    (keep : ∀ step ∈ steps, step.keeps) (first : motive ledger)
    (further : ∀ (earlier : Ledger terms) (step : BucketStep), step.keeps →
      motive earlier → motive (earlier.step step)) : motive (ledger.steps steps) :=
  List.foldlRecOn steps Ledger.step first fun earlier holds step member =>
    further earlier step (keep step member) holds

/-- What was given out stays booked as long as nothing is put back. -/
theorem grants_sublist_steps (keep : ∀ step ∈ steps, step.keeps) :
    ledger.grants.Sublist (ledger.steps steps).grants :=
  steps_induction_of_keeps (motive := fun later => ledger.grants.Sublist later.grants) keep
    (List.Sublist.refl _) fun _ _ keeps sublist => sublist.trans (grants_sublist_step keeps)

/-- A token that is put back no longer stands in the books as it did. -/
theorem not_sublist_of_returned {front back : List Grant} {grant : Grant} {number : Nat}
    (live : grant.returned = none) (grants : before.grants = front ++ grant :: back)
    (grantsAfter : after.grants = front ++ grant.giveBack number :: back) :
    ¬ before.grants.Sublist after.grants := by
  intro sublist
  have same : before.grants = after.grants :=
    sublist.eq_of_length (by simp [grants, grantsAfter])
  rw [grants, grantsAfter, List.append_cancel_left_eq, List.cons.injEq] at same
  rw [same.1] at live
  cases live

/-- The clock never goes back during a run. -/
theorem now_le_steps (ledger : Ledger terms) (steps : List BucketStep) :
    ledger.now ≤ (ledger.steps steps).now :=
  steps_induction (motive := fun later => ledger.now ≤ later.now) steps le_rfl
    fun earlier step before => before.trans (earlier.change_step step).now_le

/-! ## The balance to come -/

/-- A balance does not get ahead of what it gains, unless a token is put back. -/
theorem balanceAt_step_le (keeps : step.keeps) (second : ℚ) :
    (ledger.step step).balanceAt second ≤ ledger.balanceAt second := by
  have change := ledger.change_step step
  rw [balanceAt, balanceAt]
  cases change with
  | still now balance _ => rw [now, balance]
  | elapsed seconds _ now balance _ =>
      have gained := balance.le.trans (min_le_left _ _)
      rw [now]
      linarith
  | granted _ _ _ _ now balance _ =>
      rw [now, balance]
      linarith
  | returned front grant back live _ _ grants grantsAfter =>
      -- The step would have changed a grant that is booked already.
      exact absurd (grants_sublist_step keeps) (not_sublist_of_returned live grants grantsAfter)

/-- A balance does not get ahead of what it gains, as long as nothing is put back. -/
theorem balanceAt_steps_le (keep : ∀ step ∈ steps, step.keeps) (second : ℚ) :
    (ledger.steps steps).balanceAt second ≤ ledger.balanceAt second :=
  steps_induction_of_keeps
    (motive := fun later => later.balanceAt second ≤ ledger.balanceAt second) keep le_rfl
    fun _ _ keeps behind => (balanceAt_step_le keeps second).trans behind

/-- The balance at a second to come, if nobody makes use of the bucket until then: what it gains,
as far as that fits in. -/
def idleBalance (ledger : Ledger terms) (second : ℚ) : ℚ :=
  min (ledger.balanceAt second) terms.capacity

/-- The balance now is that of now. -/
@[simp] theorem idleBalance_now (ledger : Ledger terms) :
    ledger.idleBalance ledger.now = ledger.balance := by
  rw [idleBalance, balanceAt_now, min_eq_left ledger.balance_le]

/-- A step that gives nothing out and puts nothing back changes no balance to come. -/
theorem idleBalance_step (same : (ledger.step step).grants = ledger.grants) {second : ℚ}
    (later : (ledger.step step).now ≤ second) :
    (ledger.step step).idleBalance second = ledger.idleBalance second := by
  have change := ledger.change_step step
  rw [idleBalance, idleBalance, balanceAt, balanceAt]
  cases change with
  | still now balance _ => rw [now, balance]
  | elapsed seconds _ now balance _ =>
      -- It makes no difference whether what is gained now is cut off before more is gained.
      have more : 0 ≤ terms.rate * (second - (ledger.step step).now) :=
        mul_nonneg terms.rate_pos.le (sub_nonneg.mpr later)
      have whole : ledger.balance + seconds * terms.rate
          + terms.rate * (second - (ledger.step step).now)
          = ledger.balance + terms.rate * (second - ledger.now) := by
        rw [now]
        ring
      rw [balance, min_add, min_assoc, min_eq_right (le_add_of_nonneg_right more), whole]
  | granted grant _ _ _ _ _ grants =>
      have longer := grants.length_eq
      rw [same, List.length_cons] at longer
      omega
  | returned front grant back live _ _ grants grantsAfter =>
      exact absurd (same ▸ List.Sublist.refl _)
        (not_sublist_of_returned live grants grantsAfter)

/-- Steps that give nothing out and put nothing back change no balance to come. -/
theorem idleBalance_steps (keep : ∀ step ∈ steps, step.keeps)
    (same : (ledger.steps steps).grants = ledger.grants) {second : ℚ}
    (later : (ledger.steps steps).now ≤ second) :
    (ledger.steps steps).idleBalance second = ledger.idleBalance second := by
  induction steps generalizing ledger with
  | nil => rfl
  | cons step others inductionHypothesis =>
      obtain ⟨keeps, further⟩ := List.forall_mem_cons.mp keep
      -- The books only grow, and they are the same at the end: so they are the same in between.
      have first : ledger.grants.Sublist (ledger.step step).grants := grants_sublist_step keeps
      have rest : (ledger.step step).grants.Sublist ((ledger.step step).steps others).grants :=
        grants_sublist_steps further
      have sameFirst : (ledger.step step).grants = ledger.grants :=
        (same ▸ rest).antisymm first
      have laterFirst : (ledger.step step).now ≤ second :=
        (now_le_steps _ others).trans later
      exact (inductionHypothesis further (same.trans sameFirst.symm) later).trans
        (idleBalance_step sameFirst laterFirst)

/-! ## Reservations -/

/-- The second at which a token is ready that is reserved now. -/
def due (ledger : Ledger terms) : ℚ := ledger.now + (ledger.run.bucket.reserve ledger.run.now).1

/-- The delay of a reservation lasts until its token is ready. -/
theorem answer_reserve (ledger : Ledger terms) :
    (ledger.run.step .reserve).1 = .delay (ledger.due - ledger.now) := by
  rw [due, add_sub_cancel_left]
  rfl

/-- The token is ready when the balance behind it is gained back. -/
theorem due_eq (ledger : Ledger terms) :
    ledger.due = ledger.now + max 0 (-(ledger.balance - 1)) / terms.rate := by
  rw [due, BucketRun.delay_reserve, ledger.rate_eq]
  rfl

/-- No token is ready before it is reserved. -/
theorem now_le_due (ledger : Ledger terms) : ledger.now ≤ ledger.due := by
  rw [due_eq]
  exact le_add_of_nonneg_right (div_nonneg (le_max_left _ _) terms.rate_pos.le)

/-- A token that is reserved now is not ready before the balance behind it is gained back. -/
theorem add_div_le_due (ledger : Ledger terms) :
    ledger.now + -(ledger.balance - 1) / terms.rate ≤ ledger.due := by
  rw [due_eq]
  gcongr
  · exact terms.rate_pos.le
  · exact le_max_right _ _

/-- Who has to wait does so until just the balance behind the reservation is gained back. -/
theorem due_of_delayed (delayed : ledger.now < ledger.due) :
    ledger.due = ledger.now + -(ledger.balance - 1) / terms.rate := by
  rcases max_choice 0 (-(ledger.balance - 1)) with paid | owed
  · rw [due_eq, paid, zero_div, add_zero] at delayed
    exact absurd delayed (lt_irrefl _)
  · rw [due_eq, owed]

/-- The balance behind a delayed reservation is gained back just when its token is ready. -/
theorem balanceAt_reserve (delayed : ledger.now < ledger.due) (second : ℚ) :
    (ledger.step .reserve).balanceAt second = terms.rate * (second - ledger.due) := by
  have balance : (ledger.step .reserve).balance = ledger.balance - 1 :=
    ledger.run.balance_reserve
  have now : (ledger.step .reserve).now = ledger.now := rfl
  have rate := terms.rate_pos.ne'
  rw [balanceAt, balance, now, due_of_delayed delayed]
  field_simp
  ring

/-! ## Two reservations in a row -/

/-- Nobody is served before those who reserved earlier. -/
theorem due_le_due (first : Ledger terms) (keep : ∀ step ∈ steps, step.keeps) :
    first.due ≤ ((first.step .reserve).steps steps).due := by
  set next := (first.step .reserve).steps steps
  have forward : first.now ≤ next.now := now_le_steps (first.step .reserve) steps
  rcases first.now_le_due.lt_or_eq with delayed | ready
  · -- The balance is no more than what is gained since the earlier token is ready.
    have behind : next.balance ≤ terms.rate * (next.now - first.due) := by
      rw [← balanceAt_reserve delayed, ← balanceAt_now]
      exact balanceAt_steps_le keep next.now
    have gained : first.due - next.now ≤ -(next.balance - 1) / terms.rate := by
      rw [le_div_iff₀ terms.rate_pos]
      linarith
    have due := next.add_div_le_due
    linarith
  · -- Nobody has to wait for the earlier token, so that the later one only has to come later.
    exact ready ▸ forward.trans next.now_le_due

/-- If nothing else is given out behind a delayed reservation, the balance is what is gained since
its token is ready. -/
theorem idleBalance_behind {first : Ledger terms} (delayed : first.now < first.due)
    (keep : ∀ step ∈ steps, step.keeps)
    (same : ((first.step .reserve).steps steps).grants = (first.step .reserve).grants) {second : ℚ}
    (later : ((first.step .reserve).steps steps).now ≤ second) :
    ((first.step .reserve).steps steps).idleBalance second =
      min (terms.rate * (second - first.due)) terms.capacity := by
  rw [← balanceAt_reserve delayed]
  exact idleBalance_steps keep same later

/-- Two delayed reservations in a row are ready one after the other, at the rate of the bucket. -/
theorem due_sub_due {first : Ledger terms} (delayed : first.now < first.due)
    (keep : ∀ step ∈ steps, step.keeps)
    (same : ((first.step .reserve).steps steps).grants = (first.step .reserve).grants)
    (delayedNext : ((first.step .reserve).steps steps).now
      < ((first.step .reserve).steps steps).due) :
    ((first.step .reserve).steps steps).due - first.due = 1 / terms.rate := by
  have now := idleBalance_behind delayed keep same le_rfl
  rw [idleBalance_now] at now
  set next := (first.step .reserve).steps steps
  have due := due_of_delayed delayedNext
  have few : next.balance < 1 := by
    rw [due] at delayedNext
    have wait : 0 < -(next.balance - 1) / terms.rate := by linarith
    have owed := (div_pos_iff_of_pos_right terms.rate_pos).mp wait
    linarith
  have balance : next.balance = terms.rate * (next.now - first.due) := by
    -- The next one has to wait, so the bucket was not full and its balance was not cut off.
    rcases min_choice (terms.rate * (next.now - first.due)) terms.capacity with all | full
    · exact now.trans all
    · have capacity := terms.one_le_capacity
      linarith
  have rate := terms.rate_pos.ne'
  rw [due, balance]
  field_simp
  ring

/-- What is gained since a token is ready is negative before, and zero as it is ready. -/
theorem gained_sign (terms : Terms) (second ready : ℚ) :
    (min (terms.rate * (second - ready)) terms.capacity < 0 ↔ second < ready) ∧
      (min (terms.rate * (second - ready)) terms.capacity = 0 ↔ second = ready) := by
  have room : 0 < terms.capacity := one_pos.trans_le terms.one_le_capacity
  rcases lt_trichotomy second ready with early | same | late
  · have missing : terms.rate * (second - ready) < 0 :=
      mul_neg_of_pos_of_neg terms.rate_pos (sub_neg.mpr early)
    have negative := (min_le_left _ terms.capacity).trans_lt missing
    exact ⟨iff_of_true negative early, iff_of_false negative.ne early.ne⟩
  · rw [same, sub_self, mul_zero, min_eq_left room.le]
    simp
  · have there : 0 < terms.rate * (second - ready) :=
      mul_pos terms.rate_pos (sub_pos.mpr late)
    have positive := lt_min there room
    exact ⟨iff_of_false positive.not_gt late.not_gt, iff_of_false positive.ne' late.ne'⟩

/-! ## The law of the queue -/

/-- The law of the queue. In every run from a full bucket, and whatever is asked of the bucket
between two reservations, save for cancellations, the delays told for them end in the order of the
reservations. If the earlier one has to wait and nothing else is given out between them, then a
later one that has to wait, too, is ready after just the time in which a token is gained; and the
balance is negative until the token of the earlier one is ready, and zero at that second, whether or
not it is an instant of the clock. -/
theorem served_in_turn (terms : Terms) (created : Instant) (earlier between : List BucketStep)
    (keep : ∀ step ∈ between, step.keeps) :
    let first := (opened terms created).steps earlier
    let next := (first.step .reserve).steps between
    (first.run.step .reserve).1 = .delay (first.due - first.now) ∧
      (next.run.step .reserve).1 = .delay (next.due - next.now) ∧
      first.due ≤ next.due ∧
      (first.now < first.due → next.grants = (first.step .reserve).grants →
        (next.now < next.due → next.due - first.due = 1 / terms.rate) ∧
        (next.balance < 0 ↔ next.now < first.due) ∧
        (next.balance = 0 ↔ next.now = first.due) ∧
        ∀ second, next.now ≤ second →
          (next.idleBalance second < 0 ↔ second < first.due) ∧
          (next.idleBalance second = 0 ↔ second = first.due)) := by
  intro first next
  refine ⟨first.answer_reserve, next.answer_reserve, first.due_le_due keep,
    fun delayed same => ?_⟩
  have signs : ∀ second, next.now ≤ second →
      (next.idleBalance second < 0 ↔ second < first.due) ∧
      (next.idleBalance second = 0 ↔ second = first.due) := by
    intro second later
    rw [idleBalance_behind delayed keep same later]
    exact gained_sign terms second first.due
  have signsNow := signs next.now le_rfl
  rw [idleBalance_now] at signsNow
  exact ⟨due_sub_due delayed keep same, signsNow.1, signsNow.2, signs⟩

/-- A bucket for two tokens, which gains two in a second. -/
def briskTerms : Terms := ⟨2, 2, one_le_two, two_pos⟩

/-- Both tokens are taken, and a tenth of a second later the next caller has to wait. -/
def exhausting : List BucketStep := [.reserve, .reserve, .advance (.ofMillis 100)]

/-- The balance is looked at, a token is refused, and two tenths of a second pass. -/
def waitingIdly : List BucketStep := [.available, .tryAcquire, .advance (.ofMillis 200)]

/-- Two callers who come at different times are ready half a second apart, and the balance is
negative when the later one comes. -/
theorem served_in_turn_brisk :
    (∀ step ∈ waitingIdly, step.keeps) ∧
      let first := (opened briskTerms .start).steps exhausting
      let next := (first.step .reserve).steps waitingIdly
      first.now < first.due ∧ next.now < next.due ∧
        next.grants = (first.step .reserve).grants ∧ next.due - first.due = 1 / briskTerms.rate ∧
        next.now = 3 / 10 ∧ next.balance = -2 / 5 := by
  have keep : ∀ step ∈ waitingIdly, step.keeps := by decide
  have law := served_in_turn briskTerms .start exhausting waitingIdly keep
  have delayed : let first := (opened briskTerms .start).steps exhausting
      first.now < first.due := by decide +kernel
  have same : let first := (opened briskTerms .start).steps exhausting
      ((first.step .reserve).steps waitingIdly).grants = (first.step .reserve).grants := by
    decide +kernel
  have delayedNext : let first := (opened briskTerms .start).steps exhausting
      let next := (first.step .reserve).steps waitingIdly
      next.now < next.due := by decide +kernel
  exact ⟨keep, delayed, delayedNext, same, (law.2.2.2 delayed same).1 delayedNext,
    by decide +kernel, by decide +kernel⟩

end Ledger

end Outbound
