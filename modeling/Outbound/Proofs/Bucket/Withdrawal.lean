import Outbound.Proofs.Bucket.Queue
import Outbound.Proofs.Bucket.Reservoir

/-! # Reservations that are withdrawn

A reservation that is cancelled before its token exists leaves no trace in the bucket: from then on
it is as if the token had never been reserved. Until then the balance was less by just one, and in
deficit all the time, so that neither what was gained nor the token put back was ever cut off at the
capacity, and nobody could take a token at once in either case.

* `Reservoir.unmarked` forgets the mark of a reservation, and `Reservoir.spared` puts its token
  back, too; `BucketStep.without` numbers the other reservations anew.
* `Reservoir.step_spared` compares the two runs while the reservation is waited for, and
  `Reservoir.steps_unmarked` when it is withdrawn.
* `Ledger.withdrawal_leaves_no_trace` is the law of all runs. -/

namespace Outbound

/-- A step of a run in which a reservation is not made: those behind it have other numbers. -/
def BucketStep.without (reservation : Nat) : BucketStep → Option BucketStep
  | .cancel other =>
      if other < reservation then some (.cancel other)
      else if other = reservation then none
      else some (.cancel (other - 1))
  | step => some step

/-- Whether a token that was asked for at once was there, if that was asked. -/
def BucketAnswer.acquired? {α : Type} : BucketAnswer α → Option Bool
  | .acquired success => some success
  | _ => none

namespace Reservoir

variable {terms : Terms} {reservoir : Reservoir terms} {step : BucketStep} {number : Nat}

/-! ## Marks of reservations -/

/-- A step changes no mark of a reservation, unless it cancels one that is held. -/
theorem held_step {mark : Bool} (marked : reservoir.held[number]? = some mark)
    (apart : step = .cancel number → mark = false) :
    (reservoir.step step).2.held[number]? = some mark := by
  have made : number < reservoir.held.length := (List.getElem?_eq_some_iff.mp marked).1
  cases step with
  | reserve => exact (List.getElem?_append_left made).trans marked
  | cancel other =>
      rw [Reservoir.step]
      split
      next held =>
        have others : other ≠ number := by
          intro same
          rw [same, marked, apart (same ▸ rfl)] at held
          cases held
        exact (List.getElem?_set_ne others).trans marked
      next => exact marked
  | tryAcquire =>
      rw [Reservoir.step]
      split <;> exact marked
  | _ => exact marked

/-! ## While the reservation is waited for -/

/-- The reservoir without the mark of a reservation. -/
def unmarked (number : Nat) (reservoir : Reservoir terms) : Reservoir terms :=
  { reservoir with held := reservoir.held.eraseIdx number }

/-- The reservoir without a reservation, whose token is still there. -/
def spared (number : Nat) (reservoir : Reservoir terms) : Reservoir terms :=
  { reservoir.unmarked number with balance := reservoir.balance + 1 }

/-- A step that leaves the balance in deficit does the same without the reservation, and whoever
asks for a token at once is answered alike. -/
theorem step_spared (keeps : step.keeps) (made : number < reservoir.held.length)
    (owed : (reservoir.step step).2.balance < 0) :
    ((reservoir.spared number).step step).2 = (reservoir.step step).2.spared number ∧
      ((reservoir.spared number).step step).1.acquired? = (reservoir.step step).1.acquired? := by
  have room := terms.one_le_capacity
  cases step with
  | advance duration =>
      -- The balance stays below zero, and with one token more below the capacity.
      have gained : reservoir.balance + duration.exactSeconds * terms.rate < 0 := by
        rcases min_lt_iff.mp owed with negative | full
        · exact negative
        · linarith
      refine ⟨Reservoir.ext rfl ?_ rfl, rfl⟩
      show min (reservoir.balance + 1 + duration.exactSeconds * terms.rate) terms.capacity
        = min (reservoir.balance + duration.exactSeconds * terms.rate) terms.capacity + 1
      rw [min_eq_left (by linarith), min_eq_left (by linarith)]
      ring
  | reserve =>
      refine ⟨Reservoir.ext rfl ?_ ?_, rfl⟩
      · show reservoir.balance + 1 - 1 = reservoir.balance - 1 + 1
        ring
      · exact (List.eraseIdx_append_of_lt_length made [true]).symm
  | cancel other => cases keeps
  | tryAcquire =>
      have few : reservoir.balance < 1 := by
        by_contra enough
        rw [Reservoir.step, if_pos (not_lt.mp enough)] at owed
        exact absurd owed (not_lt.mpr (sub_nonneg.mpr (not_lt.mp enough)))
      rw [step_tryAcquire_of_lt few] at owed ⊢
      have stillFew : (reservoir.spared number).balance < 1 := by
        have negative : reservoir.balance < 0 := owed
        show reservoir.balance + 1 < 1
        linarith
      rw [step_tryAcquire_of_lt stillFew]
      exact ⟨rfl, rfl⟩
  | available => exact ⟨rfl, rfl⟩

/-- The token of a reservation that is withdrawn in deficit is put back as a whole. -/
theorem step_cancel_of_owed (held : reservoir.held[number]? = some true)
    (owed : reservoir.balance < 0) :
    (reservoir.step (.cancel number)).1 = .cancelled true ∧
      (reservoir.step (.cancel number)).2.held[number]? = some false ∧
      (reservoir.step (.cancel number)).2.unmarked number = reservoir.spared number := by
  have room := terms.one_le_capacity
  have made : number < reservoir.held.length := (List.getElem?_eq_some_iff.mp held).1
  rw [Reservoir.step, if_pos held]
  refine ⟨rfl, List.getElem?_set_self made, Reservoir.ext rfl ?_ List.eraseIdx_set_eq⟩
  show min (reservoir.balance + 1) terms.capacity = reservoir.balance + 1
  exact min_eq_left (by linarith)

/-! ## When the reservation is withdrawn -/

/-- A cancellation of another reservation is the same under its new number. -/
theorem step_cancel_unmarked {other renumbered : Nat}
    (sameMark : (reservoir.held.eraseIdx number)[renumbered]? = reservoir.held[other]?)
    (sameMarks : (reservoir.held.set other false).eraseIdx number =
      (reservoir.held.eraseIdx number).set renumbered false) :
    ((reservoir.unmarked number).step (.cancel renumbered)).2 =
      (reservoir.step (.cancel other)).2.unmarked number := by
  have marks : (reservoir.unmarked number).held[renumbered]? = reservoir.held[other]? := sameMark
  by_cases held : reservoir.held[other]? = some true
  · rw [Reservoir.step, Reservoir.step, if_pos held, if_pos (marks.trans held)]
    exact Reservoir.ext rfl rfl sameMarks.symm
  · rw [Reservoir.step, Reservoir.step, if_neg held, if_neg (marks ▸ held)]

/-- A reservation that is not held any more makes no difference to a step. -/
theorem step_unmarked (free : reservoir.held[number]? = some false) (step : BucketStep) :
    ((reservoir.unmarked number).steps (step.without number).toList).2 =
      (reservoir.step step).2.unmarked number := by
  have made : number < reservoir.held.length := (List.getElem?_eq_some_iff.mp free).1
  cases step with
  | reserve =>
      exact Reservoir.ext rfl rfl (List.eraseIdx_append_of_lt_length made [true]).symm
  | cancel other =>
      rcases lt_trichotomy other number with before | same | behind
      · rw [BucketStep.without, if_pos before]
        exact step_cancel_unmarked (List.getElem?_eraseIdx_of_lt before)
          (List.eraseIdx_set_gt before)
      · -- The reservation itself cannot be cancelled again.
        have notHeld : reservoir.held[other]? ≠ some true := by simp [same, free]
        rw [BucketStep.without, if_neg same.not_lt, if_pos same, Reservoir.step, if_neg notHeld]
        rfl
      · rw [BucketStep.without, if_neg behind.not_gt, if_neg behind.ne']
        refine step_cancel_unmarked ?_ (List.eraseIdx_set_lt behind)
        rw [List.getElem?_eraseIdx_of_ge (Nat.le_sub_one_of_lt behind),
          Nat.sub_add_cancel (Nat.one_le_of_lt behind)]
  | tryAcquire =>
      show ((reservoir.unmarked number).step .tryAcquire).2 = _
      by_cases enough : 1 ≤ reservoir.balance
      · have enoughHere : 1 ≤ (reservoir.unmarked number).balance := enough
        rw [Reservoir.step, Reservoir.step, if_pos enough, if_pos enoughHere]
        rfl
      · have fewHere : (reservoir.unmarked number).balance < 1 := not_le.mp enough
        rw [step_tryAcquire_of_lt (not_le.mp enough), step_tryAcquire_of_lt fewHere]
  | _ => rfl

/-- A reservation that is not held any more makes no difference to a run. -/
theorem steps_unmarked (free : reservoir.held[number]? = some false) (steps : List BucketStep) :
    ((reservoir.unmarked number).steps (steps.filterMap (BucketStep.without number))).2 =
      (reservoir.steps steps).2.unmarked number := by
  induction steps generalizing reservoir with
  | nil => rfl
  | cons step others inductionHypothesis =>
      have first := step_unmarked free step
      have stillFree : (reservoir.step step).2.held[number]? = some false :=
        held_step free fun _ => rfl
      have further := inductionHypothesis stillFree
      rw [steps_cons_snd, ← further, ← first, List.filterMap_cons]
      cases step.without number with
      | none => rfl
      | some renumbered => rfl

end Reservoir

namespace Ledger

variable {terms : Terms}

/-! ## Runs of a bucket -/

/-- A bucket whose deficit is gained back only later is in deficit now. -/
theorem balance_neg_of_early {ledger : Ledger terms} {due : ℚ} (owed : ledger.balanceAt due ≤ 0)
    (early : ledger.now < due) : ledger.balance < 0 := by
  have gain : 0 < terms.rate * (due - ledger.now) := mul_pos terms.rate_pos (sub_pos.mpr early)
  rw [balanceAt] at owed
  linarith

/-- While a reservation is waited for, a run is as it would be without it, but for its token and its
mark, and whoever asks for a token at once is answered alike. -/
theorem steps_spared {whole rest : Ledger terms} {due : ℚ} {number : Nat} {steps : List BucketStep}
    (beside : rest.reservoir = whole.reservoir.spared number)
    (held : whole.reservoir.held[number]? = some true) (owed : whole.balanceAt due ≤ 0)
    (keep : ∀ step ∈ steps, step.keeps) (early : (whole.steps steps).now < due) :
    (rest.steps steps).reservoir = (whole.steps steps).reservoir.spared number ∧
      (whole.steps steps).reservoir.held[number]? = some true ∧
      (whole.steps steps).balance < 0 ∧
      (rest.run.steps steps).1.filterMap BucketAnswer.acquired? =
        (whole.run.steps steps).1.filterMap BucketAnswer.acquired? := by
  induction steps generalizing whole rest with
  | nil => exact ⟨beside, held, balance_neg_of_early owed early, rfl⟩
  | cons step others inductionHypothesis =>
      obtain ⟨keeps, further⟩ := List.forall_mem_cons.mp keep
      have earlyNext : (whole.step step).now < due := (now_le_steps _ others).trans_lt early
      have owedNext : (whole.step step).balanceAt due ≤ 0 :=
        (balanceAt_step_le keeps due).trans owed
      -- Without cancellations the deficit is not gained back before the token is ready.
      have negative : (whole.reservoir.step step).2.balance < 0 := by
        rw [← reservoir_step]
        exact balance_neg_of_early owedNext earlyNext
      have made : number < whole.reservoir.held.length := (List.getElem?_eq_some_iff.mp held).1
      obtain ⟨same, sameAnswer⟩ := Reservoir.step_spared keeps made negative
      have besideNext : (rest.step step).reservoir = (whole.step step).reservoir.spared number := by
        rw [reservoir_step, reservoir_step, beside, same]
      have heldNext : (whole.step step).reservoir.held[number]? = some true := by
        rw [reservoir_step]
        refine Reservoir.held_step held fun cancels => ?_
        rw [cancels] at keeps
        cases keeps
      rw [← beside, ← answer_step, ← answer_step] at sameAnswer
      obtain ⟨last, lastHeld, lastOwed, answers⟩ :=
        inductionHypothesis besideNext heldNext owedNext further early
      refine ⟨last, lastHeld, lastOwed, ?_⟩
      -- Both runs answer first to the step and then as the runs behind it.
      show ((rest.run.step step).1 :: ((rest.step step).run.steps others).1).filterMap _
        = ((whole.run.step step).1 :: ((whole.step step).run.steps others).1).filterMap _
      rw [List.filterMap_cons, List.filterMap_cons, sameAnswer, answers]

/-- The law of withdrawals. In every run from a full bucket, let a reservation be cancelled before
its token is ready, and no other one meanwhile. Then the run is the same without it and its
cancellation, with all other steps made at the same times: whoever asked for a token at once
meanwhile is answered alike, and from the cancellation on the balance is the same at any time,
whatever is done then. -/
theorem withdrawal_leaves_no_trace (terms : Terms) (created : Instant)
    (earlier between later : List BucketStep) (keep : ∀ step ∈ between, step.keeps)
    (early : let before := (opened terms created).steps earlier
      ((before.step .reserve).steps between).now < before.due) :
    let before := (opened terms created).steps earlier
    let number := before.run.held.length
    let waiting := (before.step .reserve).steps between
    let whole := (waiting.step (.cancel number)).steps later
    let rest := (before.steps between).steps (later.filterMap (BucketStep.without number))
    (waiting.run.step (.cancel number)).1 = .cancelled true ∧
      (before.run.steps between).1.filterMap BucketAnswer.acquired? =
        ((before.step .reserve).run.steps between).1.filterMap BucketAnswer.acquired? ∧
      rest.now = whole.now ∧ rest.balance = whole.balance := by
  intro before number waiting whole rest
  have delayed : before.now < before.due :=
    (now_le_steps (before.step .reserve) between).trans_lt early
  have owed : (before.step .reserve).balanceAt before.due ≤ 0 := by
    rw [balanceAt_reserve delayed, sub_self, mul_zero]
  -- At first the two runs differ by the reservation alone.
  have beside : before.reservoir = (before.step .reserve).reservoir.spared number := by
    rw [reservoir_step]
    refine Reservoir.ext rfl ?_ ?_
    · exact (sub_add_cancel before.balance 1).symm
    · show before.run.held = (before.run.held ++ [true]).eraseIdx before.run.held.length
      rw [List.eraseIdx_append_of_length_le le_rfl, Nat.sub_self, List.eraseIdx_cons_zero,
        List.append_nil]
  have held : (before.step .reserve).reservoir.held[number]? = some true := by
    rw [reservoir_step]
    exact List.getElem?_concat_length
  obtain ⟨besideThen, heldThen, negative, answers⟩ := steps_spared beside held owed keep early
  obtain ⟨success, free, back⟩ := Reservoir.step_cancel_of_owed heldThen negative
  -- From then on they differ by the number of the reservation alone.
  have same : rest.reservoir = whole.reservoir.unmarked number :=
    calc rest.reservoir
        = ((before.steps between).reservoir.steps
            (later.filterMap (BucketStep.without number))).2 := reservoir_steps _ _
      _ = (((waiting.reservoir.step (.cancel number)).2.unmarked number).steps
            (later.filterMap (BucketStep.without number))).2 := by rw [besideThen, ← back]
      _ = ((waiting.reservoir.step (.cancel number)).2.steps later).2.unmarked number :=
          Reservoir.steps_unmarked free later
      _ = whole.reservoir.unmarked number := by rw [← reservoir_step, ← reservoir_steps]
  exact ⟨(answer_step _ _).trans success, answers, congrArg (fun r => r.now.exactSeconds) same,
    congrArg Reservoir.balance same⟩

/-- A token is taken, and another one is waited for. -/
def queuing : List BucketStep := [.reserve, .reserve]

/-- Someone asks in vain for a token at once, and half a second later another one queues up. -/
def meanwhile : List BucketStep := [.tryAcquire, .advance (.ofMillis 500), .reserve]

/-- The last in the queue leaves it, too, and a second passes. -/
def afterwards : List BucketStep := [.cancel 3, .advance (.ofMillis 1000), .available]

/-- The third in the queue leaves it after half a second, and the fourth after that: half a token is
there in the end, as without the third. -/
theorem withdrawal_leaves_no_trace_queue :
    (∀ step ∈ meanwhile, step.keeps) ∧
      let before := (opened singleTerms .start).steps queuing
      ((before.step .reserve).steps meanwhile).now < before.due ∧
        before.run.held.length = 2 ∧
        afterwards.filterMap (BucketStep.without 2) =
          [.cancel 2, .advance (.ofMillis 1000), .available] ∧
        ((before.steps meanwhile).steps (afterwards.filterMap (BucketStep.without 2))).balance =
          ((((before.step .reserve).steps meanwhile).step (.cancel 2)).steps afterwards).balance ∧
        ((before.steps meanwhile).steps
          [.cancel 2, .advance (.ofMillis 1000), .available]).balance = 1 / 2 := by
  have keep : ∀ step ∈ meanwhile, step.keeps := by decide
  have early : let before := (opened singleTerms .start).steps queuing
      ((before.step .reserve).steps meanwhile).now < before.due := by decide +kernel
  have law := withdrawal_leaves_no_trace singleTerms .start queuing meanwhile afterwards keep early
  exact ⟨keep, early, rfl, by decide, law.2.2.2, by decide +kernel⟩

end Ledger

end Outbound
