import Outbound.Proofs.Bucket.Exact

/-! # The ledger of a bucket

A ledger follows a run of a bucket and keeps a list of the tokens that were given out: by which step
each one was, when it is ready, and by which step it was put back, if it was.

* `Terms` are the capacity and the rate a bucket can be built with.
* `Ledger.step` books a step and `Ledger.steps` a run; `Ledger.run_steps` says that the ledger
  follows the bucket.
* `Ledger.Change` is all that a step can do to the balance and to the tokens given out, and
  `Ledger.change_step` says so. Every law of a run is proved from it by `Ledger.steps_induction`. -/

namespace Outbound

/-! ## What a step keeps -/

namespace BucketRun

/-- No step changes how many tokens fit in. -/
@[simp] theorem capacity_step (run : BucketRun ℚ) (step : BucketStep) :
    (run.step step).2.bucket.capacity = run.bucket.capacity := by
  cases step with
  | cancel reservation =>
      simp only [BucketRun.step]
      split <;> rfl
  | tryAcquire =>
      simp only [BucketRun.step, Bucket.tryAcquire]
      split <;> rfl
  | _ => rfl

/-- No step changes how fast tokens are gained. -/
@[simp] theorem rate_step (run : BucketRun ℚ) (step : BucketStep) :
    (run.step step).2.bucket.rate = run.bucket.rate := by
  cases step with
  | cancel reservation =>
      simp only [BucketRun.step]
      split <;> rfl
  | tryAcquire =>
      simp only [BucketRun.step, Bucket.tryAcquire]
      split <;> rfl
  | _ => rfl

/-- A bucket is never refilled ahead of the time. -/
theorem refilledAt_step_le {run : BucketRun ℚ} (refilled : run.bucket.refilledAt ≤ run.now)
    (step : BucketStep) : (run.step step).2.bucket.refilledAt ≤ (run.step step).2.now := by
  rw [Instant.le_iff] at refilled ⊢
  cases step with
  | advance duration => exact refilled.trans (Nat.le_add_right _ _)
  | cancel reservation =>
      simp only [BucketRun.step]
      split
      · exact le_rfl
      · exact refilled
  | tryAcquire =>
      simp only [BucketRun.step, Bucket.tryAcquire]
      split <;> exact le_rfl
  | _ => exact le_rfl

end BucketRun

/-! ## Tokens given out -/

/-- The capacity and the rate that a bucket can be built with. -/
structure Terms where
  /-- The most tokens the bucket can hold. -/
  capacity : ℚ
  /-- The tokens gained in a second. -/
  rate : ℚ
  /-- A token fits in. -/
  one_le_capacity : 1 ≤ capacity
  /-- Tokens are gained. -/
  rate_pos : 0 < rate

/-- A token that was given out. -/
structure Grant where
  /-- The number of the step by which it was given out. -/
  step : Nat
  /-- The second at which it is ready. -/
  ready : ℚ
  /-- The number of the step by which it was put back, if it was. -/
  returned : Option Nat := none
  deriving DecidableEq

namespace Grant

/-- Whether a token was not put back. -/
def isLive (grant : Grant) : Bool := grant.returned.isNone

/-- The token after it was put back by a step. -/
def giveBack (step : Nat) (grant : Grant) : Grant := { grant with returned := some step }

end Grant

/-- A run of a bucket with the tokens that were given out by it. -/
structure Ledger (terms : Terms) where
  /-- The run. -/
  run : BucketRun ℚ
  /-- The tokens that were reserved, in the order of the reservations. -/
  reservations : List Grant := []
  /-- The tokens that were taken at once. -/
  takings : List Grant := []
  /-- The number of steps made. -/
  count : Nat := 0
  /-- The bucket has the capacity of the terms. -/
  capacity_eq : run.bucket.capacity = terms.capacity
  /-- The bucket has the rate of the terms. -/
  rate_eq : run.bucket.rate = terms.rate
  /-- The bucket is not refilled ahead of the time. -/
  refilled : run.bucket.refilledAt ≤ run.now
  /-- The reservations that are held are those that were not put back. -/
  held_eq : run.held = reservations.map Grant.isLive

namespace Ledger

variable {terms : Terms}

/-- The ledger of a full bucket that is created at an instant. -/
def opened (terms : Terms) (created : Instant) : Ledger terms where
  run := ⟨.full terms.capacity terms.rate created, created, []⟩
  capacity_eq := rfl
  rate_eq := rfl
  refilled := Nat.le_refl _
  held_eq := rfl

/-- A bucket for one token, which it gains in a second. -/
def singleTerms : Terms := ⟨1, 1, le_rfl, one_pos⟩

/-- The second on the clock. -/
def now (ledger : Ledger terms) : ℚ := ledger.run.now.exactSeconds

/-- The balance of the bucket. -/
def balance (ledger : Ledger terms) : ℚ := ledger.run.balance

/-- The tokens that were given out. -/
def grants (ledger : Ledger terms) : List Grant := ledger.reservations ++ ledger.takings

/-- The tokens that were given out and not put back. -/
def live (ledger : Ledger terms) : List Grant := ledger.grants.filter Grant.isLive

/-- The reserved tokens after a step. -/
def reservationsAfter (ledger : Ledger terms) : BucketStep → List Grant
  | .reserve =>
      let delay := (ledger.run.bucket.reserve ledger.run.now).1
      ledger.reservations ++ [{ step := ledger.count, ready := ledger.now + delay }]
  | .cancel reservation =>
      if ledger.run.held[reservation]? = some true then
        ledger.reservations.modify reservation (Grant.giveBack ledger.count)
      else ledger.reservations
  | _ => ledger.reservations

/-- The tokens taken at once after a step. -/
def takingsAfter (ledger : Ledger terms) : BucketStep → List Grant
  | .tryAcquire =>
      if (ledger.run.bucket.tryAcquire ledger.run.now).1 then
        ledger.takings ++ [{ step := ledger.count, ready := ledger.now }]
      else ledger.takings
  | _ => ledger.takings

/-- A reservation that is held is found among the reserved tokens. -/
theorem exists_of_held {ledger : Ledger terms} {reservation : Nat}
    (held : ledger.run.held[reservation]? = some true) (change : Grant → Grant) :
    ∃ front grant back,
      front.length = reservation ∧ grant.isLive = true ∧
        ledger.reservations = front ++ grant :: back ∧
        ledger.reservations.modify reservation change = front ++ change grant :: back := by
  rw [ledger.held_eq, List.getElem?_map, Option.map_eq_some_iff] at held
  obtain ⟨grant, found, live⟩ := held
  obtain ⟨inside, same⟩ := List.getElem?_eq_some_iff.mp found
  obtain ⟨front, other, back, whole, position, modified⟩ := List.exists_of_modify change inside
  have sameGrant : other = grant := by
    rw [← same]
    simp [whole, ← position]
  exact ⟨front, grant, back, position, live, sameGrant ▸ whole, sameGrant ▸ modified⟩

/-- The reservations that are held after a step are booked as such. -/
theorem held_step (ledger : Ledger terms) (step : BucketStep) :
    (ledger.run.step step).2.held = (ledger.reservationsAfter step).map Grant.isLive := by
  cases step with
  | reserve => simp [BucketRun.step, reservationsAfter, ledger.held_eq, Grant.isLive]
  | cancel reservation =>
      simp only [BucketRun.step, reservationsAfter]
      split
      next held =>
        -- The mark that the run deletes is that of the grant that the ledger marks as returned.
        obtain ⟨front, grant, back, position, _, whole, modified⟩ :=
          exists_of_held held (Grant.giveBack ledger.count)
        rw [modified, ledger.held_eq, whole, ← position]
        simp [Grant.isLive, Grant.giveBack]
      next => exact ledger.held_eq
  | _ => exact ledger.held_eq

/-- Books a step of the bucket. -/
def step (ledger : Ledger terms) (step : BucketStep) : Ledger terms where
  run := (ledger.run.step step).2
  reservations := ledger.reservationsAfter step
  takings := ledger.takingsAfter step
  count := ledger.count + 1
  capacity_eq := by rw [BucketRun.capacity_step, ledger.capacity_eq]
  rate_eq := by rw [BucketRun.rate_step, ledger.rate_eq]
  refilled := BucketRun.refilledAt_step_le ledger.refilled step
  held_eq := ledger.held_step step

/-- Books steps of the bucket. -/
def steps (ledger : Ledger terms) (steps : List BucketStep) : Ledger terms :=
  steps.foldl step ledger

/-- The ledger follows the bucket. -/
theorem run_steps (ledger : Ledger terms) (steps : List BucketStep) :
    (ledger.steps steps).run = (ledger.run.steps steps).2 := by
  induction steps generalizing ledger with
  | nil => rfl
  | cons step steps inductionHypothesis => exact inductionHypothesis (ledger.step step)

/-- What holds at first and is kept by every step holds after all steps. -/
theorem steps_induction {motive : Ledger terms → Prop} {ledger : Ledger terms}
    (steps : List BucketStep) (first : motive ledger)
    (further : ∀ (earlier : Ledger terms) (step : BucketStep),
      motive earlier → motive (earlier.step step)) : motive (ledger.steps steps) :=
  List.foldlRecOn steps step first fun earlier holds step _ => further earlier step holds

/-! ## What a step changes -/

/-- All that a step can do to the time, the balance and the tokens given out. -/
inductive Change (before after : Ledger terms) : Prop where
  /-- Nothing is changed. -/
  | still (now : after.now = before.now) (balance : after.balance = before.balance)
      (grants : after.grants = before.grants)
  /-- Time passes and tokens are gained as far as they fit in. -/
  | elapsed (seconds : ℚ) (forward : 0 ≤ seconds) (now : after.now = before.now + seconds)
      (balance : after.balance = min (before.balance + seconds * terms.rate) terms.capacity)
      (grants : after.grants = before.grants)
  /-- A token is given out, which is ready when the balance behind it is gained back. -/
  | granted (grant : Grant) (step : grant.step = before.count) (live : grant.returned = none)
      (ready : grant.ready = before.now + max 0 (-after.balance) / terms.rate)
      (now : after.now = before.now) (balance : after.balance = before.balance - 1)
      (grants : after.grants.Perm (grant :: before.grants))
  /-- A token is put back as far as it fits in. -/
  | returned (front : List Grant) (grant : Grant) (back : List Grant)
      (live : grant.returned = none) (now : after.now = before.now)
      (balance : after.balance = min (before.balance + 1) terms.capacity)
      (grants : before.grants = front ++ grant :: back)
      (grantsAfter : after.grants = front ++ grant.giveBack before.count :: back)

/-- A step does nothing else. -/
theorem change_step (ledger : Ledger terms) (step : BucketStep) :
    ledger.Change (ledger.step step) := by
  cases step with
  | advance duration =>
      refine .elapsed duration.exactSeconds duration.exactSeconds_nonneg
        (Instant.exactSeconds_after _ _) ?_ rfl
      rw [← ledger.capacity_eq, ← ledger.rate_eq]
      exact BucketRun.balance_advance (by rw [ledger.rate_eq]; exact terms.rate_pos.le)
        ledger.refilled duration
  | reserve =>
      have balance : (ledger.step .reserve).balance = ledger.balance - 1 :=
        ledger.run.balance_reserve
      refine .granted
        { step := ledger.count, ready := ledger.now + (ledger.run.bucket.reserve ledger.run.now).1 }
        rfl rfl ?_ rfl balance ?_
      · rw [balance, BucketRun.delay_reserve, ledger.rate_eq]
        rfl
      · -- Reservations are booked before the tokens taken at once, so the new one is in the middle.
        simp only [grants, step, reservationsAfter, takingsAfter]
        rw [List.append_assoc, List.singleton_append]
        exact List.perm_middle
  | cancel reservation =>
      by_cases held : ledger.run.held[reservation]? = some true
      · obtain ⟨front, grant, back, _, live, whole, modified⟩ :=
          exists_of_held held (Grant.giveBack ledger.count)
        refine .returned front grant (back ++ ledger.takings) (Option.isNone_iff_eq_none.mp live)
          ?_ ?_ ?_ ?_
        · simp only [now, step, BucketRun.step, if_pos held]
        · rw [← ledger.capacity_eq]
          exact BucketRun.balance_cancel held
        · simp [grants, whole]
        · simp [grants, step, reservationsAfter, takingsAfter, if_pos held, modified]
      · have sameRun : (ledger.step (.cancel reservation)).run = ledger.run :=
          BucketRun.step_cancel_of_not_held held
        refine .still ?_ ?_ ?_
        · rw [now, sameRun, now]
        · rw [balance, sameRun, balance]
        · simp [grants, step, reservationsAfter, takingsAfter, if_neg held]
  | tryAcquire =>
      by_cases enough : 1 ≤ ledger.balance
      · have balance : (ledger.step .tryAcquire).balance = ledger.balance - 1 :=
          BucketRun.balance_tryAcquire_of_le enough
        have taken := (ledger.run.tryAcquire_eq_true_iff).mpr enough
        refine .granted { step := ledger.count, ready := ledger.now } rfl rfl ?_ rfl balance ?_
        · -- A token that is taken at once leaves no deficit behind it, so it is ready now.
          rw [balance, max_eq_left (by linarith), zero_div, add_zero]
        · simp only [grants, step, reservationsAfter, takingsAfter, if_pos taken]
          rw [← List.append_assoc]
          exact List.perm_append_singleton _ _
      · have refused := mt (ledger.run.tryAcquire_eq_true_iff).mp enough
        refine .still rfl (BucketRun.balance_tryAcquire_of_lt (not_le.mp enough)) ?_
        simp only [grants, step, reservationsAfter, takingsAfter, if_neg refused]
  | available => exact .still rfl ledger.run.balance_available rfl

end Ledger

end Outbound
