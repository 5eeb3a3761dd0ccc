import Outbound.Proofs.Bucket.Ledger

/-! # Buckets that are refilled all the time

A bucket is refilled only when somebody asks it for something, and each time it notes up to which
instant it was. A reservoir is refilled all the time, and its balance is that of now. From the
outside the two cannot be told apart: what is looked at, and when, makes no difference.

* `Reservoir.step` makes a step of a reservoir and `Reservoir.steps` several.
* `Ledger.reservoir` is the reservoir in the place of a bucket; `Ledger.answers_eq` and
  `Ledger.reservoir_steps` say that it answers as the bucket does, in every run.
* `Spares` tells which parts of a run are left when observations are deleted, and
  `Ledger.answers_of_spares` is the law that these are answered as before. -/

namespace Outbound

/-! ## Reservoirs -/

/-- A bucket that is refilled all the time. -/
@[ext] structure Reservoir (terms : Terms) where
  /-- The time. -/
  now : Instant
  /-- The balance. -/
  balance : ℚ
  /-- Whether each reservation is still held. -/
  held : List Bool

namespace Reservoir

variable {terms : Terms}

/-- Makes a step. -/
def step (reservoir : Reservoir terms) : BucketStep → BucketAnswer ℚ × Reservoir terms
  | .advance duration =>
      (.nothing,
        { reservoir with
          now := reservoir.now.after duration
          balance := min (reservoir.balance + duration.exactSeconds * terms.rate) terms.capacity })
  | .reserve =>
      (.delay (max 0 (-(reservoir.balance - 1)) / terms.rate),
        { reservoir with
          balance := reservoir.balance - 1
          held := reservoir.held ++ [true] })
  | .cancel reservation =>
      if reservoir.held[reservation]? = some true then
        (.cancelled true,
          { reservoir with
            balance := min (reservoir.balance + 1) terms.capacity
            held := reservoir.held.set reservation false })
      else (.cancelled false, reservoir)
  | .tryAcquire =>
      if 1 ≤ reservoir.balance then
        (.acquired true, { reservoir with balance := reservoir.balance - 1 })
      else (.acquired false, reservoir)
  | .available => (.balance reservoir.balance, reservoir)

/-- Makes steps, with their answers in order. -/
def steps (reservoir : Reservoir terms) :
    List BucketStep → List (BucketAnswer ℚ) × Reservoir terms
  | [] => ([], reservoir)
  | step :: others =>
      let (answer, after) := reservoir.step step
      let (answers, last) := after.steps others
      (answer :: answers, last)

/-- No token is taken if there is none. -/
theorem step_tryAcquire_of_lt {reservoir : Reservoir terms} (few : reservoir.balance < 1) :
    reservoir.step .tryAcquire = (.acquired false, reservoir) := if_neg (not_le.mpr few)

/-- The answers to steps, the first one apart. -/
@[simp] theorem steps_cons_fst (reservoir : Reservoir terms) (step : BucketStep)
    (others : List BucketStep) :
    (reservoir.steps (step :: others)).1 =
      (reservoir.step step).1 :: ((reservoir.step step).2.steps others).1 := rfl

/-- The reservoir behind steps, the first one apart. -/
@[simp] theorem steps_cons_snd (reservoir : Reservoir terms) (step : BucketStep)
    (others : List BucketStep) :
    (reservoir.steps (step :: others)).2 = ((reservoir.step step).2.steps others).2 := rfl

end Reservoir

/-! ## Buckets as reservoirs -/

namespace Ledger

variable {terms : Terms}

/-- The reservoir in the place of a bucket. -/
def reservoir (ledger : Ledger terms) : Reservoir terms :=
  ⟨ledger.run.now, ledger.balance, ledger.run.held⟩

/-- A bucket answers as the reservoir in its place. -/
theorem answer_step (ledger : Ledger terms) (step : BucketStep) :
    (ledger.run.step step).1 = (ledger.reservoir.step step).1 := by
  cases step with
  | advance duration => rfl
  | reserve =>
      have delay := ledger.run.delay_reserve
      rw [ledger.rate_eq] at delay
      exact congrArg BucketAnswer.delay delay
  | cancel reservation =>
      by_cases held : ledger.run.held[reservation]? = some true
      · rw [BucketRun.step, Reservoir.step, reservoir, if_pos held, if_pos held]
      · rw [BucketRun.step, Reservoir.step, reservoir, if_neg held, if_neg held]
  | tryAcquire =>
      have answer : (ledger.run.step .tryAcquire).1
          = .acquired (ledger.run.bucket.tryAcquire ledger.run.now).1 := rfl
      rw [answer]
      by_cases enough : 1 ≤ ledger.balance
      · rw [ledger.run.tryAcquire_eq_true_iff.mpr enough, Reservoir.step, reservoir, if_pos enough]
      · have refused := mt ledger.run.tryAcquire_eq_true_iff.mp enough
        rw [Bool.eq_false_iff.mpr refused, Reservoir.step, reservoir, if_neg enough]
  | available => rfl

/-- A step of a bucket is one of the reservoir in its place. -/
theorem reservoir_step (ledger : Ledger terms) (step : BucketStep) :
    (ledger.step step).reservoir = (ledger.reservoir.step step).2 := by
  cases step with
  | advance duration =>
      have gains : 0 ≤ ledger.run.bucket.rate := ledger.rate_eq ▸ terms.rate_pos.le
      have balance := BucketRun.balance_advance gains ledger.refilled duration
      rw [ledger.capacity_eq, ledger.rate_eq] at balance
      exact Reservoir.ext rfl balance rfl
  | reserve => exact Reservoir.ext rfl ledger.run.balance_reserve rfl
  | cancel reservation =>
      by_cases held : ledger.run.held[reservation]? = some true
      · have balance := BucketRun.balance_cancel held
        rw [ledger.capacity_eq] at balance
        rw [Reservoir.step, reservoir, reservoir, if_pos held]
        refine Reservoir.ext ?_ balance ?_ <;> simp only [Ledger.step, BucketRun.step, if_pos held]
      · -- The bucket is not even refilled, but the balance it would tell is the same.
        have sameRun : (ledger.step (.cancel reservation)).run = ledger.run :=
          BucketRun.step_cancel_of_not_held held
        rw [Reservoir.step, reservoir, reservoir, balance, sameRun, if_neg held]
        rfl
  | tryAcquire =>
      by_cases enough : 1 ≤ ledger.balance
      · rw [Reservoir.step, reservoir, reservoir, if_pos enough]
        exact Reservoir.ext rfl (BucketRun.balance_tryAcquire_of_le enough) rfl
      · rw [Reservoir.step, reservoir, reservoir, if_neg enough]
        exact Reservoir.ext rfl (BucketRun.balance_tryAcquire_of_lt (not_le.mp enough)) rfl
  | available => exact Reservoir.ext rfl ledger.run.balance_available rfl

/-- A bucket answers in a run as the reservoir in its place. -/
theorem answers_eq (ledger : Ledger terms) (steps : List BucketStep) :
    (ledger.run.steps steps).1 = (ledger.reservoir.steps steps).1 := by
  induction steps generalizing ledger with
  | nil => rfl
  | cons step others inductionHypothesis =>
      rw [Reservoir.steps_cons_fst, ← answer_step, ← reservoir_step, ← inductionHypothesis]
      rfl

/-- A run of a bucket is one of the reservoir in its place. -/
theorem reservoir_steps (ledger : Ledger terms) (steps : List BucketStep) :
    (ledger.steps steps).reservoir = (ledger.reservoir.steps steps).2 := by
  induction steps generalizing ledger with
  | nil => rfl
  | cons step others inductionHypothesis =>
      rw [Reservoir.steps_cons_snd, ← reservoir_step, ← inductionHypothesis]
      rfl

end Ledger

/-! ## Observations -/

deriving instance DecidableEq for BucketAnswer

/-- The steps of a run with their answers. -/
def BucketRun.told (run : BucketRun ℚ) (steps : List BucketStep) :
    List (BucketStep × BucketAnswer ℚ) := steps.zip (run.steps steps).1

/-- Whether a step only asks for the balance: it looks at it, or it asks in vain for a token. -/
def isObservation : BucketStep × BucketAnswer ℚ → Bool
  | (.available, _) => true
  | (.tryAcquire, .acquired false) => true
  | _ => false

/-- A run with any of its observations deleted. -/
inductive Spares : List (BucketStep × BucketAnswer ℚ) → List (BucketStep × BucketAnswer ℚ) → Prop
  /-- Nothing is left of the run. -/
  | nothing : Spares [] []
  /-- A step is kept. -/
  | kept {entry : BucketStep × BucketAnswer ℚ} {told spared : List (BucketStep × BucketAnswer ℚ)}
      (others : Spares told spared) : Spares (entry :: told) (entry :: spared)
  /-- An observation is deleted. -/
  | deleted {entry : BucketStep × BucketAnswer ℚ}
      {told spared : List (BucketStep × BucketAnswer ℚ)} (observation : isObservation entry)
      (others : Spares told spared) : Spares (entry :: told) spared

namespace Reservoir

variable {terms : Terms}

/-- An observation leaves a reservoir as it is. -/
theorem step_of_observation {reservoir : Reservoir terms} {step : BucketStep}
    (observation : isObservation (step, (reservoir.step step).1)) :
    (reservoir.step step).2 = reservoir := by
  cases step with
  | tryAcquire =>
      rw [Reservoir.step] at observation ⊢
      split
      next enough =>
        rw [if_pos enough] at observation
        cases observation
      next => rfl
  | available => rfl
  | _ => cases observation

/-- Deleting observations changes neither the other answers nor the reservoir behind the run. -/
theorem steps_of_spares {reservoir : Reservoir terms} {steps : List BucketStep}
    {spared : List (BucketStep × BucketAnswer ℚ)}
    (spares : Spares (steps.zip (reservoir.steps steps).1) spared) :
    reservoir.steps (spared.map Prod.fst) =
      (spared.map Prod.snd, (reservoir.steps steps).2) := by
  -- The induction is on the whole run, of which each step is either kept or deleted.
  induction steps generalizing reservoir spared with
  | nil =>
      cases spares with
      | nothing => rfl
  | cons step others inductionHypothesis =>
      rw [steps_cons_fst, List.zip_cons_cons] at spares
      cases spares with
      | kept rest =>
          have further := inductionHypothesis rest
          simp only [List.map_cons, Reservoir.steps, further]
      | deleted observation rest =>
          -- The reservoir is still the same one behind what is deleted.
          have further := inductionHypothesis rest
          rw [steps_cons_snd]
          rw [step_of_observation observation] at further ⊢
          exact further

end Reservoir

namespace Ledger

/-- The law of observations. In every run from a full bucket any of the times at which the balance
is looked at, and any of those at which a token is asked for in vain, may be deleted: all other
steps are answered as before, and at the same time the same balance is told behind the run, with the
same reservations held. -/
theorem answers_of_spares (terms : Terms) (created : Instant) (steps : List BucketStep)
    {spared : List (BucketStep × BucketAnswer ℚ)}
    (spares : Spares ((opened terms created).run.told steps) spared) :
    let fresh := (opened terms created).run
    let whole := (fresh.steps steps).2
    let rest := (fresh.steps (spared.map Prod.fst)).2
    (fresh.steps (spared.map Prod.fst)).1 = spared.map Prod.snd ∧
      rest.now = whole.now ∧ rest.balance = whole.balance ∧ rest.held = whole.held := by
  intro fresh whole rest
  rw [BucketRun.told, answers_eq] at spares
  have same := Reservoir.steps_of_spares spares
  have answers : (fresh.steps (spared.map Prod.fst)).1 = spared.map Prod.snd := by
    rw [answers_eq, same]
  have behind : ((opened terms created).steps (spared.map Prod.fst)).reservoir
      = ((opened terms created).steps steps).reservoir := by
    rw [reservoir_steps, reservoir_steps, same]
  have restEq : ((opened terms created).steps (spared.map Prod.fst)).run = rest := run_steps _ _
  have wholeEq : ((opened terms created).steps steps).run = whole := run_steps _ _
  rw [← restEq, ← wholeEq]
  exact ⟨answers, congrArg Reservoir.now behind, congrArg Reservoir.balance behind,
    congrArg Reservoir.held behind⟩

/-- The balance of a bucket for one token is looked at, the token is taken, another one is asked for
in vain, and half a second later the balance is looked at before a token is reserved. -/
def watched : List BucketStep :=
  [.available, .reserve, .tryAcquire, .advance (.ofMillis 500), .available, .reserve]

/-- Without the first look and the vain attempt the second look and the delays are the same. -/
theorem answers_of_spares_watched :
    let fresh := (opened singleTerms .start).run
    let spared : List (BucketStep × BucketAnswer ℚ) :=
      [(.reserve, .delay 0), (.advance (.ofMillis 500), .nothing), (.available, .balance (1 / 2)),
        (.reserve, .delay (1 / 2))]
    Spares (fresh.told watched) spared ∧
      (fresh.steps (spared.map Prod.fst)).1 = spared.map Prod.snd ∧
      (fresh.steps (spared.map Prod.fst)).2.balance = (fresh.steps watched).2.balance := by
  intro fresh spared
  have told : fresh.told watched =
      (.available, .balance 1) :: (.reserve, .delay 0) :: (.tryAcquire, .acquired false) ::
        spared.tail := by decide +kernel
  have spares : Spares (fresh.told watched) spared := by
    rw [told]
    exact .deleted rfl <| .kept <| .deleted rfl <| .kept <| .kept <| .kept .nothing
  have law := answers_of_spares singleTerms .start watched spares
  exact ⟨spares, law.1, law.2.2.1⟩

end Ledger

end Outbound
