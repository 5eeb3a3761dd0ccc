import Outbound.Proofs.Bucket.Ledger

/-! # Conservation of tokens

A bucket starts full and gains tokens at its rate. Whatever is taken out of it, taken at once or put
back, and in whatever order, there are never more tokens about than it started with and gained.

* `Ledger.Conserved` is the invariant: a bound on the balance with the tokens given out, and one on
  the tokens that are ready by an instant.
* `Ledger.Conserved.of_change` says that every step keeps it, and `Ledger.tokens_conserved` that it
  holds in every run. -/

namespace Outbound

namespace Ledger

variable {terms : Terms} {before after ledger : Ledger terms}

/-! ## Live tokens -/

/-- The tokens that were not put back and are ready by an instant. -/
def readyBy (ledger : Ledger terms) (instant : ℚ) : List Grant :=
  ledger.live.filter fun grant => grant.ready ≤ instant

/-- The balance never exceeds the capacity. -/
theorem balance_le (ledger : Ledger terms) : ledger.balance ≤ terms.capacity := by
  rw [← ledger.capacity_eq]
  exact ledger.run.balance_le_capacity

/-- There are no more tokens ready by an instant than live ones. -/
theorem length_readyBy_le (ledger : Ledger terms) (instant : ℚ) :
    (ledger.readyBy instant).length ≤ ledger.live.length := List.length_filter_le _ _

/-- The live tokens are determined by the tokens given out. -/
theorem live_eq_of_grants_eq (grants : after.grants = before.grants) : after.live = before.live :=
  congrArg (List.filter Grant.isLive) grants

/-- A token that is given out is live. -/
theorem live_perm_of_granted {grant : Grant} (live : grant.returned = none)
    (grants : after.grants.Perm (grant :: before.grants)) :
    after.live.Perm (grant :: before.live) := by
  have step := grants.filter Grant.isLive
  rwa [List.filter_cons_of_pos (by simp [Grant.isLive, live])] at step

/-- A token that is put back is no longer live. -/
theorem live_perm_of_returned {front back : List Grant} {grant : Grant} {step : Nat}
    (live : grant.returned = none) (grants : before.grants = front ++ grant :: back)
    (grantsAfter : after.grants = front ++ grant.giveBack step :: back) :
    before.live.Perm (grant :: after.live) := by
  have gone : (grant.giveBack step).isLive = false := rfl
  have there : grant.isLive = true := by simp [Grant.isLive, live]
  simp only [Ledger.live, grants, grantsAfter, List.filter_append, List.filter_cons, gone, there,
    if_true, Bool.false_eq_true, if_false]
  exact List.perm_middle

/-! ## The invariant -/

/-- No tokens came about but those the bucket started with and those it gained since. -/
structure Conserved (created : ℚ) (ledger : Ledger terms) : Prop where
  /-- The balance and the live tokens together are bounded. -/
  total : ledger.balance + ledger.live.length
    ≤ terms.capacity + terms.rate * (ledger.now - created)
  /-- The live tokens that are ready by an instant are bounded. -/
  promised : ∀ instant, ((ledger.readyBy instant).length : ℚ)
    ≤ max 0 (terms.capacity + terms.rate * (instant - created))

/-- A full bucket conserves tokens. -/
theorem conserved_opened (terms : Terms) (created : Instant) :
    (opened terms created).Conserved created.exactSeconds where
  total := by
    have bound := (opened terms created).balance_le
    simpa [live, grants, opened, now] using bound
  promised instant := by simp [readyBy, live, grants, opened]

/-- The token of a grant exists when it is ready: what is gained from now on until then makes up for
the deficit behind it. -/
theorem deficit_le_gain {grant : Grant} {now balance : ℚ}
    (ready : grant.ready = now + max 0 (-balance) / terms.rate) :
    -balance ≤ terms.rate * (grant.ready - now) := by
  rw [ready, add_sub_cancel_left, mul_div_cancel₀ _ terms.rate_pos.ne']
  exact le_max_right _ _

/-- Every step conserves tokens. -/
theorem Conserved.of_change {created : ℚ} (conserved : before.Conserved created)
    (change : before.Change after) : after.Conserved created := by
  obtain ⟨total, promised⟩ := conserved
  cases change with
  | still now balance grants =>
      have sameLive := live_eq_of_grants_eq grants
      constructor
      · rw [balance, sameLive, now]
        exact total
      · intro instant
        rw [readyBy, sameLive]
        exact promised instant
  | elapsed seconds forward now balance grants =>
      have sameLive := live_eq_of_grants_eq grants
      constructor
      · have gained : after.balance ≤ before.balance + seconds * terms.rate :=
          balance.le.trans (min_le_left _ _)
        rw [sameLive, now]
        linarith
      · intro instant
        rw [readyBy, sameLive]
        exact promised instant
  | granted grant step live ready now balance grants =>
      have perm := live_perm_of_granted live grants
      have oneMore : (after.live.length : ℚ) = before.live.length + 1 := by
        rw [perm.length_eq, List.length_cons, Nat.cast_succ]
      have totalAfter : after.balance + after.live.length
          ≤ terms.capacity + terms.rate * (after.now - created) := by
        rw [balance, oneMore, now]
        linarith
      refine ⟨totalAfter, fun instant => ?_⟩
      by_cases inTime : grant.ready ≤ instant
      · -- All live tokens together are no more than what is there when the new one is ready.
        have few : ((after.readyBy instant).length : ℚ) ≤ after.live.length :=
          Nat.cast_le.mpr (after.length_readyBy_le instant)
        have owed := deficit_le_gain ready
        have untilThen : terms.rate * (grant.ready - created)
            ≤ terms.rate * (instant - created) :=
          mul_le_mul_of_nonneg_left (by linarith) terms.rate_pos.le
        rw [now] at totalAfter
        exact le_max_of_le_right (by linarith)
      · -- The new token is not ready by then and changes nothing.
        have sameReady : (after.readyBy instant).Perm (before.readyBy instant) := by
          have filtered := perm.filter fun grant => decide (grant.ready ≤ instant)
          rwa [List.filter_cons_of_neg (by simpa using inTime)] at filtered
        rw [sameReady.length_eq]
        exact promised instant
  | returned front grant back live now balance grants grantsAfter =>
      have perm := live_perm_of_returned live grants grantsAfter
      have oneLess : (before.live.length : ℚ) = after.live.length + 1 := by
        rw [perm.length_eq, List.length_cons, Nat.cast_succ]
      -- The balance grows by one at most, and the token that makes up for it is no longer live.
      constructor
      · have gained : after.balance ≤ before.balance + 1 := balance.le.trans (min_le_left _ _)
        rw [now]
        linarith
      · intro instant
        have fewer : (after.readyBy instant).length ≤ (before.readyBy instant).length := by
          have filtered := perm.filter fun grant => decide (grant.ready ≤ instant)
          rw [readyBy, readyBy, filtered.length_eq]
          exact (List.sublist_cons_self grant after.live).filter _ |>.length_le
        exact (Nat.cast_le.mpr fewer).trans (promised instant)

/-- Every run conserves tokens. -/
theorem conserved_steps (terms : Terms) (created : Instant) (steps : List BucketStep) :
    ((opened terms created).steps steps).Conserved created.exactSeconds :=
  steps_induction steps (conserved_opened terms created) fun earlier step conserved =>
    conserved.of_change (earlier.change_step step)

/-- The law of conservation. In every run from a full bucket the balance never exceeds the capacity;
the balance and the tokens that were given out and not put back together never exceed the capacity
and what was gained since; and by any time no more live tokens are ready than the capacity and what
is gained from the creation to that time, and none while this is negative. -/
theorem tokens_conserved (terms : Terms) (created : Instant) (steps : List BucketStep) :
    let ledger := (opened terms created).steps steps
    ledger.run = ((opened terms created).run.steps steps).2 ∧
      ledger.balance ≤ terms.capacity ∧
      ledger.balance + ledger.live.length
        ≤ terms.capacity + terms.rate * (ledger.now - created.exactSeconds) ∧
      ∀ time : ℚ, ((ledger.readyBy time).length : ℚ)
        ≤ max 0 (terms.capacity + terms.rate * (time - created.exactSeconds)) := by
  intro ledger
  have conserved := conserved_steps terms created steps
  exact ⟨run_steps _ steps, ledger.balance_le, conserved.total, conserved.promised⟩

end Ledger

end Outbound
