import Mathlib.Data.Finset.Max
import Outbound.Proofs.Bucket.Conservation

/-! # Tokens that are ready in a window of time

Within any window of time no more tokens get ready than fit into the bucket and are gained within
the window, save for tokens that were put back too late: a reservation that is cancelled when later
ones have already been told their delays moves no one forward, and its token is promised anew, to be
ready along with one of those.

* `Ledger.within` are the live tokens ready in a window; `Ledger.overtaken` are the reservations
  that were made before all of these and cancelled between two of them.
* `Ledger.Windowed` is the invariant: a bound on what was given out and not put back between any two
  grants, by the times at which these are ready.
* `Ledger.length_within_le` is the law of the window, and `Ledger.overtaking_exceeds_window` a run
  in which two tokens are ready at the same instant though the bucket holds and gains but one. -/

namespace Outbound

/-! ## Counting -/

section Counting

variable {α : Type} {p q r : α → Bool} {items : List α}

/-- Items of either of two kinds are counted once if no item is of both kinds. -/
theorem countP_add_countP_le (apart : ∀ item ∈ items, p item = true → q item = false)
    (left : ∀ item ∈ items, p item = true → r item = true)
    (right : ∀ item ∈ items, q item = true → r item = true) :
    items.countP p + items.countP q ≤ items.countP r := by
  induction items with
  | nil => simp
  | cons item items inductionHypothesis =>
      have others := inductionHypothesis
        (fun other member => apart other (List.mem_cons_of_mem _ member))
        (fun other member => left other (List.mem_cons_of_mem _ member))
        (fun other member => right other (List.mem_cons_of_mem _ member))
      have first : item ∈ item :: items := List.mem_cons_self
      have notBoth := apart item first
      have ofLeft := left item first
      have ofRight := right item first
      simp only [List.countP_cons]
      cases kindP : p item <;> cases kindQ : q item <;> simp_all <;> omega

/-- Items that are of one of two kinds each are counted by one of the two counts. -/
theorem countP_le_countP_add (either : ∀ item ∈ items, p item = true →
    q item = true ∨ r item = true) : items.countP p ≤ items.countP q + items.countP r := by
  induction items with
  | nil => simp
  | cons item items inductionHypothesis =>
      have others := inductionHypothesis
        (fun other member => either other (List.mem_cons_of_mem _ member))
      have first := either item List.mem_cons_self
      simp only [List.countP_cons]
      cases kindP : p item <;> cases kindQ : q item <;> cases kindR : r item <;> simp_all <;> omega

end Counting

namespace Grant

/-- Whether a token was given out at one of two steps or between them. -/
def madeBetween (first last : Nat) (grant : Grant) : Bool :=
  decide (first ≤ grant.step) && decide (grant.step ≤ last)

/-- Whether a token was put back between two steps. -/
def returnedBetween (first last : Nat) (grant : Grant) : Bool :=
  grant.returned.any fun step => decide (first < step) && decide (step < last)

end Grant

namespace Ledger

variable {terms : Terms} {before after ledger : Ledger terms}

/-! ## Windows -/

/-- The tokens that were not put back and are ready in a window of time. -/
def within (ledger : Ledger terms) (first last : ℚ) : List Grant :=
  ledger.live.filter fun grant => decide (first ≤ grant.ready) && decide (grant.ready ≤ last)

/-- The tokens that were given out before all live ones of a window, and put back between two of
these. -/
def overtaken (ledger : Ledger terms) (first last : ℚ) : List Grant :=
  ledger.grants.filter fun grant => grant.returned.any fun step =>
    (ledger.within first last).all (fun other => decide (grant.step < other.step)) &&
      (ledger.within first last).any (fun other => decide (other.step < step)) &&
      (ledger.within first last).any fun other => decide (step < other.step)

/-- What was given out from a step to another one, less what was put back meanwhile. -/
def given (ledger : Ledger terms) (first last : Nat) : ℚ :=
  ledger.grants.countP (Grant.madeBetween first last)
    - ledger.grants.countP (Grant.returnedBetween first last)

/-- Between two grants no more is given out than the times at which they are ready allow. -/
structure Windowed (ledger : Ledger terms) : Prop where
  /-- Every token was given out by an earlier step. -/
  step_lt : ∀ grant ∈ ledger.grants, grant.step < ledger.count
  /-- A token is put back by a step behind the one that gave it out. -/
  returned_lt : ∀ grant ∈ ledger.grants, ∀ step ∈ grant.returned,
    grant.step < step ∧ step < ledger.count
  /-- The balance bounds what was given out since a grant. -/
  unfinished : ∀ grant ∈ ledger.grants,
    ledger.balance + ledger.given grant.step ledger.count
      ≤ terms.capacity + terms.rate * (ledger.now - grant.ready)
  /-- A later grant bounds what was given out since a grant. -/
  finished : ∀ grant ∈ ledger.grants, ∀ other ∈ ledger.grants, grant.step ≤ other.step →
    ledger.given grant.step other.step
      ≤ terms.capacity + terms.rate * (other.ready - grant.ready)

/-- Without grants there is nothing to bound. -/
theorem windowed_opened (terms : Terms) (created : Instant) :
    (opened terms created).Windowed where
  step_lt := by simp [grants, opened]
  returned_lt := by simp [grants, opened]
  unfinished := by simp [grants, opened]
  finished := by simp [grants, opened]

/-! ## What a step changes -/

/-- What was given out between two steps is determined by the tokens given out. -/
theorem given_eq_of_grants_eq (grants : after.grants = before.grants) (first last : Nat) :
    after.given first last = before.given first last := by rw [given, given, grants]

/-- Nothing was given out beyond the steps that were made. -/
theorem Windowed.given_of_count_le (windowed : ledger.Windowed) (first : Nat) {last : Nat}
    (beyond : ledger.count ≤ last) : ledger.given first last = ledger.given first ledger.count := by
  have made : ledger.grants.countP (Grant.madeBetween first last)
      = ledger.grants.countP (Grant.madeBetween first ledger.count) := by
    refine List.countP_congr fun grant member => ?_
    have early := windowed.step_lt grant member
    simp only [Grant.madeBetween, Bool.and_eq_true, decide_eq_true_eq]
    omega
  have returned : ledger.grants.countP (Grant.returnedBetween first last)
      = ledger.grants.countP (Grant.returnedBetween first ledger.count) := by
    refine List.countP_congr fun grant member => ?_
    simp only [Grant.returnedBetween, Option.any_eq_true, Bool.and_eq_true, decide_eq_true_eq]
    constructor
    · rintro ⟨step, back, after, _⟩
      exact ⟨step, back, after, (windowed.returned_lt grant member step back).2⟩
    · rintro ⟨step, back, after, before⟩
      exact ⟨step, back, after, before.trans_le beyond⟩
  rw [given, given, made, returned]

/-- Nothing was given out from now on. -/
theorem Windowed.given_count (windowed : ledger.Windowed) :
    ledger.given ledger.count ledger.count = 0 := by
  have made : ledger.grants.countP (Grant.madeBetween ledger.count ledger.count) = 0 := by
    refine List.countP_eq_zero.mpr fun grant member => ?_
    have early := windowed.step_lt grant member
    simp only [Grant.madeBetween, Bool.and_eq_true, decide_eq_true_eq]
    omega
  have returned : ledger.grants.countP (Grant.returnedBetween ledger.count ledger.count) = 0 := by
    refine List.countP_eq_zero.mpr fun grant member => ?_
    simp only [Grant.returnedBetween, Option.any_eq_true, Bool.and_eq_true, decide_eq_true_eq]
    rintro ⟨step, _, after, before⟩
    omega
  rw [given, made, returned]
  norm_num

/-- A token that is given out counts from now on. -/
theorem given_of_granted {grant : Grant} (step : grant.step = before.count)
    (live : grant.returned = none) (grants : after.grants.Perm (grant :: before.grants))
    {first last : Nat} (start : first ≤ before.count) :
    after.given first last = before.given first last + if before.count ≤ last then 1 else 0 := by
  have notBack : grant.returnedBetween first last = false := by
    simp [Grant.returnedBetween, live]
  rw [given, given, grants.countP_eq, grants.countP_eq, List.countP_cons, List.countP_cons, notBack]
  simp only [Grant.madeBetween, step, start, decide_true, Bool.true_and, decide_eq_true_eq,
    Bool.false_eq_true, if_false, add_zero]
  split <;> push_cast <;> ring

/-- A token that is put back no longer counts from now on. -/
theorem given_of_returned {front back : List Grant} {grant : Grant} (live : grant.returned = none)
    (grants : before.grants = front ++ grant :: back)
    (grantsAfter : after.grants = front ++ grant.giveBack before.count :: back)
    {first last : Nat} (start : first < before.count) :
    after.given first last = before.given first last - if before.count < last then 1 else 0 := by
  have sameMade : (grant.giveBack before.count).madeBetween first last
      = grant.madeBetween first last := rfl
  have notBack : grant.returnedBetween first last = false := by
    simp [Grant.returnedBetween, live]
  have nowBack : (grant.giveBack before.count).returnedBetween first last
      = decide (before.count < last) := by
    simp [Grant.returnedBetween, Grant.giveBack, start]
  rw [given, given, grants, grantsAfter]
  simp only [List.countP_append, List.countP_cons, sameMade, notBack, nowBack, decide_eq_true_eq,
    Bool.false_eq_true, if_false, add_zero]
  split <;> push_cast <;> ring

/-- A step that gives nothing out leaves the bounds as they are. -/
theorem Windowed.of_grants_eq (windowed : before.Windowed)
    (counted : after.count = before.count + 1) (grants : after.grants = before.grants)
    (room : after.balance - before.balance ≤ terms.rate * (after.now - before.now)) :
    after.Windowed where
  step_lt grant member := by
    rw [grants] at member
    exact counted ▸ (windowed.step_lt grant member).trans (Nat.lt_succ_self _)
  returned_lt grant member step back := by
    rw [grants] at member
    obtain ⟨later, earlier⟩ := windowed.returned_lt grant member step back
    exact ⟨later, counted ▸ earlier.trans (Nat.lt_succ_self _)⟩
  unfinished grant member := by
    rw [grants] at member
    have bound := windowed.unfinished grant member
    rw [given_eq_of_grants_eq grants, windowed.given_of_count_le _ (counted ▸ Nat.le_succ _)]
    linarith
  finished grant member other otherMember order := by
    rw [grants] at member otherMember
    rw [given_eq_of_grants_eq grants]
    exact windowed.finished grant member other otherMember order

/-- A token that is given out is bounded by the balance behind it, and bounds what was given out
before. -/
theorem Windowed.of_granted (windowed : before.Windowed) (counted : after.count = before.count + 1)
    {grant : Grant} (step : grant.step = before.count) (live : grant.returned = none)
    (ready : grant.ready = before.now + max 0 (-after.balance) / terms.rate)
    (now : after.now = before.now) (balance : after.balance = before.balance - 1)
    (grants : after.grants.Perm (grant :: before.grants)) : after.Windowed := by
  have capacity := terms.one_le_capacity
  have full := before.balance_le
  have owed := deficit_le_gain ready
  have wait : terms.rate * (grant.ready - before.now) = max 0 (-after.balance) := by
    rw [ready, add_sub_cancel_left, mul_div_cancel₀ _ terms.rate_pos.ne']
  -- The new grant is bounded by itself: what is missing is gained until it is ready.
  have fresh : after.balance + 1 ≤ terms.capacity + terms.rate * (before.now - grant.ready) := by
    have turned : terms.rate * (before.now - grant.ready)
        = -(terms.rate * (grant.ready - before.now)) := by ring
    rw [turned, wait]
    rcases max_cases 0 (-after.balance) with ⟨same, _⟩ | ⟨same, _⟩ <;> rw [same] <;> linarith
  have more : ∀ first ≤ before.count, ∀ last, before.count ≤ last →
      after.given first last = before.given first before.count + 1 := by
    intro first start last beyond
    rw [given_of_granted step live grants start, if_pos beyond,
      windowed.given_of_count_le first beyond]
  have members : ∀ {other}, other ∈ after.grants → other = grant ∨ other ∈ before.grants :=
    fun member => List.mem_cons.mp (grants.mem_iff.mp member)
  constructor
  · intro other member
    rcases members member with rfl | earlier
    · omega
    · have early := windowed.step_lt other earlier
      omega
  · intro other member back returned
    rcases members member with rfl | earlier
    · rw [live] at returned
      exact absurd returned (Option.not_mem_none back)
    · obtain ⟨later, early⟩ := windowed.returned_lt other earlier back returned
      exact ⟨later, by omega⟩
  · intro other member
    rcases members member with rfl | earlier
    · rw [step, more _ le_rfl _ (by omega), windowed.given_count, now]
      linarith
    · have bound := windowed.unfinished other earlier
      have early := windowed.step_lt other earlier
      rw [more _ early.le _ (by omega), now]
      linarith
  · intro first firstMember last lastMember order
    rcases members firstMember with rfl | firstEarlier
    · rcases members lastMember with rfl | lastEarlier
      · rw [step, more _ le_rfl _ le_rfl, windowed.given_count]
        linarith
      · have early := windowed.step_lt last lastEarlier
        omega
    · have firstEarly := windowed.step_lt first firstEarlier
      rcases members lastMember with rfl | lastEarlier
      · -- What the balance bounds now, the new grant bounds from now on.
        have bound := windowed.unfinished first firstEarlier
        rw [step, more _ firstEarly.le _ le_rfl]
        linarith
      · have lastEarly := windowed.step_lt last lastEarlier
        rw [given_of_granted step live grants firstEarly.le, if_neg (by omega), add_zero]
        exact windowed.finished first firstEarlier last lastEarlier order

/-- A token that is put back makes up for the balance it adds to. -/
theorem Windowed.of_returned (windowed : before.Windowed) (counted : after.count = before.count + 1)
    {front back : List Grant} {grant : Grant} (live : grant.returned = none)
    (now : after.now = before.now) (balance : after.balance ≤ before.balance + 1)
    (grants : before.grants = front ++ grant :: back)
    (grantsAfter : after.grants = front ++ grant.giveBack before.count :: back) :
    after.Windowed := by
  -- Only the mark of the grant is new, so each grant has a counterpart at the same step and time.
  have members : ∀ {other}, other ∈ after.grants → ∃ same ∈ before.grants,
      same.step = other.step ∧ same.ready = other.ready ∧
        (other = same ∨ other = same.giveBack before.count) := by
    intro other member
    rw [grantsAfter, List.mem_append, List.mem_cons] at member
    rw [grants]
    rcases member with there | rfl | there
    · exact ⟨other, by simp [there], rfl, rfl, .inl rfl⟩
    · exact ⟨grant, by simp, rfl, rfl, .inr rfl⟩
    · exact ⟨other, by simp [there], rfl, rfl, .inl rfl⟩
  constructor
  · intro other member
    obtain ⟨same, earlier, step, _, _⟩ := members member
    have early := windowed.step_lt same earlier
    omega
  · intro other member number returned
    obtain ⟨same, earlier, step, _, rfl | rfl⟩ := members member
    · obtain ⟨later, early⟩ := windowed.returned_lt _ earlier number returned
      exact ⟨later, by omega⟩
    · obtain rfl : before.count = number := Option.some.inj returned
      exact ⟨windowed.step_lt same earlier, by omega⟩
  · intro other member
    -- One token less is given out, and the balance is greater by one at most.
    obtain ⟨same, earlier, step, ready, _⟩ := members member
    have early := windowed.step_lt same earlier
    have bound := windowed.unfinished same earlier
    rw [← step, ← ready, given_of_returned live grants grantsAfter early, if_pos (by omega),
      windowed.given_of_count_le _ (by omega), now]
    linarith
  · intro first firstMember last lastMember order
    obtain ⟨sameFirst, firstEarlier, firstStep, firstReady, _⟩ := members firstMember
    obtain ⟨sameLast, lastEarlier, lastStep, lastReady, _⟩ := members lastMember
    have firstEarly := windowed.step_lt sameFirst firstEarlier
    have lastEarly := windowed.step_lt sameLast lastEarlier
    rw [← firstStep, ← lastStep, ← firstReady, ← lastReady,
      given_of_returned live grants grantsAfter firstEarly, if_neg (by omega), sub_zero]
    exact windowed.finished sameFirst firstEarlier sameLast lastEarlier (by omega)

/-- Every step keeps the bounds. -/
theorem Windowed.of_change (windowed : before.Windowed) (counted : after.count = before.count + 1)
    (change : before.Change after) : after.Windowed := by
  cases change with
  | still now balance grants =>
      refine windowed.of_grants_eq counted grants ?_
      rw [now, balance]
      simp
  | elapsed seconds forward now balance grants =>
      refine windowed.of_grants_eq counted grants ?_
      have gained : after.balance ≤ before.balance + seconds * terms.rate :=
        balance.le.trans (min_le_left _ _)
      rw [now]
      linarith
  | granted grant step live ready now balance grants =>
      exact windowed.of_granted counted step live ready now balance grants
  | returned front grant back live now balance grants grantsAfter =>
      exact windowed.of_returned counted live now (balance.le.trans (min_le_left _ _)) grants
        grantsAfter

/-- Every run keeps the bounds. -/
theorem windowed_steps (terms : Terms) (created : Instant) (steps : List BucketStep) :
    ((opened terms created).steps steps).Windowed :=
  steps_induction steps (windowed_opened terms created) fun earlier step windowed =>
    windowed.of_change rfl (earlier.change_step step)

/-! ## The law of the window -/

/-- The live tokens of a window and those given out and put back between two of them were all given
out between these two. -/
theorem Windowed.length_within_add_le (windowed : ledger.Windowed) {first last : ℚ}
    {earliest latest : Grant}
    (least : ∀ grant ∈ ledger.within first last, earliest.step ≤ grant.step)
    (greatest : ∀ grant ∈ ledger.within first last, grant.step ≤ latest.step) :
    (ledger.within first last).length
        + ledger.grants.countP (fun grant =>
            grant.returnedBetween earliest.step latest.step && decide (earliest.step ≤ grant.step))
      ≤ ledger.grants.countP (Grant.madeBetween earliest.step latest.step) := by
  rw [within, live, List.filter_filter, ← List.countP_eq_length_filter]
  refine countP_add_countP_le ?_ ?_ ?_
  · intro grant _ inside
    simp only [Bool.and_eq_true, Grant.isLive, Option.isNone_iff_eq_none] at inside
    simp [Grant.returnedBetween, inside.2]
  · intro grant member inside
    have among : grant ∈ ledger.within first last := by
      rw [within, live, List.filter_filter]
      exact List.mem_filter.mpr ⟨member, inside⟩
    simp only [Grant.madeBetween, Bool.and_eq_true, decide_eq_true_eq]
    exact ⟨least grant among, greatest grant among⟩
  · intro grant member inside
    simp only [Grant.returnedBetween, Option.any_eq_true, Bool.and_eq_true,
      decide_eq_true_eq] at inside
    obtain ⟨⟨step, back, _, before⟩, later⟩ := inside
    have given := (windowed.returned_lt grant member step back).1
    simp only [Grant.madeBetween, Bool.and_eq_true, decide_eq_true_eq]
    omega

/-- A token put back between two of the live tokens of a window was overtaken by them, unless it was
given out between them, too. -/
theorem countP_returnedBetween_le {first last : ℚ} {earliest latest : Grant}
    (earliestMember : earliest ∈ ledger.within first last)
    (latestMember : latest ∈ ledger.within first last)
    (least : ∀ grant ∈ ledger.within first last, earliest.step ≤ grant.step) :
    ledger.grants.countP (Grant.returnedBetween earliest.step latest.step)
      ≤ ledger.grants.countP (fun grant =>
            grant.returnedBetween earliest.step latest.step && decide (earliest.step ≤ grant.step))
        + (ledger.overtaken first last).length := by
  rw [overtaken, ← List.countP_eq_length_filter]
  refine countP_le_countP_add fun grant _ returned => ?_
  -- A token that is given out before all of the window and put back between them is overtaken.
  by_cases later : earliest.step ≤ grant.step
  · left
    simp [returned, later]
  · right
    simp only [Grant.returnedBetween, Option.any_eq_true, Bool.and_eq_true,
      decide_eq_true_eq] at returned
    obtain ⟨step, back, after, before⟩ := returned
    simp only [Option.any_eq_true, Bool.and_eq_true, List.all_eq_true, List.any_eq_true,
      decide_eq_true_eq]
    refine ⟨step, back, ⟨fun other member => ?_, earliest, earliestMember, after⟩, latest,
      latestMember, before⟩
    have order := least other member
    omega

/-- The law of the window. In every run from a full bucket the tokens that are never put back and
are ready in a window of time are no more than the bucket can hold and gains within the window, and
the tokens that were given out before all of them and put back between two of them. -/
theorem length_within_le (terms : Terms) (created : Instant) (steps : List BucketStep)
    {first last : ℚ} (order : first ≤ last) :
    let ledger := (opened terms created).steps steps
    ((ledger.within first last).length : ℚ)
      ≤ terms.capacity + terms.rate * (last - first) + (ledger.overtaken first last).length := by
  intro ledger
  have windowed : ledger.Windowed := windowed_steps terms created steps
  -- The window is spanned by the first and the last of its grants in the order of the steps.
  by_cases some : (ledger.within first last).toFinset.Nonempty
  · obtain ⟨earliest, earliestIn, least⟩ :=
      (ledger.within first last).toFinset.exists_min_image Grant.step some
    obtain ⟨latest, latestIn, greatest⟩ :=
      (ledger.within first last).toFinset.exists_max_image Grant.step some
    simp only [List.mem_toFinset] at earliestIn least latestIn greatest
    have window : ∀ grant ∈ ledger.within first last,
        grant ∈ ledger.grants ∧ first ≤ grant.ready ∧ grant.ready ≤ last := by
      intro grant member
      simp only [within, live, List.mem_filter, Bool.and_eq_true, decide_eq_true_eq] at member
      exact ⟨member.1.1, member.2⟩
    have inside := windowed.length_within_add_le least greatest
    have outside := countP_returnedBetween_le earliestIn latestIn least
    have bound := windowed.finished earliest (window _ earliestIn).1 latest (window _ latestIn).1
      (least latest latestIn)
    have narrow : terms.rate * (latest.ready - earliest.ready) ≤ terms.rate * (last - first) := by
      refine mul_le_mul_of_nonneg_left ?_ terms.rate_pos.le
      linarith [(window _ earliestIn).2.1, (window _ latestIn).2.2]
    rw [given] at bound
    have inside' := Nat.cast_le (α := ℚ).mpr inside
    have outside' := Nat.cast_le (α := ℚ).mpr outside
    push_cast at inside' outside'
    linarith
  · have none : ledger.within first last = [] := by
      simpa [Finset.nonempty_iff_ne_empty] using some
    have gained : 0 ≤ terms.rate * (last - first) :=
      mul_nonneg terms.rate_pos.le (sub_nonneg.mpr order)
    have capacity := terms.one_le_capacity
    rw [none, List.length_nil, Nat.cast_zero]
    positivity

/-- Three reservations are made at once, the second one is put back before its second is over, and
a fourth one is made. -/
def overtaking : List BucketStep := [.reserve, .reserve, .reserve, .cancel 1, .reserve]

/-- The bound holds with the overtaken token counted, and is reached. -/
theorem length_within_le_overtaking :
    (2 : ℚ) ≤ 2 ∧
      let ledger := (opened singleTerms .start).steps overtaking
      ((ledger.within 2 2).length : ℚ)
        ≤ singleTerms.capacity + singleTerms.rate * (2 - 2) + (ledger.overtaken 2 2).length ∧
      (ledger.within 2 2).length = 2 ∧ (ledger.overtaken 2 2).length = 1 :=
  ⟨le_rfl, length_within_le singleTerms .start overtaking le_rfl, by decide +kernel,
    by decide +kernel⟩

/-- Two tokens are ready at one instant though the bucket holds and gains but one: the token that is
put back at once, a second before it would be ready, is promised anew along with that of the third
reservation. -/
theorem overtaking_exceeds_window :
    let ledger := (opened singleTerms .start).steps overtaking
    ledger.now = 0 ∧
      ledger.grants = [⟨0, 0, none⟩, ⟨1, 1, some 3⟩, ⟨2, 2, none⟩, ⟨4, 2, none⟩] ∧
      ¬ ((ledger.within 2 2).length : ℚ)
        ≤ singleTerms.capacity + singleTerms.rate * (2 - 2) := by
  refine ⟨by decide +kernel, by decide +kernel, ?_⟩
  have two : (((opened singleTerms .start).steps overtaking).within 2 2).length = 2 := by
    decide +kernel
  rw [two]
  norm_num [singleTerms]

end Ledger

end Outbound
