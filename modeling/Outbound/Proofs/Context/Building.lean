import Mathlib.Order.Lattice
import Outbound.Context

/-! # How contexts are built

A context begins with nothing, with a token or with a while after which it expires; tokens and
deadlines are added to it one after the other. Deadlines are merged: the context expires with the
first of all it was given. Tokens are not: each one takes the place of the one before.

* `Context.Recipe` is the building of a context; `Recipe.tokens` and `Recipe.deadlines` are what was
  given along the way, in order, and `Recipe.Signalled` says that one of them has come up.
* `Context.Gathers` is the invariant of a context under construction; `Context.Gathers.add` is its
  step and `Context.Gathers.foldl` its run.
* `Recipe.done_of_given` says when a built context is done, which recipes lose no signal, and how
  far the order matters in which tokens and deadlines are given. -/

namespace Outbound

/-- If a single token was set to fire, it is the only one that has fired. -/
theorem Signals.firedBy_fire_silent {token other : TokenId} {now : Instant} :
    (silent.fire token now).firedBy other now = true ↔ other = token := by
  by_cases same : other = token <;> simp [fire, firedBy, silent, same, Instant.le_iff]

namespace Context

/-! ## Recipes -/

/-- How a context begins. -/
inductive Origin where
  /-- With nothing. -/
  | background
  /-- With a token. -/
  | token (token : TokenId)
  /-- With a while from an instant on. -/
  | timeout (now : Instant) (timeout : Duration)
  deriving DecidableEq, Repr

namespace Origin

/-- The context at its beginning. -/
def context : Origin → Context
  | .background => .background
  | .token given => ofToken given
  | .timeout now length => ofTimeout now length

/-- The tokens given at the beginning. -/
def tokens : Origin → List TokenId
  | .token given => [given]
  | .background | .timeout _ _ => []

/-- The deadlines given at the beginning; a while past the range of the clock gives none. -/
def deadlines : Origin → List Instant
  | .timeout now length => if now.after length < clockEnd then [now.after length] else []
  | .background | .token _ => []

end Origin

/-- What is added to a context. -/
inductive Addition where
  /-- A token. -/
  | token (token : TokenId)
  /-- A deadline. -/
  | deadline (deadline : Instant)
  deriving DecidableEq, Repr

namespace Addition

/-- The token added, if it is one. -/
def token? : Addition → Option TokenId
  | .token given => some given
  | .deadline _ => none

/-- The deadline added, if it is one. -/
def deadline? : Addition → Option Instant
  | .token _ => none
  | .deadline given => some given

end Addition

/-- The context with something added. -/
def add (context : Context) : Addition → Context
  | .token given => context.withToken given
  | .deadline given => context.deadlineAt given

/-- The building of a context. -/
structure Recipe where
  /-- How it begins. -/
  origin : Origin
  /-- What is added to it, in order. -/
  additions : List Addition
  deriving DecidableEq, Repr

namespace Recipe

/-- The context that is built. -/
def context (recipe : Recipe) : Context := recipe.additions.foldl add recipe.origin.context

/-- The tokens given along the way. -/
def tokens (recipe : Recipe) : List TokenId :=
  recipe.origin.tokens ++ recipe.additions.filterMap Addition.token?

/-- The deadlines given along the way. -/
def deadlines (recipe : Recipe) : List Instant :=
  recipe.origin.deadlines ++ recipe.additions.filterMap Addition.deadline?

/-- One of the tokens given along the way has fired by an instant, or one of the deadlines has
passed. -/
def Signalled (recipe : Recipe) (signals : Signals) (now : Instant) : Prop :=
  (∃ token ∈ recipe.tokens, signals.firedBy token now = true) ∨
    ∃ deadline ∈ recipe.deadlines, deadline ≤ now

end Recipe

/-! ## Contexts under construction -/

variable {context other : Context} {tokens : List TokenId} {deadlines : List Instant}

/-- A deadline has passed by an instant just if the context has one that is not later. -/
theorem deadlinePassed_iff {now : Instant} :
    context.deadlinePassed now = true ↔ ∃ deadline ∈ context.deadline, deadline ≤ now := by
  unfold deadlinePassed
  cases context.deadline <;> simp

/-- A token has fired by an instant just if the context has one that has. -/
theorem tokenFired_iff {signals : Signals} {now : Instant} :
    context.tokenFired signals now = true ↔
      ∃ token ∈ context.token, signals.firedBy token now = true := by
  unfold tokenFired
  cases context.token <;> simp

/-- A context is done by its token or by its deadline. -/
theorem isDone_iff {signals : Signals} {now : Instant} :
    context.isDone signals now = true ↔
      context.tokenFired signals now = true ∨ context.deadlinePassed now = true := by
  rw [isDone, Bool.or_eq_true]

/-- The deadline of a context is also that of another one that has expired at the same instants. -/
theorem mem_deadline_of_deadlinePassed {deadline : Instant}
    (same : ∀ now, context.deadlinePassed now = other.deadlinePassed now)
    (given : deadline ∈ context.deadline) : deadline ∈ other.deadline := by
  have passed : other.deadlinePassed deadline = true := by
    rw [← same, deadlinePassed_iff]
    exact ⟨deadline, given, Nat.le_refl _⟩
  obtain ⟨deadline', given', notLater⟩ := deadlinePassed_iff.mp passed
  -- The context has expired by the deadline of the other one as well, so that neither is later.
  have passed' : context.deadlinePassed deadline' = true := by
    rw [same, deadlinePassed_iff]
    exact ⟨deadline', given', Nat.le_refl _⟩
  obtain ⟨only, known, notEarlier⟩ := deadlinePassed_iff.mp passed'
  obtain rfl := Option.mem_unique given known
  obtain rfl : deadline' = deadline := Instant.ext (Nat.le_antisymm notLater notEarlier)
  exact given'

/-- Contexts that have expired at the same instants have the same deadline. -/
theorem deadline_eq_of_deadlinePassed
    (same : ∀ now, context.deadlinePassed now = other.deadlinePassed now) :
    context.deadline = other.deadline := by
  ext deadline
  exact ⟨mem_deadline_of_deadlinePassed same,
    mem_deadline_of_deadlinePassed fun now => (same now).symm⟩

/-- What a context under construction has of the tokens and deadlines given so far: the last of the
tokens, and every deadline. -/
structure Gathers (context : Context) (tokens : List TokenId) (deadlines : List Instant) :
    Prop where
  /-- The last token is the one it has. -/
  token : context.token = tokens.getLast?
  /-- It has expired as soon as one of the deadlines has passed. -/
  deadlinePassed : ∀ now,
    context.deadlinePassed now = true ↔ ∃ deadline ∈ deadlines, deadline ≤ now

/-- A context at its beginning has what it was given there. -/
theorem gathers_origin (origin : Origin) :
    origin.context.Gathers origin.tokens origin.deadlines := by
  refine ⟨by cases origin <;> rfl, fun now => ?_⟩
  rw [deadlinePassed_iff]
  cases origin with
  | background => simp [Origin.context, background, Origin.deadlines]
  | token given => simp [Origin.context, ofToken, Origin.deadlines]
  | timeout start length =>
      simp only [Origin.context, ofTimeout, Origin.deadlines]
      split <;> simp

/-- An added deadline has passed, or one that was there before. -/
theorem deadlinePassed_deadlineAt {deadline now : Instant} :
    (context.deadlineAt deadline).deadlinePassed now = true ↔
      context.deadlinePassed now = true ∨ deadline ≤ now := by
  rw [deadlinePassed_iff, deadlinePassed_iff]
  cases given : context.deadline with
  | none => simp [deadlineAt, given]
  | some first => simp [deadlineAt, given, Instant.le_iff]

/-- An added token takes the place of the one before; an added deadline joins the others. -/
theorem Gathers.add (gathers : context.Gathers tokens deadlines) (addition : Addition) :
    (context.add addition).Gathers (tokens ++ addition.token?.toList)
      (deadlines ++ addition.deadline?.toList) := by
  cases addition with
  | token given =>
      refine ⟨List.getLast?_concat.symm, fun now => ?_⟩
      show context.deadlinePassed now = true ↔ _
      simpa [Addition.deadline?] using gathers.deadlinePassed now
  | deadline given =>
      refine ⟨?_, fun now => ?_⟩
      · show context.token = _
        simpa [Addition.token?] using gathers.token
      show (context.deadlineAt given).deadlinePassed now = true ↔ _
      rw [deadlinePassed_deadlineAt, gathers.deadlinePassed]
      simp [Addition.deadline?, or_and_right, exists_or]

/-- What a context has after additions. -/
theorem Gathers.foldl (gathers : context.Gathers tokens deadlines) (additions : List Addition) :
    (additions.foldl Context.add context).Gathers (tokens ++ additions.filterMap Addition.token?)
      (deadlines ++ additions.filterMap Addition.deadline?) := by
  induction additions generalizing context tokens deadlines with
  | nil => simpa using gathers
  | cons addition additions inductionHypothesis =>
      have built := inductionHypothesis (gathers.add addition)
      rw [List.append_assoc, List.append_assoc] at built
      cases addition <;> exact built

namespace Recipe

/-- A built context has what was given along the way. -/
theorem gathers_context (recipe : Recipe) :
    recipe.context.Gathers recipe.tokens recipe.deadlines :=
  (gathers_origin recipe.origin).foldl recipe.additions

/-- A built context is done as soon as the last of its tokens has fired or one of its deadlines has
passed. -/
theorem isDone_context_iff (recipe : Recipe) (signals : Signals) (now : Instant) :
    recipe.context.isDone signals now = true ↔
      (∃ token ∈ recipe.tokens.getLast?, signals.firedBy token now = true) ∨
        ∃ deadline ∈ recipe.deadlines, deadline ≤ now := by
  rw [isDone_iff, tokenFired_iff, recipe.gathers_context.token,
    recipe.gathers_context.deadlinePassed]

/-- Unless a deadline has passed, contexts are done alike under all signals just if they have the
same token. -/
theorem isDone_context_eq_iff {recipe other : Recipe} {now : Instant}
    (same : ∀ deadline, deadline ∈ other.deadlines ↔ deadline ∈ recipe.deadlines) :
    (∀ signals, other.context.isDone signals now = true ↔
        recipe.context.isDone signals now = true) ↔
      (∃ deadline ∈ recipe.deadlines, deadline ≤ now) ∨
        other.tokens.getLast? = recipe.tokens.getLast? := by
  simp only [isDone_context_iff, same]
  constructor
  · intro alike
    by_cases passed : ∃ deadline ∈ recipe.deadlines, deadline ≤ now
    · exact .inl passed
    · right
      -- Each token is told apart from the others by the signals that fire no other one.
      ext token
      simpa [passed, Signals.firedBy_fire_silent] using alike (Signals.silent.fire token now)
  · rintro (passed | last) signals
    · simp [passed]
    · rw [last]

/-- Unless a deadline has passed, no signal is lost just if every token given is the last one. -/
theorem isDone_context_iff_signalled {recipe : Recipe} {now : Instant} :
    (∀ signals, recipe.context.isDone signals now = true ↔ recipe.Signalled signals now) ↔
      (∃ deadline ∈ recipe.deadlines, deadline ≤ now) ∨
        ∀ token ∈ recipe.tokens, token ∈ recipe.tokens.getLast? := by
  simp only [isDone_context_iff, Signalled]
  constructor
  · intro heard
    by_cases passed : ∃ deadline ∈ recipe.deadlines, deadline ≤ now
    · exact .inl passed
    · right
      intro token given
      have := heard (Signals.silent.fire token now)
      simpa [passed, Signals.firedBy_fire_silent, given] using this
  · rintro (passed | last) signals
    · simp [passed]
    · refine or_congr_left ⟨?_, ?_⟩
      · rintro ⟨token, isLast, fired⟩
        exact ⟨token, List.mem_of_getLast? isLast, fired⟩
      · rintro ⟨token, given, fired⟩
        exact ⟨token, last token given, fired⟩

/-- The law of built contexts. However a context begins and whatever is added to it, it is done by
an instant just if the last token given has fired or one of all the deadlines given has passed. So
it heeds every signal it was given just if a deadline has passed or no other token was given before
the last. Contexts that were given the same deadlines in any order have the same deadline; they are
done alike just if it has passed or the last token given is the same. -/
theorem done_of_given (recipe : Recipe) :
    (∀ signals now, recipe.context.isDone signals now = true ↔
      (∃ token ∈ recipe.tokens.getLast?, signals.firedBy token now = true) ∨
        ∃ deadline ∈ recipe.deadlines, deadline ≤ now) ∧
    (∀ now, (∀ signals,
        recipe.context.isDone signals now = true ↔ recipe.Signalled signals now) ↔
      (∃ deadline ∈ recipe.deadlines, deadline ≤ now) ∨
        ∀ token ∈ recipe.tokens, token ∈ recipe.tokens.getLast?) ∧
    ∀ other : Recipe, other.deadlines.Perm recipe.deadlines →
      other.context.deadline = recipe.context.deadline ∧
      ∀ now, (∀ signals, other.context.isDone signals now = true ↔
          recipe.context.isDone signals now = true) ↔
        (∃ deadline ∈ recipe.deadlines, deadline ≤ now) ∨
          other.tokens.getLast? = recipe.tokens.getLast? := by
  refine ⟨recipe.isDone_context_iff, fun _ => isDone_context_iff_signalled, ?_⟩
  intro other reordered
  refine ⟨deadline_eq_of_deadlinePassed fun now => ?_, fun now => ?_⟩
  · rw [Bool.eq_iff_iff, other.gathers_context.deadlinePassed,
      recipe.gathers_context.deadlinePassed]
    simp only [reordered.mem_iff]
  · exact isDone_context_eq_iff fun _ => reordered.mem_iff

/-- Two tokens and a deadline are added to a context that expires later, and again with the tokens
exchanged: the contexts have the deadline that was added, and they differ until it passes. -/
theorem done_of_given_exchanged :
    let recipe : Recipe := ⟨.timeout .start ⟨5⟩,
      [.token (.named "a"), .deadline ⟨3⟩, .token (.named "b")]⟩
    let other : Recipe := ⟨.timeout .start ⟨5⟩,
      [.token (.named "b"), .deadline ⟨3⟩, .token (.named "a")]⟩
    recipe.context.deadline = some ⟨3⟩ ∧ other.context.deadline = some ⟨3⟩ ∧
    ∀ now, (∀ signals, other.context.isDone signals now = true ↔
      recipe.context.isDone signals now = true) ↔ 3 ≤ now.nanos := by
  intro recipe other
  have deadline : recipe.context.deadline = some ⟨3⟩ := by decide
  obtain ⟨same, alike⟩ := (done_of_given recipe).2.2 other (by decide)
  refine ⟨deadline, same.trans deadline, fun now => (alike now).trans ?_⟩
  have deadlines : recipe.deadlines = [⟨5⟩, ⟨3⟩] := by decide
  have tokens : ¬other.tokens.getLast? = recipe.tokens.getLast? := by decide
  simp only [deadlines, tokens, Instant.le_iff, List.mem_cons, List.not_mem_nil, or_false,
    exists_eq_or_imp, exists_eq_left]
  omega

/-- A token that has fired is lost when another one is added behind it, and heeded when it is added
last. -/
theorem not_done_of_replaced_token :
    let signals := Signals.silent.fire (.named "a") .start
    let recipe : Recipe := ⟨.background, [.token (.named "a"), .token (.own 0)]⟩
    let other : Recipe := ⟨.background, [.token (.own 0), .token (.named "a")]⟩
    recipe.Signalled signals .start ∧ recipe.context.isDone signals .start = false ∧
      other.context.isDone signals .start = true := by
  refine ⟨.inl ⟨.named "a", by decide, by decide⟩, by decide, by decide⟩

end Recipe

end Context

end Outbound
