import Outbound.Failure

/-! # Failures around failures

A failure can be put around another one: it names the operation in which that one happened, or it
counts the attempts it was the end of. What is asked of a failure of any depth is answered at
different places. Whether and why the call was interrupted is known to the innermost failure and no
wrapper hides it. The attempts are known to the outermost wrapper that counts them, and to the
failure within if there is none. Only a failure that has nothing around it lets the request be sent
again.

* `Failure.Wrapper` is what is put around a failure; `Failure.wrapped` puts any number of wrappers
  around one.
* `Failure.StemsFrom` says that a failure tells of an interruption, at any depth;
  `Failure.cancelCause?_eq_some_iff` finds the cause by it.
* `Failure.answer_wrapped` and `Failure.answer_named` ask through wrappers, and
  `Failure.attempts?_wrapped` counts through them.
* `Failure.answers_of_wrapped` puts the answers together. -/

namespace Outbound

namespace Failure

/-! ## Wrappers -/

/-- What is put around a failure. -/
inductive Wrapper where
  /-- The name of the operation in which it happened. -/
  | within (operation : String)
  /-- The count of the attempts, which all failed. -/
  | retriesExhausted (attempts : Nat)
  /-- The count of the attempts until the call was interrupted. -/
  | retryAborted (attempts : Nat)
  deriving DecidableEq, Repr

namespace Wrapper

/-- A failure with a wrapper around it. -/
def around : Wrapper → Failure → Failure
  | .within operation, source => .within operation source
  | .retriesExhausted attempts, source => .retriesExhausted attempts source
  | .retryAborted attempts, source => .retryAborted attempts source

/-- The attempts that a wrapper counts, if it counts any. -/
def attempts? : Wrapper → Option Nat
  | .within _ => none
  | .retriesExhausted attempts => some attempts
  | .retryAborted attempts => some attempts

end Wrapper

/-- A failure with wrappers around it, the first of them outermost. -/
def wrapped (failure : Failure) (wrappers : List Wrapper) : Failure :=
  wrappers.foldr Wrapper.around failure

/-- A failure within any number of named operations, the first of them outermost. -/
def named (failure : Failure) (operations : List String) : Failure :=
  failure.wrapped (operations.map .within)

variable {failure : Failure} {wrapper : Wrapper} {cause : CancelCause}

/-- Nothing is put around a failure by no wrappers. -/
@[simp] theorem wrapped_nil : failure.wrapped [] = failure := rfl

/-- The first wrapper is around all others. -/
@[simp] theorem wrapped_cons {wrappers : List Wrapper} :
    failure.wrapped (wrapper :: wrappers) = wrapper.around (failure.wrapped wrappers) := rfl

/-! ## One wrapper -/

/-- No wrapper hides that the call was interrupted, and none makes it look so. -/
theorem isCancelled_around : (wrapper.around failure).isCancelled = failure.isCancelled := by
  cases wrapper <;> rfl

/-- No wrapper hides the cause of an interruption. -/
theorem cancelCause?_around : (wrapper.around failure).cancelCause? = failure.cancelCause? := by
  cases wrapper <;> rfl

/-- A wrapper tells the attempts it counts, and those of the failure within if it counts none. -/
theorem attempts?_around :
    (wrapper.around failure).attempts? = wrapper.attempts?.or failure.attempts? := by
  cases wrapper <;> rfl

/-- A request is not sent again after a wrapped failure. -/
theorem isRetryable_around : (wrapper.around failure).isRetryable = false := by
  cases wrapper <;> rfl

/-! ## Any number of wrappers -/

/-- A question that each of the wrappers hands on is answered by the failure within. -/
theorem answer_wrapped {Answer : Type} {question : Failure → Answer} {wrappers : List Wrapper}
    (handsOn : ∀ wrapper ∈ wrappers, ∀ source,
      question (wrapper.around source) = question source) :
    question (failure.wrapped wrappers) = question failure := by
  induction wrappers with
  | nil => rfl
  | cons first rest ih =>
      rw [wrapped_cons, handsOn first List.mem_cons_self]
      exact ih fun wrapper inRest => handsOn wrapper (List.mem_cons_of_mem first inRest)

/-- A question that a named operation hands on is answered by the failure within any number of
them. -/
theorem answer_named {Answer : Type} {question : Failure → Answer}
    (handsOn : ∀ operation source, question (.within operation source) = question source)
    (operations : List String) : question (failure.named operations) = question failure := by
  refine answer_wrapped fun wrapper given source => ?_
  obtain ⟨operation, -, rfl⟩ := List.mem_map.mp given
  exact handsOn operation source

/-- The outermost wrapper that counts attempts tells them; if there is none, the failure within
does. -/
theorem attempts?_wrapped (wrappers : List Wrapper) :
    (failure.wrapped wrappers).attempts?
      = (wrappers.findSome? Wrapper.attempts?).or failure.attempts? := by
  induction wrappers with
  | nil => rfl
  | cons first rest ih =>
      rw [wrapped_cons, attempts?_around, ih, List.findSome?_cons]
      cases first.attempts? <;> rfl

example :
    ((cancelled "retry backoff" .deadlineExceeded).wrapped
      [.within "sync", .retryAborted 2, .within "list sites", .retriesExhausted 4]).attempts?
      = some 2 := rfl

/-- A request is sent again after a failure only if there is nothing around it. -/
theorem isRetryable_wrapped_iff (wrappers : List Wrapper) :
    (failure.wrapped wrappers).isRetryable = true ↔
      wrappers = [] ∧ failure.isRetryable = true := by
  cases wrappers with
  | nil => rw [wrapped_nil, and_iff_right rfl]
  | cons first rest =>
      rw [wrapped_cons, isRetryable_around]
      exact iff_of_false Bool.false_ne_true fun bare => List.cons_ne_nil _ _ bare.1

/-! ## Interruptions -/

/-- A failure stems from a cause if it tells of an interruption by it, or if there are wrappers
around one that does. -/
inductive StemsFrom (cause : CancelCause) : Failure → Prop
  /-- A step of the call was interrupted. -/
  | cancelled (operation : String) : StemsFrom cause (.cancelled operation cause)
  /-- The wait for a token was interrupted. -/
  | rateLimitWait (label : String) : StemsFrom cause (.rateLimitWait label cause)
  /-- There is a wrapper around a failure that stems from the cause. -/
  | around (wrapper : Wrapper) {source : Failure} (stems : StemsFrom cause source) :
      StemsFrom cause (wrapper.around source)

/-- A failure with a cause stems from it. -/
theorem stemsFrom_of_cancelCause? (known : failure.cancelCause? = some cause) :
    failure.StemsFrom cause := by
  induction failure with
  | cancelled operation given =>
      obtain rfl : given = cause := Option.some.inj known
      exact .cancelled operation
  | rateLimitWait label given =>
      obtain rfl : given = cause := Option.some.inj known
      exact .rateLimitWait label
  -- The wrapping cases are those of `Wrapper.around`, so that the cause is asked further within.
  | retriesExhausted attempts source ih => exact .around (.retriesExhausted attempts) (ih known)
  | retryAborted attempts source ih => exact .around (.retryAborted attempts) (ih known)
  | within operation source ih => exact .around (.within operation) (ih known)
  | _ => nomatch known

/-- The cause of a failure is the one it stems from. -/
theorem cancelCause?_eq_some_iff :
    failure.cancelCause? = some cause ↔ failure.StemsFrom cause := by
  refine ⟨stemsFrom_of_cancelCause?, fun stems => ?_⟩
  induction stems with
  | cancelled operation => rfl
  | rateLimitWait label => rfl
  | around wrapper stems ih => rw [cancelCause?_around, ih]

/-- A failure tells of an interruption just if it has a cause. The two questions are answered apart,
each by cases of its own, and go the same way through every wrapper. -/
theorem isCancelled_eq_isSome (failure : Failure) :
    failure.isCancelled = failure.cancelCause?.isSome := by
  induction failure with
  | retriesExhausted attempts source ih => exact ih
  | retryAborted attempts source ih => exact ih
  | within operation source ih => exact ih
  | _ => rfl

/-- A failure after which the request may be sent again does not tell of an interruption. -/
theorem isCancelled_of_isRetryable (retryable : failure.isRetryable = true) :
    failure.isCancelled = false := by
  cases failure with
  | transport fault => rfl
  | _ => nomatch retryable

/-! ## All answers -/

/-- The law of wrapped failures. A failure of any depth tells of an interruption just if it has a
cause, and the cause is the one it stems from; the request is sent again only after failures that do
not tell of one. Within any number of named operations a failure answers as before, except that the
request is not sent again any more. With any wrappers around it, it tells of the same interruption
as before, and the attempts are those of the outermost wrapper that counts them, if there is one. -/
theorem answers_of_wrapped (failure : Failure) :
    (failure.isCancelled = true ↔ failure.cancelCause?.isSome = true) ∧
    (∀ cause, failure.cancelCause? = some cause ↔ failure.StemsFrom cause) ∧
    (failure.isRetryable = true → failure.isCancelled = false) ∧
    (∀ operations : List String,
      (failure.named operations).kind = failure.kind ∧
      (failure.named operations).isCancelled = failure.isCancelled ∧
      (failure.named operations).cancelCause? = failure.cancelCause? ∧
      (failure.named operations).status? = failure.status? ∧
      (failure.named operations).attempts? = failure.attempts? ∧
      ((failure.named operations).isRetryable = true ↔
        operations = [] ∧ failure.isRetryable = true)) ∧
    (∀ wrappers : List Wrapper,
      (failure.wrapped wrappers).isCancelled = failure.isCancelled ∧
      (failure.wrapped wrappers).cancelCause? = failure.cancelCause? ∧
      (failure.wrapped wrappers).attempts?
        = (wrappers.findSome? Wrapper.attempts?).or failure.attempts?) := by
  refine ⟨?_, fun cause => cancelCause?_eq_some_iff, isCancelled_of_isRetryable, ?_, ?_⟩
  · rw [isCancelled_eq_isSome]
  · intro operations
    refine ⟨answer_named (fun _ _ => rfl) operations, answer_named (fun _ _ => rfl) operations,
      answer_named (fun _ _ => rfl) operations, answer_named (fun _ _ => rfl) operations,
      answer_named (fun _ _ => rfl) operations, ?_⟩
    rw [named, isRetryable_wrapped_iff, List.map_eq_nil_iff]
  · intro wrappers
    exact ⟨answer_wrapped fun _ _ _ => isCancelled_around,
      answer_wrapped fun _ _ _ => cancelCause?_around, attempts?_wrapped wrappers⟩

/-- A refused connection lets the request be sent again, and is no interruption. -/
theorem answers_of_wrapped_refused :
    (transport (.reported "refused")).isRetryable = true ∧
      (transport (.reported "refused")).isCancelled = false :=
  ⟨rfl, (answers_of_wrapped (transport (.reported "refused"))).2.2.1 rfl⟩

end Failure

end Outbound
