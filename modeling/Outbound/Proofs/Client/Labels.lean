import Outbound.Proofs.Call.Heedless
import Outbound.Proofs.Client.Telemetry
import Outbound.Proofs.Path.Lookups

/-! # Labels from a memo

The labels of metrics are templates that are looked up in a memo. Nobody can tell from a label, or
from anything else that a session shows, what the memos were asked for before.

* `Observe.label_eq` says what label an observed call has, whichever memo the layer uses, and
  `RetryPolicy.label_eq` what label a repeated call has.
* `Path.Memo.transparent` is the law of memos: of their lookups, and of what a session shows. -/

namespace Outbound

/-- An observed call is labelled with the template of its path, which is looked up when there is a
response. -/
theorem Observe.label_eq (observe : Observe) (inner : Transport) (request : Request)
    (world : World) :
    let call := observe.transport inner request
    let outcome := (world.perform call).1
    ∃ start finish during,
      call.exchanges World.answer world
          = observe.opening request start
            ++ (during ++ observe.closing request outcome start finish
              (Path.template request.uri.path)) ∧
        (inner request).Yields during outcome := by
  intro call outcome
  have yields := Call.yields_exchanges World.answer call world
  obtain ⟨start, finish, label, during, split, inside⟩ := exists_of_yields_transport yields
  have labelled : observe.closing request outcome start finish label
      = observe.closing request outcome start finish (Path.template request.uri.path) := by
    -- The label is only looked up and told if there is a response.
    cases ended : outcome with
    | error failure => rfl
    | ok response =>
        have told : ⟨.template observe.memo request.uri.path, label⟩
            ∈ observe.closing request outcome start finish label := by
          rw [ended]
          simp [closing, reportTrace]
        rw [ClientConfig.templated_exchanges call world observe.memo request.uri.path label
          (by rw [split]; exact List.mem_append_right _ (List.mem_append_right _ told))]
  exact ⟨start, finish, during, split.trans (by rw [← labelled]; rfl), inside⟩

/-- A repeated call is labelled with the template of its path, which is looked up before the first
attempt. -/
theorem RetryPolicy.label_eq (policy : RetryPolicy) (inner : Transport) (request : Request)
    {body : Option Body} (whole : buffered request.body = .ok body) (world : World) :
    let call := policy.transport inner request
    ∃ series,
      call.exchanges World.answer world
          = ⟨.template .shared request.uri.path, Path.template request.uri.path⟩ :: series ∧
        policy.Attempts inner { request with body } (Path.template request.uri.path) 0 series
          (world.perform call).1 := by
  intro call
  have yields := Call.yields_exchanges World.answer call world
  obtain ⟨label, series, split, attempts⟩ := attempts_of_yields_transport whole yields
  have labelled : label = Path.template request.uri.path :=
    ClientConfig.templated_exchanges call world .shared request.uri.path label
      (by rw [split]; exact List.mem_cons_self)
  rw [labelled] at split attempts
  exact ⟨series, split, attempts⟩

namespace Path.Memo

/-- The law of memos. A memo that was asked for some paths answers with the template of a path
whatever these were, holds as many paths as different ones were asked for, is empty just if there
were none, and knows a path, so that a lookup leaves it as it is, just if it was asked for it
before. A template that it holds is held behind all further lookups. An observed call and a repeated
call are labelled with the template of their path in every world. A session shows the same, step by
step, whatever the memos of its world know. -/
theorem transparent :
    (∀ (earlier : List String) (path : String),
      ((asked earlier).normalize path).1 = template path ∧
        ((asked earlier).normalize path).2 = asked (earlier ++ [path]) ∧
        (asked earlier).size = earlier.toFinset.card ∧
        ((asked earlier).isEmpty = true ↔ earlier = []) ∧
        ((asked earlier).knows path = true ↔ path ∈ earlier) ∧
        (((asked earlier).normalize path).2 = asked earlier ↔ path ∈ earlier) ∧
        ∀ later, (asked (earlier ++ later)).find? path
          = ((asked earlier).find? path).or
            (if path ∈ later then some (template path) else none)) ∧
    (∀ (observe : Observe) (inner : Transport) (request : Request) (world : World),
      let call := observe.transport inner request
      let outcome := (world.perform call).1
      ∃ start finish during,
        call.exchanges World.answer world
            = observe.opening request start
              ++ (during ++ observe.closing request outcome start finish
                (template request.uri.path)) ∧
          (inner request).Yields during outcome) ∧
    (∀ (policy : RetryPolicy) (inner : Transport) (request : Request) (world : World),
      let call := policy.transport inner request
      match RetryPolicy.buffered request.body with
      | .error _ => call.exchanges World.answer world = []
      | .ok body => ∃ series,
          call.exchanges World.answer world
              = ⟨.template .shared request.uri.path, template request.uri.path⟩ :: series ∧
            policy.Attempts inner { request with body } (template request.uri.path) 0 series
              (world.perform call).1) ∧
    (∀ (session : Session) (steps : List Step) (memos : Memos),
      ((session.withMemos memos).steps steps).1 = (session.steps steps).1) := by
  refine ⟨fun earlier path => ?lookups, Observe.label_eq,
    fun policy inner request world => ?repeated, fun session steps memos => ?sessions⟩
  case lookups =>
    have keeps := keeps_asked earlier
    refine ⟨?_, (asked_append earlier [path]).symm, keeps.size_eq, keeps.isEmpty_iff,
      keeps.knows_iff path, keeps.normalize_snd_eq_iff path, fun later => ?_⟩
    · by_cases member : path ∈ earlier
      · rw [keeps.normalize_of_mem member]
      · rw [keeps.normalize_of_not_mem member]
    · rw [(keeps_asked (earlier ++ later)).find?_eq, keeps.find?_eq]
      by_cases member : path ∈ earlier <;> simp [member]
  case repeated =>
    intro call
    split
    next failure broken =>
      have ends : call = .done (.error failure) := by
        show policy.transport inner request = _
        rw [RetryPolicy.transport, broken]
        rfl
      rw [ends]
      rfl
    next body whole => exact policy.label_eq inner request whole world
  case sessions =>
    obtain ⟨later, same⟩ := session.steps_withMemos steps memos
    rw [same]

end Path.Memo

end Outbound
