import Outbound.Telemetry.Exposition

/-! # Registration of collectors

Collectors are registered one after the other until one is refused because its name is taken. Those
before it stay registered: nothing is taken back.

* `Registry.registerAll_append` is the run over collectors whose names are free.
* `Registry.registerAll_cases` says how a registration ends and what it leaves behind, and
  `Registry.registerAll_eq_self_iff` when that is nothing.
* `Registry.registerAll_twice` is the refusal of a second registration. -/

namespace Outbound

namespace Registry

variable {registry : Registry} {collector : Collector} {collectors front : List Collector}

/-- Whether the name of a collector is taken. -/
def knows (registry : Registry) (collector : Collector) : Bool :=
  registry.collectors.any fun other => other.name == collector.name

/-- A name is taken by a registered collector. -/
theorem knows_iff :
    registry.knows collector = true ↔
      ∃ other ∈ registry.collectors, other.name = collector.name := by
  simp [knows]

/-- A collector whose name is free is registered behind the others. -/
theorem register_of_free (free : registry.knows collector = false) :
    registry.register collector = .ok ⟨registry.collectors ++ [collector]⟩ :=
  if_neg (Bool.eq_false_iff.mp free)

/-- A collector whose name is taken is refused. -/
theorem register_of_taken (taken : registry.knows collector = true) :
    registry.register collector = .error .duplicate :=
  if_pos taken

/-- Collectors with free names of their own are all registered before the next ones have their
turn. -/
theorem registerAll_append (free : ∀ collector ∈ front, registry.knows collector = false)
    (distinct : (front.map (·.name)).Nodup) (back : List Collector) :
    registry.registerAll (front ++ back)
      = (⟨registry.collectors ++ front⟩ : Registry).registerAll back := by
  induction front generalizing registry with
  | nil => rw [List.nil_append, List.append_nil]
  | cons collector front inductionHypothesis =>
      rw [List.map_cons, List.nodup_cons] at distinct
      obtain ⟨fresh, distinct⟩ := distinct
      have free' : ∀ other ∈ front,
          (⟨registry.collectors ++ [collector]⟩ : Registry).knows other = false := by
        intro other member
        have unlike : collector.name ≠ other.name := fun same =>
          fresh (List.mem_map.mpr ⟨other, member, same.symm⟩)
        have before := free other (List.mem_cons_of_mem _ member)
        rw [knows] at before
        simp [knows, before, unlike]
      rw [List.cons_append, registerAll, register_of_free (free collector List.mem_cons_self)]
      show registerAll _ (front ++ back) = _
      rw [inductionHypothesis free' distinct, List.append_assoc, List.singleton_append]

/-- Collectors with names of their own are all registered, or those before the first one whose name
is taken are. -/
theorem registerAll_cases (registry : Registry) (distinct : (collectors.map (·.name)).Nodup) :
    ((∀ collector ∈ collectors, registry.knows collector = false) ∧
      registry.registerAll collectors = (⟨registry.collectors ++ collectors⟩, none)) ∨
    ∃ front collector back, collectors = front ++ collector :: back ∧
      (∀ other ∈ front, registry.knows other = false) ∧ registry.knows collector = true ∧
      registry.registerAll collectors
        = (⟨registry.collectors ++ front⟩, some .duplicate) := by
  cases found : collectors.find? registry.knows with
  | none =>
      have free : ∀ collector ∈ collectors, registry.knows collector = false := by
        simpa using found
      left
      have all := registerAll_append free distinct []
      rw [List.append_nil] at all
      exact ⟨free, all⟩
  | some collector =>
      obtain ⟨taken, front, back, rfl, free⟩ := List.find?_eq_some_iff_append.mp found
      simp only [Bool.not_eq_eq_eq_not, Bool.not_true] at free
      rw [List.map_append, List.nodup_append] at distinct
      have taken' : (⟨registry.collectors ++ front⟩ : Registry).knows collector = true := by
        obtain ⟨other, member, same⟩ := knows_iff.mp taken
        exact knows_iff.mpr ⟨other, List.mem_append_left _ member, same⟩
      refine .inr ⟨front, collector, back, rfl, free, taken, ?_⟩
      rw [registerAll_append free distinct.1, registerAll, register_of_taken taken']

/-- A registry stays as it was just if nothing is registered behind the others. -/
theorem append_eq_self_iff :
    (⟨registry.collectors ++ front⟩ : Registry) = registry ↔ front = [] := by
  obtain ⟨others⟩ := registry
  simp

/-- A registration leaves the registry as it was just if the first collector is the one refused. -/
theorem registerAll_eq_self_iff (registry : Registry)
    (distinct : ((collector :: collectors).map (·.name)).Nodup) :
    (registry.registerAll (collector :: collectors)).1 = registry ↔
      registry.knows collector = true := by
  rcases registry.registerAll_cases distinct with
    ⟨free, ended⟩ | ⟨front, refused, back, parts, free, taken, ended⟩
  · rw [ended, append_eq_self_iff]
    simp [free collector List.mem_cons_self]
  · rw [ended, append_eq_self_iff]
    cases front with
    | nil =>
        obtain ⟨rfl, -⟩ := List.cons.inj parts
        exact iff_of_true rfl taken
    | cons first front =>
        obtain ⟨rfl, -⟩ := List.cons.inj parts
        simp [free collector List.mem_cons_self]

/-- The collectors of calls leave the registry as it was just if the name of the first is taken. -/
theorem registerAll_ofCalls_eq_self_iff (registry : Registry) :
    (registry.registerAll Collector.ofCalls).1 = registry ↔
      registry.knows .requests = true :=
  registry.registerAll_eq_self_iff (by decide)

/-- Four of the collectors of calls stay behind if only the name of the fifth is taken. -/
theorem exists_refused_ne :
    ∃ registry : Registry, (registry.registerAll Collector.ofCalls).2 = some .duplicate ∧
      (registry.registerAll Collector.ofCalls).1.collectors = registry.collectors ++
        [.requests, .durations, .retries, .waits] :=
  ⟨⟨[.errors]⟩, by decide, by decide⟩

/-- Collectors that were registered are refused the next time, and the registry stays as it is. -/
theorem registerAll_twice (registry : Registry)
    (distinct : ((collector :: collectors).map (·.name)).Nodup)
    (accepted : (registry.registerAll (collector :: collectors)).2 = none) :
    let extended := (registry.registerAll (collector :: collectors)).1
    extended.registerAll (collector :: collectors) = (extended, some .duplicate) := by
  intro extended
  have taken : extended.knows collector = true := by
    rcases registry.registerAll_cases distinct with ⟨-, ended⟩ | ⟨_, _, _, -, -, -, ended⟩
    · refine knows_iff.mpr ⟨collector, ?_, rfl⟩
      simp [extended, ended]
    · rw [ended] at accepted
      cases accepted
  rw [registerAll, register_of_taken taken]

end Registry

end Outbound
