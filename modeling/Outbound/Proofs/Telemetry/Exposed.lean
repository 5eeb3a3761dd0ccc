import Outbound.Proofs.Telemetry.Counting

/-! # Exposed counts

Two sinks that are told the same events agree on them: the series that can be collected count what
the sink in memory has kept.

* `Family.Counts` and `Family.total` read single counts, and sums over all values of the other
  labels, off what is collected.
* `Exposition.counts_iff` and `Exposition.total_eq` tell them from the events.
* `Exposition.counts_of_events` is the agreement of both sinks. -/

namespace Outbound

/-! ## What can be collected -/

namespace Family

/-- The series that are collected under a name. -/
def named (families : List Family) (name : String) : List Series :=
  (families.filter fun family => family.name == name).flatMap (·.series)

/-- A series of a name and labels is collected, and it tells a count. -/
def Counts (families : List Family) (name : String) (labels : List (String × String))
    (count : Nat) : Prop :=
  ∃ series ∈ named families name, series.labels = labels ∧ series.sample.count = count

/-- The sum of the counts of all series of a name that have certain labels. -/
def total (families : List Family) (name : String) (labels : List (String × String)) : Nat :=
  (((named families name).filter fun series => labels.all series.labels.contains).map
    fun series => series.sample.count).sum

end Family

namespace Exposition

variable {exposition : Exposition} {events : List MetricEvent} {collector : Collector}
  {values : SeriesOf Sample}

/-- The collectors with their tables. -/
def tables (exposition : Exposition) : List (Collector × SeriesOf Sample) :=
  [(.requests, exposition.requests.map fun entry => (entry.1, .counter entry.2)),
    (.durations, exposition.durations.map fun entry => (entry.1, .histogram entry.2)),
    (.retries, exposition.retries.map fun entry => (entry.1, .counter entry.2)),
    (.waits, exposition.waits.map fun entry => (entry.1, .histogram entry.2)),
    (.errors, exposition.errors.map fun entry => (entry.1, .counter entry.2))]

/-- Every collector of calls has a table. -/
theorem exists_table (exposition : Exposition) (member : collector ∈ Collector.ofCalls) :
    ∃ values, (collector, values) ∈ exposition.tables := by
  have all : exposition.tables.map Prod.fst = Collector.ofCalls := rfl
  rw [← all] at member
  obtain ⟨⟨_, values⟩, listed, rfl⟩ := List.mem_map.mp member
  exact ⟨values, listed⟩

/-- The table of a collector of calls is a tally of what the collector was given. -/
theorem Agrees.tallies (agrees : exposition.Agrees events)
    (member : (collector, values) ∈ exposition.tables) :
    SeriesOf.Tallies Sample.count values (events.flatMap (·.givenTo collector)) := by
  simp only [tables, List.mem_cons, List.not_mem_nil, or_false, Prod.mk.injEq] at member
  rcases member with ⟨rfl, rfl⟩ | ⟨rfl, rfl⟩ | ⟨rfl, rfl⟩ | ⟨rfl, rfl⟩ | ⟨rfl, rfl⟩
  · exact agrees.requests.map Sample.counter fun _ => rfl
  · exact agrees.durations.map Sample.histogram fun _ => rfl
  · exact agrees.retries.map Sample.counter fun _ => rfl
  · exact agrees.waits.map Sample.histogram fun _ => rfl
  · exact agrees.errors.map Sample.counter fun _ => rfl

/-- The families without those that have no series, in the order of their names. -/
theorem families_perm (exposition : Exposition) :
    exposition.families.Perm ((exposition.tables.map fun table =>
      Family.collect table.1 table.2).filter fun family => !family.series.isEmpty) :=
  List.mergeSort_perm _ _

/-- The series of a collector, up to their order. -/
theorem series_collect (collector : Collector) (values : SeriesOf Sample) :
    (Family.collect collector values).series.Perm
      (List.map (fun entry => ⟨collector.arranged entry.1, entry.2⟩) values) :=
  List.mergeSort_perm _ _

/-- Families without series do not matter. -/
theorem flatMap_filter_isEmpty (families : List Family) :
    (families.filter fun family => !family.series.isEmpty).flatMap Family.series
      = families.flatMap Family.series := by
  induction families with
  | nil => rfl
  | cons family families inductionHypothesis =>
      rw [List.filter_cons, List.flatMap_cons, ← inductionHypothesis]
      cases empty : family.series.isEmpty
      · rfl
      · rw [List.isEmpty_iff.mp empty]
        rfl

/-- Every collector of calls has one table. -/
theorem filter_tables (member : (collector, values) ∈ exposition.tables) :
    exposition.tables.filter (fun table => table.1.name == collector.name)
      = [(collector, values)] := by
  simp only [tables, List.mem_cons, List.not_mem_nil, or_false, Prod.mk.injEq] at member
  rcases member with ⟨rfl, rfl⟩ | ⟨rfl, rfl⟩ | ⟨rfl, rfl⟩ | ⟨rfl, rfl⟩ | ⟨rfl, rfl⟩ <;> rfl

/-- What is collected under a name comes from the tables of that name. -/
theorem named_perm (exposition : Exposition) (name : String) :
    (Family.named exposition.families name).Perm
      ((exposition.tables.filter fun table => table.1.name == name).flatMap
        fun table => (Family.collect table.1 table.2).series) := by
  refine ((exposition.families_perm.filter _).flatMap_right _).trans (.of_eq ?_)
  rw [List.filter_comm, flatMap_filter_isEmpty, List.filter_map, List.flatMap_map]
  rfl

/-- Under the name of a collector of calls just the entries of its table are collected. -/
theorem named_perm_of_mem (member : (collector, values) ∈ exposition.tables) :
    (Family.named exposition.families collector.name).Perm
      (List.map (fun entry => ⟨collector.arranged entry.1, entry.2⟩) values) := by
  refine (exposition.named_perm collector.name).trans ?_
  rw [filter_tables member, List.flatMap_singleton]
  exact series_collect collector values

/-- Nothing is collected under any other name. -/
theorem exists_of_counts {name : String} {labels : List (String × String)} {count : Nat}
    (counted : Family.Counts exposition.families name labels count) :
    ∃ table ∈ exposition.tables, table.1.name = name := by
  obtain ⟨series, member, -⟩ := counted
  obtain ⟨table, found, -⟩ := List.mem_flatMap.mp ((exposition.named_perm name).mem_iff.mp member)
  obtain ⟨listed, named⟩ := List.mem_filter.mp found
  exact ⟨table, listed, eq_of_beq named⟩

/-! ## Counts of events -/

/-- A series tells how many events touched it, and is collected as soon as one did. -/
theorem counts_iff (events : List MetricEvent) (name : String) (labels : List (String × String))
    (count : Nat) :
    Family.Counts (ofEvents events).families name labels count ↔
      0 < count ∧ count = (events.flatMap MetricEvent.touched).count (name, labels) := by
  by_cases known : ∃ table ∈ (ofEvents events).tables, table.1.name = name
  · obtain ⟨⟨collector, values⟩, member, rfl⟩ := known
    have among : collector ∈ Collector.ofCalls := List.mem_map_of_mem (f := Prod.fst) member
    have perm := named_perm_of_mem member
    have entries : Family.Counts (ofEvents events).families collector.name labels count ↔
        ∃ entry ∈ values, collector.arranged entry.1 = labels ∧ entry.2.count = count := by
      simp only [Family.Counts, perm.mem_iff, List.mem_map, exists_exists_and_eq_and]
    have touched : (events.flatMap MetricEvent.touched).count (collector.name, labels)
        = (events.flatMap (·.givenTo collector)).countP
            fun values => decide (collector.arranged values = labels) := by
      rw [← MetricEvent.countP_touched among fun labels' => decide (labels' = labels),
        List.count_eq_countP]
      exact List.countP_congr fun series _ => by simp [Prod.ext_iff]
    rw [entries, touched]
    refine ((agrees_ofEvents events).tallies member).exists_iff ?_ labels count
    intro values given others othersGiven
    exact Collector.eq_of_arranged_eq among (MetricEvent.complete_of_givenTo given)
      (MetricEvent.complete_of_givenTo othersGiven)
  · refine iff_of_false (fun counted => known (exists_of_counts counted)) ?_
    rintro ⟨positive, rfl⟩
    obtain ⟨event, -, touched⟩ := List.mem_flatMap.mp (List.count_pos_iff.mp positive)
    rw [MetricEvent.touched_eq] at touched
    obtain ⟨gift, given, same⟩ := List.mem_map.mp touched
    obtain ⟨values, member⟩ := (ofEvents events).exists_table (event.complete_of_given given).1
    exact known ⟨_, member, congrArg Prod.fst same⟩

/-- The counts of all series with certain labels add up to the number of times events touched such
series. -/
theorem total_eq (events : List MetricEvent) (member : collector ∈ Collector.ofCalls)
    (labels : List (String × String)) :
    Family.total (ofEvents events).families collector.name labels
      = (events.flatMap MetricEvent.touched).countP
          fun series => series.1 == collector.name && labels.all series.2.contains := by
  obtain ⟨values, listed⟩ := (ofEvents events).exists_table member
  rw [MetricEvent.countP_touched member fun known => labels.all known.contains,
    ← ((agrees_ofEvents events).tallies listed).sum_eq]
  refine (((named_perm_of_mem listed).filter _).map _).sum_eq.trans ?_
  rw [List.filter_map, List.map_map]
  rfl

end Exposition

/-! ## Both sinks -/

namespace MetricEvent

/-- If each event touches certain series just as often as it says a certain thing, then events touch
these series as often as they say it. -/
theorem countP_touched_eq_count {α : Type} [BEq α] (key : MetricEvent → Option α) (said : α)
    {chosen : String × List (String × String) → Bool}
    (each : ∀ event, event.touched.countP chosen = (key event).toList.count said)
    (events : List MetricEvent) :
    (events.flatMap touched).countP chosen = (events.filterMap key).count said := by
  induction events with
  | nil => rfl
  | cons event events inductionHypothesis =>
      rw [List.flatMap_cons, List.countP_append, each, inductionHypothesis, ← List.count_append]
      congr 1
      cases told : key event with
      | none => rw [List.filterMap_cons_none told]; rfl
      | some other => rw [List.filterMap_cons_some told]; rfl

/-- Different numbers are written differently. -/
theorem repr_inj {left right : Nat} : left.repr = right.repr ↔ left = right := by
  refine ⟨fun same => ?_, congrArg Nat.repr⟩
  have digits : Nat.toDigits 10 left = Nat.toDigits 10 right := String.ofList_injective same
  have value := congrArg (Nat.ofDigitChars 10 · 0) digits
  simpa [Nat.ofDigitChars_toDigits] using value

variable {method path endpoint operation kind : String} {status attempt : Nat}
  (events : List MetricEvent)

/-- The requests of a method, a path and a status. -/
theorem count_answered :
    (events.flatMap touched).count ("restline_http_requests_total",
        [("method", method), ("path", path), ("status", toString status)])
      = (events.filterMap answered?).count (method, path, status) := by
  refine countP_touched_eq_count answered? (method, path, status) (fun event => ?_) events
  cases event <;> simp [touched, answered?, List.countP_cons, List.count_singleton, repr_inj]

/-- The durations of a method and a path. -/
theorem count_timed :
    (events.flatMap touched).count ("restline_http_request_duration_seconds",
        [("method", method), ("path", path)])
      = (events.filterMap timed?).count (method, path) := by
  refine countP_touched_eq_count timed? (method, path) (fun event => ?_) events
  cases event <;> simp [touched, timed?, List.countP_cons, List.count_singleton]

/-- The requests of a method and a path, whatever their status, and the durations of both. -/
theorem countP_timed {name : String} (timing : name = "restline_http_requests_total" ∨
    name = "restline_http_request_duration_seconds") :
    (events.flatMap touched).countP (fun series =>
        series.1 == name && [("method", method), ("path", path)].all series.2.contains)
      = (events.filterMap timed?).count (method, path) := by
  refine countP_touched_eq_count timed? (method, path) (fun event => ?_) events
  rcases timing with rfl | rfl <;> cases event <;>
    simp [touched, timed?, List.countP_cons, List.count_singleton, @eq_comm _ method,
      @eq_comm _ path]

/-- The further attempts of an endpoint and a number. -/
theorem count_repeated :
    (events.flatMap touched).count ("restline_retries_total",
        [("attempt", toString attempt), ("endpoint", endpoint)])
      = (events.filterMap repeated?).count (endpoint, attempt) := by
  refine countP_touched_eq_count repeated? (endpoint, attempt) (fun event => ?_) events
  cases event <;>
    simp [touched, repeated?, List.countP_cons, List.count_singleton, repr_inj, and_comm]

/-- The waits of an endpoint. -/
theorem count_waited :
    (events.flatMap touched).count ("restline_rate_limit_wait_seconds", [("endpoint", endpoint)])
      = (events.filterMap waited?).count endpoint := by
  refine countP_touched_eq_count waited? endpoint (fun event => ?_) events
  cases event <;> simp [touched, waited?, List.countP_cons, List.count_singleton]

/-- The failures of an operation and a kind. -/
theorem count_failed :
    (events.flatMap touched).count ("restline_errors_total",
        [("kind", kind), ("operation", operation)])
      = (events.filterMap failed?).count (operation, kind) := by
  refine countP_touched_eq_count failed? (operation, kind) (fun event => ?_) events
  cases event <;> simp [touched, failed?, List.countP_cons, List.count_singleton, and_comm]

end MetricEvent

/-- Two sinks that are told the same events agree. A series counts as many events as the sink in
memory has kept with just its values, and it is there as soon as one of them was. For each method
and path the requests of all statuses add up to the durations. The order of the events does not
matter. -/
theorem Exposition.counts_of_events (events : List MetricEvent) :
    let kept := (MemoryMetrics.ofEvents events).events
    let families := (ofEvents events).families
    (∀ method path status count,
      Family.Counts families "restline_http_requests_total"
          [("method", method), ("path", path), ("status", toString status)] count ↔
        0 < count ∧
          count = (kept.filterMap MetricEvent.answered?).count (method, path, status)) ∧
    (∀ endpoint attempt count,
      Family.Counts families "restline_retries_total"
          [("attempt", toString attempt), ("endpoint", endpoint)] count ↔
        0 < count ∧ count = (kept.filterMap MetricEvent.repeated?).count (endpoint, attempt)) ∧
    (∀ operation kind count,
      Family.Counts families "restline_errors_total"
          [("kind", kind), ("operation", operation)] count ↔
        0 < count ∧ count = (kept.filterMap MetricEvent.failed?).count (operation, kind)) ∧
    (∀ method path count,
      Family.Counts families "restline_http_request_duration_seconds"
          [("method", method), ("path", path)] count ↔
        0 < count ∧ count = (kept.filterMap MetricEvent.timed?).count (method, path)) ∧
    (∀ endpoint count,
      Family.Counts families "restline_rate_limit_wait_seconds" [("endpoint", endpoint)] count ↔
        0 < count ∧ count = (kept.filterMap MetricEvent.waited?).count endpoint) ∧
    (∀ name labels, (∃ count, Family.Counts families name labels count) ↔
      ∃ event ∈ kept, (name, labels) ∈ event.touched) ∧
    (∀ method path,
      Family.total families "restline_http_requests_total" [("method", method), ("path", path)]
        = Family.total families "restline_http_request_duration_seconds"
            [("method", method), ("path", path)]) ∧
    ∀ reordered : List MetricEvent, reordered.Perm events → ∀ name labels count,
      Family.Counts (ofEvents reordered).families name labels count ↔
        Family.Counts families name labels count := by
  intro kept families
  have all : kept = events := MemoryMetrics.events_ofEvents events
  have counted := counts_iff events
  rw [all]
  refine ⟨?_, ?_, ?_, ?_, ?_, ?_, ?_, ?_⟩
  · intro method path status count
    rw [counted, MetricEvent.count_answered]
  · intro endpoint attempt count
    rw [counted, MetricEvent.count_repeated]
  · intro operation kind count
    rw [counted, MetricEvent.count_failed]
  · intro method path count
    rw [counted, MetricEvent.count_timed]
  · intro endpoint count
    rw [counted, MetricEvent.count_waited]
  · intro name labels
    rw [← List.mem_flatMap, ← List.count_pos_iff]
    constructor
    · rintro ⟨count, known⟩
      obtain ⟨positive, rfl⟩ := (counted name labels count).mp known
      exact positive
    · intro positive
      exact ⟨_, (counted name labels _).mpr ⟨positive, rfl⟩⟩
  · intro method path
    have requests := total_eq events (List.mem_cons_self : .requests ∈ Collector.ofCalls)
      [("method", method), ("path", path)]
    have durations := total_eq events
      (List.mem_cons_of_mem _ List.mem_cons_self : .durations ∈ Collector.ofCalls)
      [("method", method), ("path", path)]
    exact (requests.trans (MetricEvent.countP_timed events (.inl rfl))).trans
      (durations.trans (MetricEvent.countP_timed events (.inr rfl))).symm
  · intro reordered perm name labels count
    rw [counts_iff, counted, (perm.flatMap_right _).count_eq]

/-- Two requests with a further attempt between them are counted as two, in whatever order the
events are told. -/
theorem Exposition.counts_of_events_reordered :
    let told : List MetricEvent :=
      [.httpRequest "GET" "/sites" 200 0, .retry 1 "/sites", .httpRequest "GET" "/sites" 200 0]
    let reordered : List MetricEvent :=
      [.retry 1 "/sites", .httpRequest "GET" "/sites" 200 0, .httpRequest "GET" "/sites" 200 0]
    reordered.Perm told ∧
      Family.Counts (ofEvents reordered).families "restline_http_requests_total"
        [("method", "GET"), ("path", "/sites"), ("status", toString 200)] 2 := by
  intro told reordered
  have perm : reordered.Perm told := .swap _ _ _
  obtain ⟨requests, -, -, -, -, -, -, reorders⟩ := counts_of_events told
  exact ⟨perm, (reorders reordered perm _ _ _).mpr
    ((requests "GET" "/sites" 200 2).mpr ⟨by decide, by decide⟩)⟩

end Outbound
