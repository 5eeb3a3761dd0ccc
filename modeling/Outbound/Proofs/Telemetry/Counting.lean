import Mathlib.Data.List.Induction
import Mathlib.Data.String.Basic
import Outbound.Proofs.Telemetry.Tally

/-! # Counted events

An event is told to one or two collectors, each of which counts it under the values of its labels.
Behind any events every collector has a tally of what it was told.

* `MetricEvent.touched` lists the series to which an event belongs, by name and labels;
  `MetricEvent.given` lists the values as the collectors get them, and `MetricEvent.countP_touched`
  counts in both ways.
* `Exposition.Agrees` is the invariant that the tables of an exposition are tallies of the events;
  `Exposition.Agrees.record` is one more event and `Exposition.agrees_ofEvents` follows them all. -/

namespace Outbound

/-! ## What an event says -/

namespace MetricEvent

/-- The method, the path and the status of an answered request. -/
def answered? : MetricEvent → Option (String × String × Nat)
  | .httpRequest method path status _ => some (method, path, status)
  | _ => none

/-- The method and the path of an answered request. -/
def timed? : MetricEvent → Option (String × String)
  | .httpRequest method path _ _ => some (method, path)
  | _ => none

/-- The endpoint and the number of a further attempt. -/
def repeated? : MetricEvent → Option (String × Nat)
  | .retry attempt endpoint => some (endpoint, attempt)
  | _ => none

/-- The endpoint of a wait for a token. -/
def waited? : MetricEvent → Option String
  | .rateLimit endpoint _ => some endpoint
  | _ => none

/-- The operation and the kind of a failure. -/
def failed? : MetricEvent → Option (String × String)
  | .error operation kind => some (operation, kind)
  | _ => none

/-- The series to which an event belongs: their name and their labels. -/
def touched : MetricEvent → List (String × List (String × String))
  | .httpRequest method path status _ =>
      [("restline_http_requests_total",
          [("method", method), ("path", path), ("status", toString status)]),
        ("restline_http_request_duration_seconds", [("method", method), ("path", path)])]
  | .retry attempt endpoint =>
      [("restline_retries_total", [("attempt", toString attempt), ("endpoint", endpoint)])]
  | .rateLimit endpoint _ => [("restline_rate_limit_wait_seconds", [("endpoint", endpoint)])]
  | .error operation kind =>
      [("restline_errors_total", [("kind", kind), ("operation", operation)])]

/-- The collectors an event is told to, each with the values of its labels. -/
def given : MetricEvent → List (Collector × List String)
  | .httpRequest method path status _ =>
      [(.requests, [method, path, toString status]), (.durations, [method, path])]
  | .retry attempt endpoint => [(.retries, [endpoint, toString attempt])]
  | .rateLimit endpoint _ => [(.waits, [endpoint])]
  | .error operation kind => [(.errors, [operation, kind])]

/-- The label values a collector is given by an event. -/
def givenTo (collector : Collector) (event : MetricEvent) : List (List String) :=
  (event.given.filter fun gift => gift.1 = collector).map (·.2)

end MetricEvent

/-- A sink in memory keeps the events it was told, in their order. -/
theorem MemoryMetrics.events_ofEvents (events : List MetricEvent) :
    (MemoryMetrics.ofEvents events).events = events := by
  induction events using List.reverseRecOn with
  | nil => rfl
  | append_singleton events event inductionHypothesis =>
      rw [ofEvents, List.foldl_append, ← ofEvents]
      exact congrArg (· ++ [event]) inductionHypothesis

/-! ## Labels in the order of their names -/

namespace Collector

variable {method path status endpoint attempt operation kind : String}

/-- The labels of a series, in the order of their names. -/
def arranged (collector : Collector) (values : List String) : List (String × String) :=
  (collector.labels.zip values).mergeSort fun left right => !(right.1 < left.1)

/-- Two labels are exchanged if their names are in the other order. -/
theorem mergeSort_pair {α : Type} (le : α → α → Bool) (first second : α) :
    [first, second].mergeSort le
      = if le first second then [first, second] else [second, first] := by
  cases ordered : le first second <;> simp [List.mergeSort, ordered]

/-- The labels of requests are in order as they are given. -/
theorem arranged_requests : requests.arranged [method, path, status]
    = [("method", method), ("path", path), ("status", status)] := by
  have ordered : ["method", "path", "status"].Pairwise fun left right => ¬right < left := by decide
  refine List.mergeSort_of_pairwise ?_
  simpa [requests] using ordered

/-- So are the labels of durations. -/
theorem arranged_durations :
    durations.arranged [method, path] = [("method", method), ("path", path)] := by
  have ordered : ¬("path" : String) < "method" := by decide
  exact (mergeSort_pair _ _ _).trans (if_pos (by simpa using ordered))

/-- The labels of further attempts are exchanged. -/
theorem arranged_retries :
    retries.arranged [endpoint, attempt] = [("attempt", attempt), ("endpoint", endpoint)] := by
  have ordered : ("attempt" : String) < "endpoint" := by decide
  exact (mergeSort_pair _ _ _).trans (if_neg (by simpa using ordered))

/-- Waits have a single label. -/
theorem arranged_waits : waits.arranged [endpoint] = [("endpoint", endpoint)] :=
  List.mergeSort_singleton _

/-- The labels of failures are exchanged. -/
theorem arranged_errors :
    errors.arranged [operation, kind] = [("kind", kind), ("operation", operation)] := by
  have ordered : ("kind" : String) < "operation" := by decide
  exact (mergeSort_pair _ _ _).trans (if_neg (by simpa using ordered))

end Collector

namespace Collector

/-- Collectors of calls have names of their own. -/
theorem eq_of_name_eq : ∀ first ∈ ofCalls, ∀ second ∈ ofCalls,
    first.name = second.name → first = second := by decide

/-- The values of all labels of a collector are known from the labels in order. -/
theorem eq_of_arranged_eq {collector : Collector} (member : collector ∈ ofCalls)
    {values others : List String} (complete : values.length = collector.labels.length)
    (othersComplete : others.length = collector.labels.length)
    (same : collector.arranged values = collector.arranged others) : values = others := by
  simp only [ofCalls, List.mem_cons, List.not_mem_nil, or_false] at member
  rcases member with rfl | rfl | rfl | rfl | rfl
  · obtain ⟨method, path, status, rfl⟩ := List.length_eq_three.mp complete
    obtain ⟨method', path', status', rfl⟩ := List.length_eq_three.mp othersComplete
    simpa [arranged_requests] using same
  · obtain ⟨method, path, rfl⟩ := List.length_eq_two.mp complete
    obtain ⟨method', path', rfl⟩ := List.length_eq_two.mp othersComplete
    simpa [arranged_durations] using same
  · obtain ⟨endpoint, attempt, rfl⟩ := List.length_eq_two.mp complete
    obtain ⟨endpoint', attempt', rfl⟩ := List.length_eq_two.mp othersComplete
    simpa [arranged_retries, and_comm] using same
  · obtain ⟨endpoint, rfl⟩ := List.length_eq_one_iff.mp complete
    obtain ⟨endpoint', rfl⟩ := List.length_eq_one_iff.mp othersComplete
    simpa [arranged_waits] using same
  · obtain ⟨operation, kind, rfl⟩ := List.length_eq_two.mp complete
    obtain ⟨operation', kind', rfl⟩ := List.length_eq_two.mp othersComplete
    simpa [arranged_errors, and_comm] using same

end Collector

namespace MetricEvent

variable {collector : Collector} {values : List String}

/-- An event is told to collectors of calls only, each with a value for every label. -/
theorem complete_of_given (event : MetricEvent) {gift : Collector × List String}
    (member : gift ∈ event.given) :
    gift.1 ∈ Collector.ofCalls ∧ gift.2.length = gift.1.labels.length := by
  cases event <;> simp only [given, List.mem_cons, List.not_mem_nil, or_false] at member
  case httpRequest =>
    rcases member with rfl | rfl
    · exact ⟨by simp [Collector.ofCalls], rfl⟩
    · exact ⟨by simp [Collector.ofCalls], rfl⟩
  all_goals
    subst member
    exact ⟨by simp [Collector.ofCalls], rfl⟩

/-- A collector is given values for every label. -/
theorem complete_of_givenTo {events : List MetricEvent}
    (member : values ∈ events.flatMap (givenTo collector)) :
    values.length = collector.labels.length := by
  obtain ⟨event, -, given⟩ := List.mem_flatMap.mp member
  obtain ⟨gift, listed, rfl⟩ := List.mem_map.mp given
  obtain ⟨among, same⟩ := List.mem_filter.mp listed
  obtain rfl := of_decide_eq_true same
  exact (event.complete_of_given among).2

/-- The series an event touches are those of the collectors it is told to. -/
theorem touched_eq (event : MetricEvent) :
    event.touched = event.given.map fun gift => (gift.1.name, gift.1.arranged gift.2) := by
  cases event with
  | httpRequest method path status _ =>
      simp only [touched, given, List.map_cons, List.map_nil, Collector.arranged_requests,
        Collector.arranged_durations]
      rfl
  | retry attempt endpoint =>
      simp only [touched, given, List.map_cons, List.map_nil, Collector.arranged_retries]
      rfl
  | rateLimit endpoint _ =>
      simp only [touched, given, List.map_cons, List.map_nil, Collector.arranged_waits]
      rfl
  | error operation kind =>
      simp only [touched, given, List.map_cons, List.map_nil, Collector.arranged_errors]
      rfl

/-- Events touch series of a collector as often as they give it the labels of such series. -/
theorem countP_touched (member : collector ∈ Collector.ofCalls)
    (chosen : List (String × String) → Bool) (events : List MetricEvent) :
    (events.flatMap touched).countP (fun series => series.1 == collector.name && chosen series.2)
      = (events.flatMap (givenTo collector)).countP
          fun values => chosen (collector.arranged values) := by
  induction events with
  | nil => rfl
  | cons event events inductionHypothesis =>
      rw [List.flatMap_cons, List.flatMap_cons, List.countP_append, List.countP_append,
        inductionHypothesis, touched_eq, givenTo, List.countP_map, List.countP_map,
        List.countP_filter]
      congr 1
      refine List.countP_congr fun gift among => ?_
      have known := (event.complete_of_given among).1
      by_cases same : gift.1 = collector
      · simp [same]
      · have named : gift.1.name ≠ collector.name :=
          fun equal => same (Collector.eq_of_name_eq _ known _ member equal)
        simp [same, named]

end MetricEvent

/-! ## What is counted -/

/-- How often a series was touched. -/
def Sample.count : Sample → Nat
  | .counter value => value
  | .histogram value => value.count

namespace Exposition

variable {exposition : Exposition} {events : List MetricEvent} {event : MetricEvent}

/-- The table of every collector is a tally of what the collector was given. -/
structure Agrees (exposition : Exposition) (events : List MetricEvent) : Prop where
  /-- The answered requests. -/
  requests : SeriesOf.Tallies id exposition.requests (events.flatMap (·.givenTo .requests))
  /-- The time they took. -/
  durations :
    SeriesOf.Tallies Histogram.count exposition.durations (events.flatMap (·.givenTo .durations))
  /-- The further attempts. -/
  retries : SeriesOf.Tallies id exposition.retries (events.flatMap (·.givenTo .retries))
  /-- The waits for tokens. -/
  waits : SeriesOf.Tallies Histogram.count exposition.waits (events.flatMap (·.givenTo .waits))
  /-- The failures. -/
  errors : SeriesOf.Tallies id exposition.errors (events.flatMap (·.givenTo .errors))

section Told

variable {α : Type} {measure : α → Nat} {series : SeriesOf α} {collector : Collector}

/-- The table of a collector that an event is not told to stays as it is. -/
theorem tallies_of_untold
    (tallies : SeriesOf.Tallies measure series (events.flatMap (·.givenTo collector)))
    (untold : event.givenTo collector = []) :
    SeriesOf.Tallies measure series ((events ++ [event]).flatMap (·.givenTo collector)) := by
  rw [List.flatMap_append, List.flatMap_singleton, untold, List.append_nil]
  exact tallies

/-- In the table of a collector that an event is told to, the value of its labels is changed. -/
theorem tallies_of_told {labels : List String} {fresh : α} {change : α → α}
    (tallies : SeriesOf.Tallies measure series (events.flatMap (·.givenTo collector)))
    (told : event.givenTo collector = [labels]) (start : measure fresh = 0)
    (counted : ∀ value, measure (change value) = measure value + 1) :
    SeriesOf.Tallies measure (SeriesOf.update labels fresh change series)
      ((events ++ [event]).flatMap (·.givenTo collector)) := by
  rw [List.flatMap_append, List.flatMap_singleton, told]
  exact tallies.update start counted labels

end Told

/-- One more event keeps the tables. -/
theorem Agrees.record (agrees : exposition.Agrees events) (event : MetricEvent) :
    (exposition.record event).Agrees (events ++ [event]) := by
  cases event with
  | httpRequest method path status duration =>
      exact
        { requests := tallies_of_told agrees.requests rfl rfl fun _ => rfl
          durations := tallies_of_told agrees.durations rfl rfl fun _ => rfl
          retries := tallies_of_untold agrees.retries rfl
          waits := tallies_of_untold agrees.waits rfl
          errors := tallies_of_untold agrees.errors rfl }
  | retry attempt endpoint =>
      exact
        { requests := tallies_of_untold agrees.requests rfl
          durations := tallies_of_untold agrees.durations rfl
          retries := tallies_of_told agrees.retries rfl rfl fun _ => rfl
          waits := tallies_of_untold agrees.waits rfl
          errors := tallies_of_untold agrees.errors rfl }
  | rateLimit endpoint wait =>
      exact
        { requests := tallies_of_untold agrees.requests rfl
          durations := tallies_of_untold agrees.durations rfl
          retries := tallies_of_untold agrees.retries rfl
          waits := tallies_of_told agrees.waits rfl rfl fun _ => rfl
          errors := tallies_of_untold agrees.errors rfl }
  | error operation kind =>
      exact
        { requests := tallies_of_untold agrees.requests rfl
          durations := tallies_of_untold agrees.durations rfl
          retries := tallies_of_untold agrees.retries rfl
          waits := tallies_of_untold agrees.waits rfl
          errors := tallies_of_told agrees.errors rfl rfl fun _ => rfl }

/-- The tables agree with all events that were counted. -/
theorem agrees_ofEvents (events : List MetricEvent) : (ofEvents events).Agrees events := by
  induction events using List.reverseRecOn with
  | nil =>
      exact
        { requests := SeriesOf.tallies_nil _
          durations := SeriesOf.tallies_nil _
          retries := SeriesOf.tallies_nil _
          waits := SeriesOf.tallies_nil _
          errors := SeriesOf.tallies_nil _ }
  | append_singleton events event inductionHypothesis =>
      rw [ofEvents, List.foldl_append, ← ofEvents]
      exact inductionHypothesis.record event

end Exposition

end Outbound
