import Outbound.Bucket
import Outbound.Telemetry.Metric

/-! # Exposed series

Metric events are counted in series, one for each combination of label values, so that they can be
collected from outside. Five collectors are registered under fixed names; a name can be registered
once.

* `Exposition.record` counts an event.
* `Exposition.families` lists the touched series by the names of their collectors, with labels in
  the order of their names.
* `Registry.registerAll` registers collectors one after the other until one is refused. -/

namespace Outbound

/-! ## Collectors -/

/-- A collector of series. -/
structure Collector where
  /-- The name of the series. -/
  name : String
  /-- What they measure. -/
  help : String
  /-- The names of the labels, in the order in which their values are given. -/
  labels : List String
  deriving DecidableEq, Repr

namespace Collector

/-- Answered requests. -/
def requests : Collector :=
  { name := "restline_http_requests_total"
    help := "Completed outbound HTTP requests"
    labels := ["method", "path", "status"] }

/-- The time requests took. -/
def durations : Collector :=
  { name := "restline_http_request_duration_seconds"
    help := "Outbound HTTP request latency, including retries and rate-limit waits"
    labels := ["method", "path"] }

/-- Further attempts. -/
def retries : Collector :=
  { name := "restline_retries_total"
    help := "Retry attempts scheduled"
    labels := ["endpoint", "attempt"] }

/-- The time calls waited for tokens. -/
def waits : Collector :=
  { name := "restline_rate_limit_wait_seconds"
    help := "Time spent waiting for a client-side rate-limit token"
    labels := ["endpoint"] }

/-- Failures. -/
def errors : Collector :=
  { name := "restline_errors_total"
    help := "Failed operations by error kind"
    labels := ["operation", "kind"] }

/-- The collectors of calls, in the order in which they are registered. -/
def ofCalls : List Collector := [requests, durations, retries, waits, errors]

end Collector

/-! ## Registration -/

/-- The collectors that can be collected from. -/
structure Registry where
  /-- The collectors, in the order in which they were registered. -/
  collectors : List Collector
  deriving DecidableEq, Repr

/-- Why a collector is refused. -/
inductive RegistrationError where
  /-- The name is taken. -/
  | duplicate
  deriving DecidableEq, Repr

/-- The wording of a refusal. -/
def RegistrationError.message : RegistrationError → String
  | .duplicate => "Duplicate metrics collector registration attempted"

namespace Registry

/-- A registry without collectors. -/
def empty : Registry := ⟨[]⟩

/-- The registry with one more collector, unless its name is taken. -/
def register (registry : Registry) (collector : Collector) :
    Except RegistrationError Registry :=
  if registry.collectors.any fun other => other.name == collector.name then .error .duplicate
  else .ok ⟨registry.collectors ++ [collector]⟩

/-- The registry after collectors were registered one after the other, and the refusal that ended
it. -/
def registerAll (registry : Registry) : List Collector → Registry × Option RegistrationError
  | [] => (registry, none)
  | collector :: collectors =>
      match registry.register collector with
      | .ok extended => extended.registerAll collectors
      | .error error => (registry, some error)

end Registry

/-! ## Series -/

/-- The upper bounds of the buckets of a histogram, in seconds. -/
def Histogram.bounds : List Float := [0.005, 0.01, 0.025, 0.05, 0.1, 0.25, 0.5, 1, 2.5, 5, 10]

/-- Observed lengths of time. -/
structure Histogram where
  /-- For each bound, the observations that do not exceed it. -/
  cumulative : List Nat
  /-- The number of observations. -/
  count : Nat
  /-- The sum of the observations in seconds. -/
  sum : Float

namespace Histogram

/-- No observations. -/
def empty : Histogram := ⟨bounds.map fun _ => 0, 0, 0⟩

/-- The histogram with one more observation. -/
def observe (histogram : Histogram) (length : Duration) : Histogram :=
  let seconds := length.toSeconds
  { cumulative := List.zipWith (fun bound count => if seconds ≤ bound then count + 1 else count)
      bounds histogram.cumulative
    count := histogram.count + 1
    sum := histogram.sum + seconds }

end Histogram

/-- Values by combinations of label values. -/
abbrev SeriesOf (α : Type) := List (List String × α)

/-- Changes the value of a combination, which starts from a given one if it is new. -/
def SeriesOf.update {α : Type} (labels : List String) (fresh : α) (change : α → α) :
    SeriesOf α → SeriesOf α
  | [] => [(labels, change fresh)]
  | (other, value) :: series =>
      if other = labels then (other, change value) :: series
      else (other, value) :: SeriesOf.update labels fresh change series

/-- What was counted so far. -/
structure Exposition where
  /-- Answered requests, by method, path and status. -/
  requests : SeriesOf Nat := []
  /-- The time they took, by method and path. -/
  durations : SeriesOf Histogram := []
  /-- Further attempts, by endpoint and number. -/
  retries : SeriesOf Nat := []
  /-- Waits for tokens, by endpoint. -/
  waits : SeriesOf Histogram := []
  /-- Failures, by operation and kind. -/
  errors : SeriesOf Nat := []

namespace Exposition

/-- The counts after one more event. -/
def record (exposition : Exposition) : MetricEvent → Exposition
  | .httpRequest method path status duration =>
      { exposition with
        requests := SeriesOf.update [method, path, toString status] 0 (· + 1) exposition.requests
        durations :=
          SeriesOf.update [method, path] .empty (·.observe duration) exposition.durations }
  | .retry attempt endpoint =>
      { exposition with
        retries := SeriesOf.update [endpoint, toString attempt] 0 (· + 1) exposition.retries }
  | .rateLimit endpoint wait =>
      { exposition with
        waits := SeriesOf.update [endpoint] .empty (·.observe wait) exposition.waits }
  | .error operation kind =>
      { exposition with
        errors := SeriesOf.update [operation, kind] 0 (· + 1) exposition.errors }

/-- The counts after events. -/
def ofEvents (events : List MetricEvent) : Exposition := events.foldl record {}

end Exposition

/-! ## Collecting -/

/-- The value of a series. -/
inductive Sample where
  /-- A count. -/
  | counter (value : Nat)
  /-- A histogram. -/
  | histogram (value : Histogram)

/-- A series with its labels in the order of their names. -/
structure Series where
  /-- Names and values of the labels. -/
  labels : List (String × String)
  /-- The value. -/
  sample : Sample

/-- The series of a collector. -/
structure Family where
  /-- The name. -/
  name : String
  /-- What is measured. -/
  help : String
  /-- The series, in the order of their label values. -/
  series : List Series

namespace Family

/-- The touched series of a collector. -/
def collect (collector : Collector) (values : SeriesOf Sample) : Family :=
  let series := values.map fun (given, sample) =>
    let labels := (collector.labels.zip given).mergeSort fun left right => !(right.1 < left.1)
    ({ labels, sample } : Series)
  { name := collector.name
    help := collector.help
    series := series.mergeSort fun left right =>
      !(right.labels.map (·.2) < left.labels.map (·.2) : Bool) }

end Family

/-- The touched series of all collectors, in the order of their names. -/
def Exposition.families (exposition : Exposition) : List Family :=
  let counted := fun (series : SeriesOf Nat) =>
    series.map fun (labels, value) => (labels, Sample.counter value)
  let measured := fun (series : SeriesOf Histogram) =>
    series.map fun (labels, value) => (labels, Sample.histogram value)
  let families :=
    [Family.collect .requests (counted exposition.requests),
      Family.collect .durations (measured exposition.durations),
      Family.collect .retries (counted exposition.retries),
      Family.collect .waits (measured exposition.waits),
      Family.collect .errors (counted exposition.errors)]
  (families.filter fun family => !family.series.isEmpty).mergeSort fun left right =>
    !(right.name < left.name)

end Outbound
