import Outbound.Proofs.Client.Course

/-! # Layers around any base

The layers of a client use the base only by passing requests on to it, so that a client over any
base makes the calls of the client over the plain base, with that base in place of the requests.

* `RetryPolicy.transport_through`, `Admission.transport_through` and `Observe.transport_through` say
  so of the single layers, and `Client.execute_through` of a client.
* `Client.execute_extra` says that further layers next to the base are part of it. -/

namespace Outbound

variable {middle inner : Transport} {request : Request}

/-! ## Single layers -/

/-- Repeated attempts through a transport are repeated attempts at it. -/
theorem RetryPolicy.transport_through (policy : RetryPolicy) :
    (policy.transport middle request).through inner =
      policy.transport (fun sent => (middle sent).through inner) request := by
  rw [← through_transport, Call.through_through, through_transport]

namespace Admission

/-- No request is sent while a token is waited for. -/
theorem await_through (admission : Admission) (context : Context) (bucket : BucketId)
    (label : String) (delay : Duration) :
    (admission.await context bucket label delay).through inner =
      admission.await context bucket label delay := by
  simp only [await, Call.through_bind, Sink.through_log, Sink.through_measure]
  refine bind_congr fun _ => bind_congr fun _ => ?_
  show Call.perform _ >>= _ = Call.perform _ >>= _
  refine bind_congr fun ending => ?_
  cases ending <;> rfl

/-- No request is sent for an admission. -/
theorem admitted_through (admission : Admission) :
    (admission.admitted request).through inner = admission.admitted request := by
  simp only [admitted]
  split
  · rfl
  · show Call.perform _ >>= _ = Call.perform _ >>= _
    refine bind_congr fun delay => ?_
    show Call.through inner (ite _ _ _) = ite _ _ _
    split
    · rfl
    · exact await_through ..

/-- An admission in front of a transport passes requests on to it. -/
theorem transport_through (admission : Admission) :
    (admission.transport middle request).through inner =
      admission.transport (fun sent => (middle sent).through inner) request := by
  simp only [transport, Call.through_bind, admitted_through]
  refine bind_congr fun answer => ?_
  cases answer <;> rfl

end Admission

namespace Observe

/-- No request is sent for a report. -/
theorem report_through (observe : Observe) (outcome : Outcome) (duration : Duration) :
    (observe.report request outcome duration).through inner =
      observe.report request outcome duration := by
  cases outcome with
  | error failure => simp only [report, Call.through_bind, Sink.through_log, Sink.through_measure]
  | ok response =>
      simp only [report, Call.through_bind, Sink.through_log, Sink.through_measure]
      rfl

/-- An observed transport passes requests on to what it observes. -/
theorem transport_through (observe : Observe) :
    (observe.transport middle request).through inner =
      observe.transport (fun sent => (middle sent).through inner) request := by
  simp only [transport, Call.through_bind, Sink.through_log, report_through]
  rfl

end Observe

/-! ## All layers of a client -/

/-- The layers behind the credential pass requests on to the base. -/
theorem ClientConfig.limited_through (config : ClientConfig) :
    (config.limited middle request).through inner =
      config.limited (fun sent => (middle sent).through inner) request := by
  cases limit : config.admission with
  | none =>
      simp only [limited, limit]
      exact RetryPolicy.transport_through _
  | some admission =>
      simp only [limited, limit, Admission.transport_through, RetryPolicy.transport_through]

namespace Client

variable (config : ClientConfig)

/-- A call of a client is an observed call of the layers behind the credential. -/
theorem execute_eq :
    (ofConfig config inner []).execute request =
      config.observe.transport (fun observed => config.limited inner (config.credited observed))
        request := by
  rw [execute, transport_ofConfig, List.append_nil]
  exact ClientConfig.chain_layers

/-- The calls of a client over a transport are those over the base, with the transport in its
place. -/
theorem execute_through :
    ((ofConfig config .base []).execute request).through inner =
      (ofConfig config inner []).execute request := by
  have passed : (fun sent => (Transport.base sent).through inner) = inner :=
    funext fun sent => Call.bind_done (inner sent)
  rw [execute_eq, execute_eq, Observe.transport_through]
  congr 1
  funext observed
  rw [ClientConfig.limited_through, passed]

/-- Further layers next to the base are part of it. -/
theorem execute_extra (base : Transport) (extra : List Middleware) :
    (ofConfig config base extra).execute = (ofConfig config (chain extra base) []).execute := by
  funext request
  rw [execute, execute, transport_ofConfig, transport_ofConfig, chain_append, List.append_nil]

end Client

end Outbound
