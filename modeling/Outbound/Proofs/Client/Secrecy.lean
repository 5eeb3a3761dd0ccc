import Outbound.Proofs.Call.Retelling
import Outbound.Proofs.Client.Layers
import Outbound.Session

/-! # Secrecy of credentials

Two clients that differ in the value of their credential make the same calls, except that the
requests they send differ in that value. So nothing else that can be seen of a call, and nothing
that it leaves behind, tells the value.

* `Transport.Blind` holds of a base that acts alike on requests that differ in the fields of a name;
  `Client.execute_congr` says that over such a base the two clients make the same calls.
* `World.without` is a world in which the fields of a name were not seen; `World.perform_without`
  says that calls do not depend on what was seen of them.
* `Call.BlindTo` holds of any surroundings that do not look at the fields of a name; what they do
  depends on nothing else of a request.
* `ClientConfig.secrecy_of_perform` is the law of two runs in such surroundings, and in a scripted
  world. -/

namespace Outbound

/-! ## Fields left out -/

/-- The fields without those of a name. -/
def Headers.without (headers : Headers) (name : HeaderName) : Headers :=
  ⟨headers.entries.filter fun entry => entry.1 ≠ name⟩

/-- The request without the fields of a name. -/
def Request.without (request : Request) (name : HeaderName) : Request :=
  { request with headers := request.headers.without name }

/-- Leaving out the fields of a name once leaves out all of them. -/
@[simp] theorem Request.without_without (request : Request) (name : HeaderName) :
    (request.without name).without name = request.without name := by
  simp [without, Headers.without]

/-- A credential adds nothing but fields of its name. -/
@[simp] theorem Credential.without_apply (credential : Credential) (request : Request) :
    (credential.apply request).without credential.name = request.without credential.name := by
  simp [apply, Request.without, Headers.without, Headers.set]

/-- Requests that differ in the fields of a name differ in nothing but their fields. -/
theorem Request.exists_headers {first second : Request} {name : HeaderName}
    (same : first.without name = second.without name) :
    ∃ headers, second = { first with headers } := by
  refine ⟨second.headers, ?_⟩
  obtain ⟨_, _, _, _, _, _⟩ := first
  obtain ⟨_, _, _, _, _, _⟩ := second
  simp_all [without]

/-! ## Bases and selectors that do not look -/

/-- A base acts alike on requests that differ in the fields of a name. -/
def Transport.Blind (base : Transport) (name : HeaderName) : Prop :=
  ∀ request, base (request.without name) = base request

/-- A selector does not read the fields of requests. -/
def Selector.Blind (selector : Selector) : Prop :=
  ∀ (request : Request) headers, selector { request with headers } = selector request

/-- The base that is not shown the fields of a name. -/
def Transport.veiled (name : HeaderName) : Transport := fun request =>
  Transport.base (request.without name)

/-- A base that is not shown the fields of a name does not look at them. -/
theorem Transport.blind_veiled (name : HeaderName) : (veiled name).Blind name := by
  intro request
  rw [veiled, veiled, Request.without_without]

/-- Selections by the path do not read fields. -/
theorem PathRoutes.blind_selector (routes : PathRoutes) : routes.selector.Blind := fun _ _ => rfl

/-- Selections by the method do not read fields. -/
theorem MethodRoutes.blind_selector (routes : MethodRoutes) : routes.selector.Blind :=
  fun _ _ => rfl

/-! ## Layers over such a base -/

section Blind

variable {inner : Transport} {request : Request} {headers : Headers}

/-- A series of attempts uses its request only for the base and for its context. -/
theorem RetryPolicy.attemptsFrom_congr (policy : RetryPolicy) {first second : Request}
    (sameAttempt : inner first = inner second)
    (sameContext : first.callContext = second.callContext) (endpoint : String)
    (made further : Nat) :
    policy.attemptsFrom inner first endpoint made further =
      policy.attemptsFrom inner second endpoint made further := by
  -- By induction on the attempts that are left: whatever came before, the next one is the same.
  induction further generalizing made with
  | zero => simp only [attemptsFrom, sameAttempt]
  | succ further inductionHypothesis =>
      simp only [attemptsFrom, sameAttempt, sameContext, inductionHypothesis]

/-- Repeated attempts at a base that does not look at fields do not, either. -/
theorem RetryPolicy.transport_congr (policy : RetryPolicy)
    (sameAttempt : ∀ body, inner { request with headers, body } = inner { request with body }) :
    policy.transport inner { request with headers } = policy.transport inner request := by
  simp only [transport]
  cases buffered request.body with
  | error failure => rfl
  | ok body =>
      refine bind_congr fun endpoint => ?_
      exact policy.attemptsFrom_congr (sameAttempt body) rfl endpoint 0 _

/-- An admission whose selector does not read fields does not, either. -/
theorem Admission.admitted_congr {admission : Admission} (blind : admission.selector.Blind) :
    admission.admitted { request with headers } = admission.admitted request := by
  simp only [admitted, blind request headers]
  rfl

namespace ClientConfig

variable {config : ClientConfig}

/-- The selector of an admission is the one of the configuration, or always the same. -/
theorem blind_of_admission {admission : Admission} (limit : config.admission = some admission)
    (blind : ∀ selector, config.selector = some selector → selector.Blind) :
    admission.selector.Blind := by
  obtain ⟨selector, rfl, given | ⟨_, _, rfl⟩⟩ := exists_of_admission limit
  · exact blind selector given
  · exact fun _ _ => rfl

/-- The layers behind the credential act alike on requests that differ in the fields of a name. -/
theorem limited_congr (blind : ∀ selector, config.selector = some selector → selector.Blind)
    {name : HeaderName} (blindBase : inner.Blind name) {first second : Request}
    (same : first.without name = second.without name) :
    config.limited inner first = config.limited inner second := by
  obtain ⟨headers, rfl⟩ := Request.exists_headers same
  -- The attempts send the request with its body read, which still differs in the fields alone.
  have sameAttempt (body : Option Body) :
      inner { first with headers, body } = inner { first with body } := by
    rw [← blindBase { first with headers, body }, ← blindBase { first with body }]
    congr 1
    exact (congrArg (fun request => { request with body }) same).symm
  have repeats := config.retryPolicy.transport_congr sameAttempt
  cases limit : config.admission with
  | none => simpa only [limited, limit] using repeats.symm
  | some admission =>
      simp only [limited, limit, Admission.transport, repeats,
        Admission.admitted_congr (blind_of_admission limit blind)]

/-- The client with a credential of a name and a value. -/
def withCredential (config : ClientConfig) (name : HeaderName) (value : HeaderValue) :
    ClientConfig := { config with credential := some (.ofField name value) }

/-- The requests with the credential are the same but for its value. -/
theorem without_credited (name : HeaderName) (value : HeaderValue) (request : Request) :
    ((config.withCredential name value).credited request).without name = request.without name :=
  Credential.without_apply ..

end ClientConfig

/-- Over a base that does not look at the credential, clients that differ in its value make the same
calls. -/
theorem Client.execute_congr {config : ClientConfig}
    (blind : ∀ selector, config.selector = some selector → selector.Blind) {name : HeaderName}
    (blindBase : inner.Blind name) (value other : HeaderValue) :
    (ofConfig (config.withCredential name value) inner []).execute request =
      (ofConfig (config.withCredential name other) inner []).execute request := by
  have sameCalls :
      (fun observed => (config.withCredential name value).limited inner
          ((config.withCredential name value).credited observed)) =
        fun observed => (config.withCredential name other).limited inner
          ((config.withCredential name other).credited observed) := by
    funext observed
    show config.limited inner _ = config.limited inner _
    refine ClientConfig.limited_congr blind blindBase ?_
    rw [ClientConfig.without_credited, ClientConfig.without_credited]
  rw [execute_eq, execute_eq, sameCalls]
  rfl

/-- A call for any purpose uses its client only for the response. -/
theorem CallPlan.pursue_through (purpose : Purpose) {client other : Client}
    (same : (client.execute request).through inner = other.execute request) :
    (pursue purpose client request).through inner = pursue purpose other request := by
  -- Behind the response nothing but the response is looked at, for each purpose in its own way.
  cases purpose with
  | response =>
      simp only [pursue, Call.through_bind, same]
      refine bind_congr fun outcome => ?_
      cases outcome <;> rfl
  | payload operation shape expected =>
      simp only [pursue, Client.sendJson, Call.through_bind, same, Call.bind_assoc]
      refine bind_congr fun outcome => ?_
      cases outcome with
      | error failure => rfl
      | ok response =>
          show Call.perform (.close response.id) >>= _ = Call.perform (.close response.id) >>= _
          refine bind_congr fun _ => ?_
          show Call.through inner _ = _
          cases Client.payloadOf operation shape expected response <;> rfl
  | confirmation operation expected =>
      simp only [pursue, Client.sendNoContent, Call.through_bind, same, Call.bind_assoc]
      refine bind_congr fun outcome => ?_
      cases outcome with
      | error failure => rfl
      | ok response =>
          show Call.perform (.close response.id) >>= _ = Call.perform (.close response.id) >>= _
          refine bind_congr fun _ => ?_
          show Call.through inner _ = _
          cases Answer.judge operation expected
            (.ok ⟨response.status, some (), response.attempts⟩) <;> rfl

end Blind

/-! ## Surroundings that do not look -/

/-- The exchange without the fields of a name in its request. -/
def Exchange.without (name : HeaderName) : Exchange → Exchange
  | ⟨.send request, outcome⟩ => ⟨.send (request.without name), outcome⟩
  | exchange => exchange

/-- An event in which the fields of a name were not seen. -/
def Event.without (name : HeaderName) : Event → Event
  | .send request instant => .send (request.without name) instant
  | event => event

/-- An event, unless it is a request that was sent. -/
def Event.aside : Event → List Event
  | .send _ _ => []
  | event => [event]

namespace Call

variable {α σ : Type} {respond : (effect : Effect) → σ → effect.Answer × σ} {name : HeaderName}

/-- Surroundings answer a request as they answer the one without the fields of a name. -/
def BlindTo (respond : (effect : Effect) → σ → effect.Answer × σ) (name : HeaderName) : Prop :=
  ∀ (request : Request) state,
    respond (.send (request.without name)) state = respond (.send request) state

/-- Surroundings that do not look at fields serve requests without them as ever. -/
theorem serving_veiled (blind : BlindTo respond name) :
    serving respond (Transport.veiled name) = respond := by
  funext effect state
  cases effect with
  | send request => exact blind request state
  | _ => rfl

/-- A call runs as it does over a base that is not shown the fields. -/
theorem run_veiled (blind : BlindTo respond name) (call : Call α) (state : σ) :
    (call.through (Transport.veiled name)).run respond state = call.run respond state := by
  rw [run_through, serving_veiled blind]

/-- The trace over a base that is not shown the fields lacks them and is otherwise the same. -/
theorem exchanges_veiled (blind : BlindTo respond name) (call : Call α) (state : σ) :
    (call.through (Transport.veiled name)).exchanges respond state
      = (call.exchanges respond state).map (Exchange.without name) := by
  induction call generalizing state with
  | done value => rfl
  | ask effect next inductionHypothesis =>
      cases effect with
      | send request =>
          show _ :: exchanges respond _ _ = _ :: List.map _ _
          rw [blind request state, ← inductionHypothesis]
          rfl
      | _ => exact congrArg (_ :: ·) (inductionHypothesis _ _)

end Call

namespace World

/-- The world in which the fields of a name were not seen. -/
def without (name : HeaderName) (world : World) : World :=
  world.retold fun event => [event.without name]

/-- What was seen apart from requests. -/
def aside (world : World) : List Event := world.events.flatMap Event.aside

/-- Nothing but requests has fields that could be left out. -/
theorem aside_without (name : HeaderName) (world : World) :
    (world.without name).aside = world.aside := by
  simp only [aside, without, retold, List.flatMap_assoc]
  congr 1
  funext event
  cases event <;> rfl

/-- Requests are answered alike in a world in which their fields are not seen. -/
theorem serving_without (name : HeaderName) (effect : Effect) (world : World) :
    Call.serving answer (Transport.veiled name) effect (world.without name) =
      ((answer effect world).1, (answer effect world).2.without name) := by
  have elsewhere (same : ∀ event ∈ effect.event? world.now, [event.without name] = [event]) :=
    answer_retold (fun event => [event.without name]) effect world same
  cases effect with
  | send request => exact answer_send_retold rfl
  | _ =>
      refine elsewhere ?_
      rintro _ ⟨⟩ <;> rfl

/-- A call in a world in which the fields of a name were not seen, over a base that is not shown
them, goes as it does in the world itself. -/
theorem perform_without {α : Type} (name : HeaderName) (call : Call α) (world : World) :
    (world.without name).perform (call.through (Transport.veiled name)) =
      ((world.perform call).1, (world.perform call).2.without name) := by
  rw [perform, Call.run_through]
  exact Call.run_view (serving_without name) call world

end World

/-! ## Two clients -/

namespace ClientConfig

/-- The law of secrecy. Two clients differ in nothing but the value of their credential, and their
selector, if they have one, does not read fields. In surroundings that do not look at the credential
the same call of both has the same result, leaves the same state behind, and has the same trace:
the same records, measurements, reservations and waits in the same order, with the same answers. The
requests alone differ, and those in nothing but the field of the credential. In a scripted world,
which keeps the requests, all else that is seen is the same, and so are the time and the buckets
behind the call. The credential, the configuration and the client have the same texts. -/
theorem secrecy_of_perform (config : ClientConfig)
    (blind : ∀ selector, config.selector = some selector → selector.Blind) (name : HeaderName)
    (value other : HeaderValue) (purpose : Purpose) (request : Request) :
    let client := fun value => Client.ofConfig (config.withCredential name value) .base []
    let call := fun value => CallPlan.pursue purpose (client value) request
    (∀ {σ : Type} (respond : (effect : Effect) → σ → effect.Answer × σ) (state : σ),
        Call.BlindTo respond name →
        (call value).run respond state = (call other).run respond state ∧
          ((call value).exchanges respond state).map (Exchange.without name)
            = ((call other).exchanges respond state).map (Exchange.without name)) ∧
      (∀ world : World,
        let performed := fun value => world.perform (call value)
        (performed value).1 = (performed other).1 ∧
          (performed value).2.without name = (performed other).2.without name ∧
          (performed value).2.aside = (performed other).2.aside ∧
          (performed value).2.now = (performed other).2.now ∧
          (performed value).2.buckets = (performed other).2.buckets) ∧
      (Credential.ofField name value).describe = (Credential.ofField name other).describe ∧
      (∀ bucketText, (config.withCredential name value).describe bucketText
        = (config.withCredential name other).describe bucketText) ∧
      (client value).describe = (client other).describe := by
  intro client call
  -- Over a base that is not shown the credential, both make the very same call.
  have veiledCall : ((client other).execute request).through (Transport.veiled name)
      = (Client.ofConfig (config.withCredential name value) (.veiled name) []).execute request :=
    (Client.execute_through _).trans
      (Client.execute_congr blind (Transport.blind_veiled name) other value)
  have sameCalls : (call value).through (Transport.veiled name)
      = (call other).through (Transport.veiled name) :=
    (CallPlan.pursue_through purpose (Client.execute_through _)).trans
      (CallPlan.pursue_through purpose veiledCall).symm
  refine ⟨?_, ?_, ?_, fun _ => rfl, rfl⟩
  · intro σ respond state blindTo
    constructor
    · rw [← Call.run_veiled blindTo, sameCalls, Call.run_veiled blindTo]
    · rw [← Call.exchanges_veiled blindTo, sameCalls, Call.exchanges_veiled blindTo]
  · intro world performed
    have sameRuns : ((performed value).1, (performed value).2.without name)
        = ((performed other).1, (performed other).2.without name) := by
      rw [← World.perform_without, ← World.perform_without, sameCalls]
    obtain ⟨sameResult, sameWorld⟩ := Prod.mk.inj sameRuns
    refine ⟨sameResult, sameWorld, ?_, ?_, ?_⟩
    · rw [← World.aside_without name, sameWorld, World.aside_without]
    · exact (congrArg World.now sameWorld : (World.without name _).now = _)
    · exact (congrArg World.buckets sameWorld : (World.without name _).buckets = _)
  · -- Both values are secret, so that only the name is left in the texts of the credentials.
    rw [Credential.describe_eq, Credential.describe_eq]
    rfl

/-- Two keys are told apart by the requests that carry them and by nothing else, where the paths of
requests choose their buckets and a first failure leads to a second attempt. -/
theorem secrecy_of_perform_two_keys :
    let routes : PathRoutes :=
      { routes := [("/open", ⟨none, "open"⟩)], fallback := ⟨some (.shared 0), "rest"⟩ }
    let config : ClientConfig :=
      { baseUrl := none, maxRetries := 1, initialWait := .ofSeconds 1, limiter := none
        selector := some routes.selector, sink := .recorded, sleeper := .timer, credential := none
        connection := {} }
    let request : Request := { method := .get, uri := ⟨none, none, "/open", none⟩ }
    let world : World :=
      { buckets := fun _ => .full 1 1 .start
        script := [{ reaction := .respond ⟨503, by decide⟩ .empty .empty }] }
    let call := fun value => CallPlan.pursue .response
      (Client.ofConfig (config.withCredential .authorization value) .base []) request
    let failing := Call.steady (.ok ⟨1, ⟨503, by decide⟩, .empty, .empty, none⟩) (.ok ())
    (∀ selector, config.selector = some selector → selector.Blind) ∧
      Call.BlindTo failing .authorization ∧
      ((call ⟨[0x61], false, by decide⟩).run failing ()).1
        = ((call ⟨[0x62], false, by decide⟩).run failing ()).1 ∧
      ((call ⟨[0x61], false, by decide⟩).exchanges World.answer world).requests
        ≠ ((call ⟨[0x62], false, by decide⟩).exchanges World.answer world).requests ∧
      (world.perform (call ⟨[0x61], false, by decide⟩)).2.aside
        = (world.perform (call ⟨[0x62], false, by decide⟩)).2.aside := by
  intro routes config request world call failing
  have blind (selector : Selector) (given : config.selector = some selector) : selector.Blind := by
    obtain rfl := Option.some.inj given
    exact routes.blind_selector
  have blindTo : Call.BlindTo failing .authorization := fun _ _ => rfl
  obtain ⟨ran, performed, _⟩ := secrecy_of_perform config blind .authorization
    ⟨[0x61], false, by decide⟩ ⟨[0x62], false, by decide⟩ .response request
  obtain ⟨_, _, sameAside, _⟩ := performed world
  exact ⟨blind, blindTo, congrArg Prod.fst (ran failing () blindTo).1, by decide +kernel, sameAside⟩

end ClientConfig

end Outbound
