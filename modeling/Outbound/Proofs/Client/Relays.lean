import Outbound.Middleware.Plan
import Outbound.Proofs.Client.Interruption
import Outbound.Proofs.Client.Layers

/-! # Further layers next to the base

Layers between the repeated attempts and the base take part in each attempt. Where they pass
requests on once, every attempt goes through all of them, in order, to the base and back, while the
layers of the client admit the call a single time, before the first attempt.

* `Relay` is a layer that passes every request on once; `Passage` is the trace of a request through
  relays to the base and back, with the requests that were seen on the way.
* `Unfolded` puts such passages in place of the requests of a trace; `Call.unfolded_through` says
  that this makes the trace of a call through the relays.
* `PathRoutes.ofPath_eq` says which route is taken, `ClientConfig.Course.dealings_eq` what a call
  does about tokens and requests, and `Trace.buckets_replay` that it leaves other buckets alone.
* `ClientConfig.passages_of_run` is the law of a whole call. -/

namespace Outbound

/-! ## Relays -/

/-- A layer that passes every request on once. -/
structure Relay where
  /-- The name of the layer. -/
  name : String
  /-- What the layer does before: the request that it passes on, and what it does with the
  outcome. -/
  enter : Request → Call (Request × (Outcome → Call Outcome))

namespace Relay

/-- A relay as a layer. -/
def middleware (relay : Relay) : Middleware :=
  { name := relay.name
    wrap := fun inner request => do
      let (passed, leave) ← relay.enter request
      leave (← inner passed) }

/-- The relay that marks when it is entered and left. -/
def tag (name : String) : Relay :=
  { name
    enter := fun request => do
      Call.perform (.enter name)
      return (request, fun outcome => do
        Call.perform (.leave name outcome.toBool)
        return outcome) }

/-- The relay that sets a header field. -/
def header (name : HeaderName) (value : HeaderValue) : Relay :=
  { name := "header"
    enter := fun request =>
      .done ({ request with headers := request.headers.set name value }, Call.done) }

/-- The layer that marks is a relay. -/
theorem middleware_tag (name : String) : (tag name).middleware = Middleware.tag name := rfl

/-- The layer that sets a header field is a relay. -/
theorem middleware_header (name : HeaderName) (value : HeaderValue) :
    (header name value).middleware = Middleware.header name value := by
  rw [Relay.middleware, Middleware.header]
  congr 1
  funext inner request
  exact Call.bind_done _

/-- A relay passes on the fields of a name as they are. -/
def Keeps (relay : Relay) (name : HeaderName) : Prop :=
  ∀ request trace passed leave, (relay.enter request).Yields trace (passed, leave) →
    passed.headers.values name = request.headers.values name

/-- The transport of relays around the base. -/
def transport (relays : List Relay) : Transport := chain (relays.map middleware) .base

end Relay

/-! ## Passages -/

/-- The trace of a request through relays to the base and back, with the requests that the relays
and the base see and with the outcome. Each relay is entered once, in order, then the base is
called once, and the relays are left in reverse. -/
inductive Passage : List Relay → Request → List Request → Trace → Outcome → Prop where
  /-- The base is called. -/
  | base (request : Request) (outcome : Outcome) :
      Passage [] request [request] [⟨.send request, outcome⟩] outcome
  /-- The first relay is entered before all others and left behind them. -/
  | through {relay : Relay} {relays : List Relay} {request passed : Request} {seen : List Request}
      {front during back : Trace} {leave : Outcome → Call Outcome} {inner outcome : Outcome}
      (entered : (relay.enter request).Yields front (passed, leave))
      (inside : Passage relays passed seen during inner)
      (left : (leave inner).Yields back outcome) :
      Passage (relay :: relays) request (request :: seen) (front ++ (during ++ back)) outcome

namespace Passage

variable {relays : List Relay} {request : Request} {seen : List Request} {trace : Trace}
  {outcome : Outcome}

/-- Relays around the base have only such traces. -/
theorem exists_of_yields (yields : (Relay.transport relays request).Yields trace outcome) :
    ∃ seen, Passage relays request seen trace outcome := by
  induction relays generalizing request trace outcome with
  | nil =>
      obtain rfl := Call.yields_perform_iff.mp yields
      exact ⟨_, .base request outcome⟩
  | cons relay relays inductionHypothesis =>
      obtain ⟨front, _, ⟨passed, leave⟩, rfl, entered, goesOn⟩ := Call.yields_bind_iff.mp yields
      obtain ⟨during, back, inner, rfl, inside, left⟩ := Call.yields_bind_iff.mp goesOn
      obtain ⟨seen, passage⟩ := inductionHypothesis inside
      exact ⟨_, .through entered passage left⟩

/-- Every relay and the base see one request. -/
theorem length_seen (passage : Passage relays request seen trace outcome) :
    seen.length = relays.length + 1 := by
  induction passage with
  | base _ _ => rfl
  | through _ _ _ inductionHypothesis =>
      rw [List.length_cons, List.length_cons, inductionHypothesis]

/-- What is behind relays that keep the fields of a name sees them as they were. -/
theorem values_of_seen (passage : Passage relays request seen trace outcome) {name : HeaderName}
    {position : Nat} (keeps : ∀ relay ∈ relays.take position, relay.Keeps name) :
    ∀ looked ∈ seen[position]?, looked.headers.values name = request.headers.values name := by
  induction passage generalizing position with
  | base request _ =>
      cases position with
      | zero => simp
      | succ position => simp
  | through entered _ _ inductionHypothesis =>
      cases position with
      | zero => simp
      | succ position =>
          rw [List.take_succ_cons, List.forall_mem_cons] at keeps
          intro looked member
          rw [inductionHypothesis keeps.2 looked member, keeps.1 _ _ _ _ entered]

end Passage

/-! ## Traces through relays -/

/-- A trace in which passages through relays take the place of requests. -/
inductive Unfolded (relays : List Relay) : Trace → Trace → Prop where
  /-- The empty trace has no requests. -/
  | nil : Unfolded relays [] []
  /-- Any other exchange stays. -/
  | aside {exchange : Exchange} {calls whole : Trace} (aside : exchange.request? = none)
      (others : Unfolded relays calls whole) :
      Unfolded relays (exchange :: calls) (exchange :: whole)
  /-- A passage takes the place of a request. -/
  | attempt {sent : Request} {seen : List Request} {passage calls whole : Trace}
      {outcome : Outcome} (passes : Passage relays sent seen passage outcome)
      (others : Unfolded relays calls whole) :
      Unfolded relays (⟨.send sent, outcome⟩ :: calls) (passage ++ whole)

/-- The trace of a call through relays is that of the call with passages for its requests. -/
theorem Call.unfolded_through {α σ : Type} (relays : List Relay)
    (respond : (effect : Effect) → σ → effect.Answer × σ) (call : Call α) (state : σ) :
    Unfolded relays (call.exchanges (serving respond (Relay.transport relays)) state)
      ((call.through (Relay.transport relays)).exchanges respond state) := by
  induction call generalizing state with
  | done value => exact .nil
  | ask effect next inductionHypothesis =>
      cases effect with
      | send request =>
          obtain ⟨seen, passage⟩ := Passage.exists_of_yields
            (yields_exchanges respond (Relay.transport relays request) state)
          rw [through, exchanges_bind]
          exact .attempt passage (inductionHypothesis _ _)
      | _ => exact .aside rfl (inductionHypothesis _ _)

/-! ## Selection -/

/-- A path takes the first route whose start it has, and the fallback if it has none. -/
theorem PathRoutes.ofPath_eq (routes : PathRoutes) (path : String) :
    (∃ front route back, routes.routes = front ++ route :: back ∧
        (∀ earlier ∈ front, ¬ earlier.1.toList <+: path.toList) ∧
        route.1.toList <+: path.toList ∧ routes.ofPath path = route.2) ∨
      ((∀ route ∈ routes.routes, ¬ route.1.toList <+: path.toList) ∧
        routes.ofPath path = routes.fallback) := by
  rw [ofPath]
  split
  next route found =>
    obtain ⟨fits, front, back, split, earlier⟩ := List.find?_eq_some_iff_append.mp found
    refine .inl ⟨front, route, back, split, fun other member starts => ?_,
      List.isPrefixOf_iff_prefix.mp fits, rfl⟩
    have refused := earlier other member
    rw [List.isPrefixOf_iff_prefix.mpr starts] at refused
    cases refused
  next noneFits =>
    refine .inr ⟨fun route member starts => ?_, rfl⟩
    exact List.find?_eq_none.mp noneFits route member (List.isPrefixOf_iff_prefix.mpr starts)

/-! ## Tokens and requests of a call -/

/-- An admission reserves one token of the selected bucket, or none, and puts it back only if it
fails. -/
theorem Admission.Grants.dealings_eq {admission : Admission} {request : Request} {trace : Trace}
    {answer : Except Failure Unit} (grants : admission.Grants request trace answer) :
    let bucket := (admission.selector request).bucket.toList
    trace.dealings = bucket.map .reserve ∨
      (trace.dealings = bucket.map .reserve ++ bucket.map .giveBack ∧
        ∃ failure, answer = .error failure) := by
  cases grants with
  | bypassed bypass => exact .inl (by rw [bypass]; rfl)
  | atOnce selected => exact .inl (by rw [selected]; rfl)
  | waited selected _ =>
      refine .inl ?_
      simp [selected, Trace.dealings_cons, Effect.isDealing,
        (quiet_tellsWait _ _).dealings_eq_nil]
  | refused selected _ _ =>
      refine .inr ⟨?_, _, rfl⟩
      simp [selected, Trace.dealings_cons, Effect.isDealing,
        (quiet_tellsWait _ _).dealings_eq_nil]

namespace ClientConfig

variable {config : ClientConfig} {request : Request} {trace : Trace} {outcome : Outcome}

/-- A client reserves one token of the selected bucket, or none, and puts it back only if the call
is refused. -/
theorem Admits.dealings_eq {answer : Except Failure Unit}
    (admits : config.Admits request trace answer) :
    let bucket := (config.selection request).bucket.toList
    trace.dealings = bucket.map .reserve ∨
      (trace.dealings = bucket.map .reserve ++ bucket.map .giveBack ∧
        ∃ failure, answer = .error failure) := by
  cases admits with
  | unlimited noLimit => exact .inl (by rw [selection, noLimit]; rfl)
  | limited limit grants =>
      rw [selection, limit]
      exact grants.dealings_eq

/-- A call reserves one token of the selected bucket, or none, before it sends its requests, and
takes no further ones. The token is only put back if no request is sent. -/
theorem Course.dealings_eq (course : config.Course .base request trace outcome) :
    let bucket := (config.selection request).bucket.toList
    ∃ returned, trace.dealings
        = bucket.map .reserve ++ returned ++ trace.requests.map .send ∧
      (returned = [] ∨ (returned = bucket.map .giveBack ∧ trace.requests = [])) := by
  intro bucket
  cases course with
  | refused admits | unread admits _ =>
      have unsent := admits.requests_eq_nil
      rcases admits.dealings_eq with dealings | ⟨dealings, _⟩
      · exact ⟨[], by rw [dealings, unsent]; simp [bucket], .inl rfl⟩
      · exact ⟨bucket.map .giveBack, by rw [dealings, unsent]; simp [bucket], .inr ⟨rfl, unsent⟩⟩
  | attempted admits whole attempts =>
      have dealings := admits.dealings_eq.resolve_right nofun
      refine ⟨[], ?_, .inl rfl⟩
      rw [Trace.dealings_append, Trace.requests_append, admits.requests_eq_nil, dealings,
        Trace.dealings_cons, attempts.dealings_eq, Trace.requests_cons]
      simp [bucket, Effect.isDealing, Exchange.request?]

/-- A whole call takes its tokens so. -/
theorem dealings_of_yields
    (yields : ((Client.ofConfig config .base []).execute request).Yields trace outcome) :
    let bucket := (config.selection (config.credited request)).bucket.toList
    ∃ returned, trace.dealings
        = bucket.map .reserve ++ returned ++ trace.requests.map .send ∧
      (returned = [] ∨ (returned = bucket.map .giveBack ∧ trace.requests = [])) := by
  obtain ⟨before, during, behind, rfl, quietBefore, quietBehind, course⟩ := course_of_yields yields
  rw [Trace.requests_between quietBefore quietBehind, Trace.dealings_append,
    Trace.dealings_append, quietBefore.dealings_eq_nil, quietBehind.dealings_eq_nil,
    List.nil_append, List.append_nil]
  exact course.dealings_eq

/-- No tokens are taken of a bucket that is not selected, or put back. -/
theorem not_mem_dealings {other : BucketId}
    (different : (config.selection (config.credited request)).bucket ≠ some other)
    (yields : ((Client.ofConfig config .base []).execute request).Yields trace outcome) :
    .reserve other ∉ trace.dealings ∧ .giveBack other ∉ trace.dealings := by
  obtain ⟨returned, dealings, nothing | ⟨all, _⟩⟩ := dealings_of_yields yields
  · rw [dealings, nothing]
    simp [different]
  · rw [dealings, all]
    simp [different]

/-- The selector of a client picks the bucket. -/
theorem selection_of_selector {selector : Selector} (given : config.selector = some selector) :
    config.selection request = selector request := by
  simp [selection, admission, given]

/-- A client without a selector picks its own bucket, if it has one. -/
theorem bucket_selection_of_none (without : config.selector = none) :
    (config.selection request).bucket = if config.limiter.isSome then some .own else none := by
  cases limiter : config.limiter <;>
    simp [selection, admission, without, limiter, Selector.always]

end ClientConfig

/-! ## Other buckets -/

/-- An effect that is not about a bucket leaves it alone if the relays do. -/
theorem World.buckets_serving {inner : Transport} {effect : Effect} {other : BucketId}
    (keeps : ∀ request before,
      ((inner request).run answer before).2.buckets other = before.buckets other)
    (notTaken : effect ≠ .reserve other) (notReturned : effect ≠ .giveBack other)
    (world : World) :
    (Call.serving answer inner effect world).2.buckets other = world.buckets other := by
  cases effect with
  | send request => exact keeps request world
  | wait => rfl
  | reserve bucket =>
      have different : other ≠ bucket := fun same => notTaken (congrArg _ same.symm)
      exact if_neg different
  | giveBack bucket =>
      have different : other ≠ bucket := fun same => notReturned (congrArg _ same.symm)
      exact if_neg different
  | _ => rfl

/-- A bucket of which no token was taken or put back in a trace stays as it was. -/
theorem Trace.buckets_replay {inner : Transport} {other : BucketId}
    (keeps : ∀ request before,
      ((inner request).run World.answer before).2.buckets other = before.buckets other)
    {trace : Trace} (notTaken : .reserve other ∉ trace.dealings)
    (notReturned : .giveBack other ∉ trace.dealings) (world : World) :
    (trace.replay (Call.serving World.answer inner) world).buckets other = world.buckets other := by
  induction trace generalizing world with
  | nil => rfl
  | cons exchange trace inductionHypothesis =>
      rw [dealings_cons, List.mem_append, not_or] at notTaken notReturned
      rw [replay_cons, inductionHypothesis notTaken.2 notReturned.2]
      refine World.buckets_serving keeps ?_ ?_ world
      · intro same
        simp [same, Effect.isDealing] at notTaken
      · intro same
        simp [same, Effect.isDealing] at notReturned

/-! ## Whole calls -/

namespace ClientConfig

/-- The law of further layers. A call of a client with relays next to the base is an observed call
that adds the credential once, is admitted once and makes its attempts through the relays. It runs
as the call without relays does where the relays serve its requests, and its trace is the trace of
that with one passage through the relays, in order, to the base and back in place of each request.

In that trace, one token of the selected bucket is reserved, or none if no bucket is selected,
before all requests and never again; it is put back only if no request is sent. The selector picks
the bucket if there is one, and else it is the own bucket of a client that has one; of routes by
path, the first one whose start the path has is taken, and the fallback else. All requests are the
one with the credential and with its body in one piece, and a relay sees the credential if the
relays before it keep its fields. In a scripted world, a bucket that is not selected is left as it
was unless the relays change it. -/
theorem passages_of_run {σ : Type} (config : ClientConfig) (relays : List Relay)
    (request : Request) (respond : (effect : Effect) → σ → effect.Answer × σ) (state : σ) :
    let attempt := Relay.transport relays
    let plain := (Client.ofConfig config .base []).execute request
    let call := (Client.ofConfig config .base (relays.map Relay.middleware)).execute request
    let served := Call.serving respond attempt
    let calls := plain.exchanges served state
    let selection := config.selection (config.credited request)
    let bucket := selection.bucket.toList
    call = config.observe.transport
        (fun observed => config.limited attempt (config.credited observed)) request ∧
      call.run respond state = plain.run served state ∧
      Unfolded relays calls (call.exchanges respond state) ∧
      (∃ returned, calls.dealings = bucket.map .reserve ++ returned ++ calls.requests.map .send ∧
        (returned = [] ∨ (returned = bucket.map .giveBack ∧ calls.requests = []))) ∧
      (∀ selector, config.selector = some selector →
        selection = selector (config.credited request)) ∧
      (∀ routes : PathRoutes, config.selector = some routes.selector →
        (∃ front route back, routes.routes = front ++ route :: back ∧
            (∀ earlier ∈ front, ¬ earlier.1.toList <+: request.uri.path.toList) ∧
            route.1.toList <+: request.uri.path.toList ∧ selection = route.2) ∨
          ((∀ route ∈ routes.routes, ¬ route.1.toList <+: request.uri.path.toList) ∧
            selection = routes.fallback)) ∧
      (config.selector = none →
        selection.bucket = if config.limiter.isSome then some .own else none) ∧
      (∀ sent ∈ calls.requests, ∃ body, RetryPolicy.buffered request.body = .ok body ∧
        sent = { config.credited request with body }) ∧
      (∀ sent ∈ calls.requests, ∀ seen passage outcome, Passage relays sent seen passage outcome →
        seen.length = relays.length + 1 ∧
          ∀ credential, config.credential = some credential → ∀ position,
            (∀ relay ∈ relays.take position, relay.Keeps credential.name) →
            ∀ looked ∈ seen[position]?,
              looked.headers.values credential.name = [credential.value]) ∧
      ∀ (world : World) (other : BucketId), selection.bucket ≠ some other →
        (∀ sent before,
          ((attempt sent).run World.answer before).2.buckets other = before.buckets other) →
        (call.run World.answer world).2.buckets other = world.buckets other := by
  intro attempt plain call served calls selection bucket
  have through : call = plain.through attempt := by
    show (Client.ofConfig config .base (relays.map Relay.middleware)).execute request = _
    rw [Client.execute_extra, ← Client.execute_through]
    rfl
  -- All but the passages is told of the call without relays, whose requests they serve.
  have yields : plain.Yields calls (plain.run served state).1 := Call.yields_exchanges ..
  obtain ⟨before, during, behind, split, quietBefore, quietBehind, course⟩ :=
    course_of_yields yields
  have requests : calls.requests = during.requests :=
    split ▸ Trace.requests_between quietBefore quietBehind
  refine ⟨?_, ?_, ?_, dealings_of_yields yields, fun _ => selection_of_selector, ?_,
    bucket_selection_of_none, ?_, ?_, ?_⟩
  · show (Client.ofConfig config .base (relays.map Relay.middleware)).execute request = _
    rw [Client.execute_extra, Client.execute_eq]
    rfl
  · rw [through, Call.run_through]
  · rw [through]
    exact Call.unfolded_through relays respond plain state
  · intro routes given
    have taken : selection = routes.ofPath request.uri.path := by
      show config.selection _ = _
      rw [selection_of_selector given, PathRoutes.selector, uri_credited]
    rw [taken]
    exact routes.ofPath_eq _
  · rw [requests]
    intro sent member
    obtain ⟨body, whole, same⟩ := course.exists_of_mem_requests sent member
    exact ⟨body, body_credited ▸ whole, same⟩
  · rw [requests]
    intro sent member seen passage outcome passes
    obtain ⟨body, _, rfl⟩ := course.exists_of_mem_requests sent member
    refine ⟨passes.length_seen, fun credential given position keeps looked member => ?_⟩
    have values : (config.credited request).headers.values credential.name = _ :=
      values_credited credential.name
    rw [given] at values
    rw [passes.values_of_seen keeps looked member]
    exact values.trans (if_pos rfl)
  · intro world other different keeps
    rw [through, Call.run_through, Call.run_snd_eq_replay]
    obtain ⟨notTaken, notReturned⟩ := not_mem_dealings different
      (Call.yields_exchanges (Call.serving World.answer attempt) plain world)
    exact Trace.buckets_replay keeps notTaken notReturned world

/-- Relays need not pass on the credential, and may take tokens themselves: the base does not see
the credential behind a relay that sets its field, and a call for which no bucket is selected takes
a token if a relay does. -/
theorem relays_interfere :
    (¬ ∀ (config : ClientConfig) (relays : List Relay) (request : Request) (world : World)
        (credential : Credential), config.credential = some credential →
        let call := (Client.ofConfig config .base (relays.map Relay.middleware)).execute request
        ∀ sent ∈ (call.exchanges World.answer world).requests,
          sent.headers.values credential.name = [credential.value]) ∧
      ¬ ∀ (config : ClientConfig) (relays : List Relay) (request : Request) (world : World),
        (config.selection (config.credited request)).bucket = none →
        let call := (Client.ofConfig config .base (relays.map Relay.middleware)).execute request
        ∀ bucket, .reserve bucket ∉ (call.exchanges World.answer world).dealings := by
  let credential := Credential.ofField .authorization ⟨[0x74], false, by decide⟩
  let config : ClientConfig :=
    { baseUrl := none, maxRetries := 0, initialWait := .ofSeconds 1, limiter := none
      selector := none, sink := .silent, sleeper := .timer, credential := some credential
      connection := {} }
  let request : Request := { method := .get, uri := ⟨none, none, "/", none⟩ }
  let world : World := { buckets := fun _ => .full 1 1 .start }
  constructor
  · intro all
    let relay := Relay.header .authorization ⟨[0x6F], false, by decide⟩
    have kept := all config [relay] request world credential rfl
    revert kept
    decide +kernel
  · intro all
    let relay : Relay :=
      { name := "take"
        enter := fun request => .ask (.reserve (.shared 0)) fun _ => .done (request, .done) }
    refine all config [relay] request world rfl (.shared 0) (List.mem_filter.mpr ⟨?_, rfl⟩)
    -- The time and the template of the path are asked for before.
    exact List.mem_map.mpr ⟨_, .tail _ (.tail _ (.head _)), rfl⟩

end ClientConfig

end Outbound
