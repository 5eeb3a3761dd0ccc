import Outbound.Proofs.Client.Relays

/-! # Going through a chain

Most layers call what is inside them once, or answer by themselves and do not call it. A call goes
in through such layers in the order of the chain, up to the first that answers by itself or to the
base behind all of them, and goes out through the same layers in reverse, each of which sees the
outcome of the next one.

* `Gate` is a layer of that kind. All layers of a client are gates but the one that repeats
  attempts: `ClientConfig.layers_eq_gates`.
* `Visit` is what happens at one gate and `Tour` what happens on the whole way in and out;
  `Tour.exists_of_yields` says that whatever is done in a chain of gates is done on a tour.
* `Chain.tour_of_run` is the law of a run through a chain that was collected layer by layer. -/

namespace Outbound

/-! ## Gates -/

/-- Where a gate leads. -/
inductive Turn where
  /-- Further in, with a request. -/
  | pass (request : Request)
  /-- Back out, with an outcome of its own. -/
  | answer (outcome : Outcome)

/-- A layer that calls what is inside it once or not at all. -/
structure Gate where
  /-- The name of the layer. -/
  name : String
  /-- What the layer does before: where it leads, and what it does with the outcome afterwards,
  which is that of the inside or its own. -/
  enter : Request → Call (Turn × (Outcome → Call Outcome))

/-- A gate as a layer. -/
def Gate.middleware (gate : Gate) : Middleware :=
  { name := gate.name
    wrap := fun inner request => do
      let (turn, leave) ← gate.enter request
      match turn with
      | .pass passed => leave (← inner passed)
      | .answer own => leave own }

/-- A relay is a gate that never answers by itself. -/
def Relay.gate (relay : Relay) : Gate :=
  { name := relay.name
    enter := fun request => do
      let (passed, leave) ← relay.enter request
      return (.pass passed, leave) }

/-- Adding a credential is a gate: only the request is changed. -/
def Credential.gate (credential : Credential) : Gate :=
  { name := "auth"
    enter := fun request => return (.pass (credential.apply request), Call.done) }

/-- Admission is a gate: a call that is refused is answered by itself. -/
def Admission.gate (admission : Admission) : Gate :=
  { name := "rate_limit"
    enter := fun request => do
      match ← admission.admitted request with
      | .ok () => return (.pass request, Call.done)
      | .error failure => return (.answer (.error failure), Call.done) }

/-- Observing is a gate: it looks at the clock before and reports afterwards. -/
def Observe.gate (observe : Observe) : Gate :=
  { name := "observe"
    enter := fun request => do
      observe.sink.log .debug "http request started"
        [⟨"method", request.method.text⟩, ⟨"url", request.uri.render⟩, ⟨"path", request.uri.path⟩]
      let start ← Call.perform .clock
      return (.pass request, fun outcome => do
        let finish ← Call.perform .clock
        observe.report request outcome (finish.since start)
        return outcome) }

/-- A relay is the same layer as its gate. -/
theorem Relay.middleware_gate (relay : Relay) : relay.gate.middleware = relay.middleware := by
  rw [Gate.middleware, Relay.middleware]
  congr 1
  funext inner request
  exact Call.bind_assoc _ _ _

/-- Adding a credential is the same layer as its gate. -/
theorem Credential.middleware_gate (credential : Credential) :
    credential.gate.middleware = credential.middleware := by
  rw [Gate.middleware, Credential.middleware]
  congr 1
  funext inner request
  exact Call.bind_done _

/-- Admission is the same layer as its gate. -/
theorem Admission.middleware_gate (admission : Admission) :
    admission.gate.middleware = admission.middleware := by
  rw [Gate.middleware, Admission.middleware]
  congr 1
  funext inner request
  rw [Admission.transport]
  refine (Call.bind_assoc _ _ _).trans (bind_congr fun answer => ?_)
  cases answer with
  | ok _ => exact Call.bind_done _
  | error failure => rfl

/-- Observing is the same layer as its gate. -/
theorem Observe.middleware_gate (observe : Observe) :
    observe.gate.middleware = observe.middleware := by
  rw [Gate.middleware, Observe.middleware]
  congr 1
  funext inner request
  exact Call.bind_assoc _ _ _

/-- The gates of a client, from the outside in. -/
def ClientConfig.gates (config : ClientConfig) : List Gate :=
  [config.observe.gate] ++ (config.credential.map Credential.gate).toList
    ++ (config.admission.map Admission.gate).toList

/-- The layers of a client are its gates and, inside them, the repeated attempts. -/
theorem ClientConfig.layers_eq_gates (config : ClientConfig) :
    config.layers = config.gates.map Gate.middleware ++ [config.retryPolicy.middleware] := by
  cases credential : config.credential <;> cases limit : config.admission <;>
    simp [layers, gates, credential, limit, Chain.empty, Chain.add, Chain.addOptional,
      Observe.middleware_gate, Credential.middleware_gate, Admission.middleware_gate]

/-! ## Visits -/

/-- What happens at one gate on the way in and out. -/
structure Visit where
  /-- The gate. -/
  gate : Gate
  /-- The request that comes to the gate. -/
  request : Request
  /-- The exchanges on the way in. -/
  before : Trace
  /-- Where the gate leads. -/
  turn : Turn
  /-- What is to be done on the way out. -/
  leave : Outcome → Call Outcome
  /-- The outcome that the gate sees. -/
  seen : Outcome
  /-- The exchanges on the way out. -/
  after : Trace
  /-- The outcome that the gate hands out. -/
  outcome : Outcome
  /-- On the way in the gate does what it does before. -/
  entered : (gate.enter request).Yields before (turn, leave)
  /-- On the way out it does what it does afterwards. -/
  left : (leave seen).Yields after outcome

/-- A visit leads to another one: the gate passes on the request that comes to the other gate, and
sees the outcome that this one hands out. -/
def Visit.LeadsTo (outer inner : Visit) : Prop :=
  outer.turn = .pass inner.request ∧ outer.seen = inner.outcome

/-- Where the last of some visits leads; where one was led to before, if there are none. -/
def Turn.behind (before : Turn) (visits : List Visit) : Turn :=
  (visits.getLast?.map Visit.turn).getD before

/-- The outcome that the first of some visits hands out; what was found inside, if there are
none. -/
def Visit.handedOut (reached : Outcome) (visits : List Visit) : Outcome :=
  (visits.head?.map Visit.outcome).getD reached

/-- The first visit leads on to the others. -/
theorem Turn.behind_cons (before : Turn) (visit : Visit) (visits : List Visit) :
    before.behind (visit :: visits) = visit.turn.behind visits := by
  rw [behind, behind, List.getLast?_cons]
  cases visits.getLast? <;> rfl

/-- What is found where a turn leads: the outcome that it brings itself, or what the base does with
the request that is passed on to it. -/
inductive Turn.Finds (base : Transport) : Turn → Trace → Outcome → Prop where
  /-- Nothing is called. -/
  | own (outcome : Outcome) : Finds base (.answer outcome) [] outcome
  /-- The base is called. -/
  | called {passed : Request} {during : Trace} {outcome : Outcome}
      (yields : (base passed).Yields during outcome) : Finds base (.pass passed) during outcome

/-! ## Tours -/

/-- The way of a request through gates to what is behind them and back. -/
structure Tour (gates : List Gate) (base : Transport) (request : Request) (outcome : Outcome) where
  /-- The gates that are gone through, from the outside in. -/
  visits : List Visit
  /-- The exchanges of the base. -/
  during : Trace
  /-- The outcome that is found inside. -/
  reached : Outcome
  /-- The gates that are gone through are the first ones of all, in order. -/
  inOrder : visits.map Visit.gate <+: gates
  /-- Each visit leads to the next one. -/
  linked : visits.IsChain Visit.LeadsTo
  /-- The request comes to the first gate. -/
  starts : ∀ first ∈ visits.head?, first.request = request
  /-- The last gate sees what is found inside. -/
  sees : ∀ last ∈ visits.getLast?, last.seen = reached
  /-- The first gate hands out the outcome of the whole. -/
  returns : Visit.handedOut reached visits = outcome
  /-- Inside is what the last gate answers by itself, or what the base does. -/
  inside : ((Turn.pass request).behind visits).Finds base during reached
  /-- The base is only called from the last gate of all. -/
  throughAll : ∀ passed, (Turn.pass request).behind visits = .pass passed →
    visits.map Visit.gate = gates

namespace Tour

variable {gates : List Gate} {base : Transport} {request passed : Request} {outcome : Outcome}

/-- Where the last gate leads that is gone through. -/
def turn (tour : Tour gates base request outcome) : Turn := (Turn.pass request).behind tour.visits

/-- The exchanges of a tour: what the gates do on the way in, what the base does, and what the gates
do on the way out. -/
def trace (tour : Tour gates base request outcome) : Trace :=
  tour.visits.flatMap Visit.before
    ++ (tour.during ++ tour.visits.reverse.flatMap Visit.after)

/-- Without gates the base is called. -/
def atBase {during : Trace} (called : (base request).Yields during outcome) :
    Tour [] base request outcome where
  visits := []
  during := during
  reached := outcome
  inOrder := List.nil_prefix
  linked := .nil
  starts := by simp
  sees := by simp
  returns := rfl
  inside := .called called
  throughAll := fun _ _ => rfl

/-- A gate that answers by itself is the only one that is gone through. -/
def turnedBack {gate : Gate} (gates : List Gate) (base : Transport) {before after : Trace}
    {own : Outcome} {leave : Outcome → Call Outcome}
    (entered : (gate.enter request).Yields before (.answer own, leave))
    (left : (leave own).Yields after outcome) : Tour (gate :: gates) base request outcome where
  visits := [⟨gate, request, before, .answer own, leave, own, after, outcome, entered, left⟩]
  during := []
  reached := own
  inOrder := List.cons_prefix_cons.mpr ⟨rfl, List.nil_prefix⟩
  linked := .singleton _
  starts := by simp
  sees := by simp
  returns := rfl
  inside := .own own
  throughAll := fun _ => nofun

/-- A gate that passes the request on is gone through before and behind all that are inside it. -/
def around {gate : Gate} {gates : List Gate} {before after : Trace} {inner : Outcome}
    {leave : Outcome → Call Outcome}
    (entered : (gate.enter request).Yields before (.pass passed, leave))
    (tour : Tour gates base passed inner) (left : (leave inner).Yields after outcome) :
    Tour (gate :: gates) base request outcome where
  visits :=
    ⟨gate, request, before, .pass passed, leave, inner, after, outcome, entered, left⟩
      :: tour.visits
  during := tour.during
  reached := tour.reached
  inOrder := List.cons_prefix_cons.mpr ⟨rfl, tour.inOrder⟩
  linked := by
    refine List.isChain_cons.mpr ⟨fun next first => ?_, tour.linked⟩
    have returns := tour.returns
    rw [Visit.handedOut, Option.mem_def.mp first] at returns
    exact ⟨by rw [tour.starts next first], returns.symm⟩
  starts := by simp
  sees := by
    intro last final
    rw [List.getLast?_cons, Option.mem_some_iff] at final
    cases known : tour.visits.getLast? with
    | none =>
        -- There are no further gates, so what is found inside is what the base hands out.
        have returns := tour.returns
        rw [known, Option.getD_none] at final
        rw [Visit.handedOut, List.getLast?_eq_none_iff.mp known] at returns
        rw [← final]
        exact returns.symm
    | some other =>
        rw [known, Option.getD_some] at final
        exact tour.sees last (by rw [known, final]; rfl)
  returns := rfl
  inside := by
    rw [Turn.behind_cons]
    exact tour.inside
  throughAll := by
    intro last turns
    rw [Turn.behind_cons] at turns
    rw [List.map_cons, tour.throughAll last turns]

/-- What is done behind a gate stands in the middle of its tour. -/
theorem trace_around {gate : Gate} {gates : List Gate} {before after : Trace} {inner : Outcome}
    {leave : Outcome → Call Outcome}
    (entered : (gate.enter request).Yields before (.pass passed, leave))
    (tour : Tour gates base passed inner) (left : (leave inner).Yields after outcome) :
    (around entered tour left).trace = before ++ (tour.trace ++ after) := by
  simp [around, trace]

/-- Whatever is done in a chain of gates is done on a tour through them; if a gate answers by
itself, it is done around any other base as well. -/
theorem exists_of_yields {gates : List Gate} {trace : Trace}
    (yields : (chain (gates.map Gate.middleware) base request).Yields trace outcome) :
    ∃ tour : Tour gates base request outcome, trace = tour.trace ∧
      ∀ own, tour.turn = .answer own → ∀ other : Transport,
        (chain (gates.map Gate.middleware) other request).Yields trace outcome := by
  induction gates generalizing request trace outcome with
  | nil =>
      refine ⟨atBase yields, ?_, fun _ => nofun⟩
      simp [atBase, Tour.trace]
  | cons gate gates inductionHypothesis =>
      obtain ⟨before, back, ⟨turn, leave⟩, rfl, entered, goesOn⟩ := Call.yields_bind_iff.mp yields
      cases turn with
      | answer own =>
          refine ⟨turnedBack gates base entered goesOn, ?_, fun _ _ other => ?_⟩
          · simp [turnedBack, Tour.trace]
          · exact Call.yields_bind_iff.mpr ⟨before, back, _, rfl, entered, goesOn⟩
      | pass passed =>
          obtain ⟨during, after, inner, rfl, inside, left⟩ := Call.yields_bind_iff.mp goesOn
          obtain ⟨tour, rfl, anyBase⟩ := inductionHypothesis inside
          refine ⟨around entered tour left, (trace_around entered tour left).symm, ?_⟩
          intro own answers other
          have answersInside : tour.turn = .answer own := by
            rw [Tour.turn, around, Turn.behind_cons] at answers
            exact answers
          exact Call.yields_bind_iff.mpr ⟨before, _, _, rfl, entered,
            Call.yields_bind_iff.mpr
              ⟨tour.trace, after, inner, rfl, anyBase own answersInside other, left⟩⟩

end Tour

/-! ## Runs -/

/-- A call is determined by the answers that it gets: one that could have the trace of a run of
another call, with some value, runs with this trace, to this value and to the same state. -/
theorem Call.run_eq_of_yields {α σ : Type} {respond : (effect : Effect) → σ → effect.Answer × σ}
    {first second : Call α} {state : σ} {value : α}
    (yields : second.Yields (first.exchanges respond state) value) :
    second.exchanges respond state = first.exchanges respond state ∧
      second.run respond state = (value, (first.run respond state).2) := by
  induction second generalizing first state with
  | done ended =>
      obtain ⟨nothing, rfl⟩ := yields_done_iff.mp yields
      rw [run_snd_eq_replay, nothing]
      exact ⟨rfl, rfl⟩
  | ask effect next inductionHypothesis =>
      obtain ⟨answer, rest, asked, goesOn⟩ := yields_ask_iff.mp yields
      cases first with
      | done ended => cases asked
      | ask other further =>
          -- Both calls ask for the same effect, so the surroundings give both the same answer.
          obtain ⟨same, rfl⟩ := List.cons.inj asked
          cases same
          obtain ⟨exchanges, runs⟩ := inductionHypothesis _ goesOn
          exact ⟨congrArg (List.cons _) exchanges, runs⟩

/-- A call of a client goes through its gates to the repeated attempts. -/
theorem Client.execute_eq_gates (config : ClientConfig) (base : Transport)
    (extra : List Middleware) (request : Request) :
    (ofConfig config base extra).execute request =
      chain (config.gates.map Gate.middleware)
        (config.retryPolicy.transport (chain extra base)) request := by
  rw [execute, transport_ofConfig, config.layers_eq_gates, List.append_assoc, chain_append]
  rfl

namespace Chain

/-- Of layers that may be left out, those that are there are added in order. -/
theorem layers_foldl_addOptional (collected : Chain) (parts : List (Option Middleware)) :
    (parts.foldl addOptional collected).layers = collected.layers ++ parts.filterMap id := by
  induction parts generalizing collected with
  | nil => rw [List.foldl_nil, List.filterMap_nil, List.append_nil]
  | cons part parts inductionHypothesis =>
      rw [List.foldl_cons, inductionHypothesis, addOptional, List.append_assoc]
      cases part <;> rfl

/-- The law of a chain. A call through gates that were collected one after the other goes in through
them in order, up to the first that answers by itself, or through all of them to the base, and goes
out through the same gates in reverse; each gate sees the outcome of the next one. The base is
called once, or not at all if a gate answers by itself: the call is then the same around any other
base.

Whatever the layers are, a chain may be built part by part. The names of a chain are those of the
layers that were there when they were to be added, in order, and what was left out is not built. -/
theorem tour_of_run {σ : Type} (gates : List Gate) (base : Transport) (request : Request)
    (respond : (effect : Effect) → σ → effect.Answer × σ) (state : σ) :
    let collected := (gates.map Gate.middleware).foldl add empty
    let call := collected.build base request
    let outcome := (call.run respond state).1
    (collected.build base = chain (gates.map Gate.middleware) base ∧
      ∃ tour : Tour gates base request outcome,
        call.exchanges respond state
            = tour.visits.flatMap Visit.before
              ++ (tour.during ++ tour.visits.reverse.flatMap Visit.after) ∧
          ∀ own, tour.turn = .answer own → ∀ other : Transport,
            let elsewhere := collected.build other request
            elsewhere.exchanges respond state = call.exchanges respond state ∧
              elsewhere.run respond state = call.run respond state) ∧
      (∀ (outer inner : List Middleware) (behind : Transport),
        ((outer ++ inner).foldl add empty).build behind
          = (outer.foldl add empty).build ((inner.foldl add empty).build behind)) ∧
      ∀ (before : Chain) (parts : List (Option Middleware)),
        let present := parts.filterMap id
        (parts.foldl addOptional before).names = before.names ++ present.map (·.name) ∧
          ∀ behind : Transport, (parts.foldl addOptional before).build behind
            = before.build ((present.foldl add empty).build behind) := by
  intro collected call outcome
  have collects : ∀ (layers : List Middleware) (behind : Transport),
      (layers.foldl add empty).build behind = chain layers behind := by
    intro layers behind
    rw [build_eq, layers_foldl_add]
    rfl
  refine ⟨⟨collects _ base, ?_⟩, ?_, ?_⟩
  · have yields : (chain (gates.map Gate.middleware) base request).Yields
        (call.exchanges respond state) outcome := by
      rw [← collects]
      exact Call.yields_exchanges respond call state
    obtain ⟨tour, traced, anyBase⟩ := Tour.exists_of_yields yields
    refine ⟨tour, traced, fun own answers other => ?_⟩
    have yieldsElsewhere : (collected.build other request).Yields
        (call.exchanges respond state) outcome := by
      rw [collects]
      exact anyBase own answers other
    exact Call.run_eq_of_yields yieldsElsewhere
  · intro outer inner behind
    rw [collects, collects, collects, chain_append]
  · intro before parts present
    constructor
    · rw [names, layers_foldl_addOptional]
      exact List.map_append
    · intro behind
      rw [collects, build_eq, build_eq, layers_foldl_addOptional, chain_append]

end Chain

end Outbound
