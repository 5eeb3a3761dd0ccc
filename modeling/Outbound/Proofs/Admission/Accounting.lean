import Outbound.Middleware.Admission
import Outbound.Proofs.Bucket.Exact
import Outbound.Proofs.Call.Crowd
import Outbound.Proofs.Call.Trace

/-! # What becomes of the tokens of calls

Calls that are admitted side by side take tokens. A token that was taken is either used, by a
request that is forwarded, or put back into its bucket; it is lost only with a call that is dropped
by its caller while it waits for the token.

* `Party.dealings` is what a call did about tokens and requests; a token that was taken is
  `Party.Accounted` for if it was used once or put back once, and not both.
* `Admission.Standing` is the invariant: it tells for each call whether it holds a token, has used
  it, has put it back or has lost it. `Admission.Standing.step` says that every step keeps it.
* `Admission.accounted_iff` says which calls account for their tokens: all but those that were
  dropped while they waited for them. -/

namespace Outbound

/-! ## Dealings -/

/-- Whether an effect takes a token, puts one back or forwards a request. -/
def Effect.isDealing : Effect → Bool
  | .reserve _ | .giveBack _ | .send _ => true
  | _ => false

namespace Party

variable {σ : Type}

/-- The tokens that a call took and put back and the requests that it forwarded, in order. -/
def dealings (party : Party σ) : List Effect := party.begun.filter Effect.isDealing

/-- The one token that a call took was used by its request or put back, and nothing else was done
about it. -/
def Accounted (party : Party σ) (bucket : BucketId) : Prop :=
  party.dealings = [.reserve bucket, .send party.request] ∨
    party.dealings = [.reserve bucket, .giveBack bucket]

/-- Whether a call was dropped while it waited. -/
def DroppedInWait (party : Party σ) : Prop :=
  ∃ sleeper context delay, party.stage = .dropped (.wait sleeper context delay)

end Party

namespace Admission

variable {σ : Type} {admission : Admission} {request : Request} {bucket : BucketId}

/-! ## Calls that hold a token -/

/-- What is left of a call that holds a token: it uses it for its request or puts it back, and then
ends. -/
inductive Holds (request : Request) (bucket : BucketId) : Call Outcome → Prop where
  /-- The token is used. -/
  | use : Holds request bucket (.ask (.send request) .done)
  /-- The token is put back. -/
  | putBack (failure : Failure) :
      Holds request bucket (.ask (.giveBack bucket) fun _ => .done (.error failure))
  /-- Something else is done and the token is held still. -/
  | aside {effect : Effect} {next : effect.Answer → Call Outcome}
      (aside : effect.isDealing = false) (further : ∀ answer, Holds request bucket (next answer)) :
      Holds request bucket (.ask effect next)

/-- Telling a sink something leaves the token where it is. -/
theorem Holds.log_bind {sink : Sink} {level : Level} {message : String} {fields : List Field}
    {further : Unit → Call Outcome} (holds : Holds request bucket (further ())) :
    Holds request bucket (sink.log level message fields >>= further) := by
  cases sink with
  | silent => exact holds
  | recorded => exact .aside rfl fun _ => holds

/-- Measuring something leaves the token where it is. -/
theorem Holds.measure_bind {sink : Sink} {event : MetricEvent} {further : Unit → Call Outcome}
    (holds : Holds request bucket (further ())) :
    Holds request bucket (sink.measure event >>= further) := by
  cases sink with
  | silent => exact holds
  | recorded => exact .aside rfl fun _ => holds

/-- What follows on an admission: the request is forwarded, or the failure is the outcome. -/
def forward (request : Request) : Except Failure Unit → Call Outcome
  | .ok () => Transport.base request
  | .error failure => .done (.error failure)

/-- What is left of a call that took a token which exists after a while. -/
def behindTaking (admission : Admission) (request : Request) (bucket : BucketId)
    (delay : Duration) : Call Outcome :=
  (if delay = 0 then .done (.ok ())
    else admission.await request.callContext bucket (admission.selector request).label delay) >>=
      forward request

/-- A call that took a token holds it. -/
theorem holds_behindTaking (delay : Duration) :
    Holds request bucket (admission.behindTaking request bucket delay) := by
  by_cases atOnce : delay = 0
  · rw [behindTaking, if_pos atOnce]
    exact .use
  · rw [behindTaking, if_neg atOnce]
    simp only [await, Call.bind_assoc]
    refine .log_bind (.measure_bind (.aside rfl fun ending => ?_))
    cases ending with
    | ok _ => exact .use
    | error cause => exact .putBack _

/-- A call that is told to wait waits at once, if it tells nobody about it. -/
theorem behindTaking_of_ne_zero (request : Request) (bucket : BucketId)
    (silent : admission.sink = .silent) {delay : Duration} (later : delay ≠ 0) :
    ∃ further, admission.behindTaking request bucket delay
      = .ask (.wait admission.sleeper request.callContext delay) further := by
  rw [behindTaking, if_neg later, await, silent]
  exact ⟨_, rfl⟩

/-- A request that needs no token is forwarded at once. -/
theorem transport_of_bypass (bypass : (admission.selector request).bucket = none) :
    admission.transport .base request = .ask (.send request) .done := by
  simp only [transport, admitted, bypass]
  rfl

/-- Any other call begins by taking a token of its bucket. -/
theorem transport_of_selected (selected : (admission.selector request).bucket = some bucket) :
    admission.transport .base request
      = .ask (.reserve bucket) (admission.behindTaking request bucket) := by
  simp only [transport, admitted, selected]
  rfl

/-! ## Stages -/

/-- How far a call has got that holds a token. -/
inductive Holding (request : Request) (bucket : BucketId) : Stage σ → Prop where
  /-- It goes on with its token. -/
  | running {rest : Call Outcome} (holds : Holds request bucket rest) :
      Holding request bucket (.running rest)
  /-- It waits for something other than its response. -/
  | waiting {effect : Effect} {underway : Underway σ effect.Answer}
      {next : effect.Answer → Call Outcome} (notSent : ∀ other, effect ≠ .send other)
      (further : ∀ answer, Holds request bucket (next answer)) :
      Holding request bucket (.waiting effect underway next)

/-- How far a call has got that ends with an effect. -/
inductive Closing (last : Effect) : Stage σ → Prop where
  /-- The effect is under way. -/
  | waiting {underway : Underway σ last.Answer} {next : last.Answer → Call Outcome}
      (ends : ∀ answer, ∃ outcome, next answer = .done outcome) :
      Closing last (.waiting last underway next)
  /-- The call has ended. -/
  | ended (outcome : Outcome) : Closing last (.running (.done outcome))
  /-- The call was dropped meanwhile. -/
  | dropped (suspends : last.suspends = true) : Closing last (.dropped last)

/-- The token that is taken for a request, if it needs one. -/
def taken (admission : Admission) (request : Request) : List Effect :=
  (admission.selector request).bucket.toList.map .reserve

/-- How a call stands towards its token. -/
inductive Standing (admission : Admission) (party : Party σ) : Prop where
  /-- It is about to start. -/
  | outside (begun : party.begun = [])
      (stage : party.stage = .running (admission.transport .base party.request))
  /-- It holds a token. -/
  | holding (bucket : BucketId) (selected : (admission.selector party.request).bucket = some bucket)
      (dealings : party.dealings = [.reserve bucket])
      (stage : Holding party.request bucket party.stage)
  /-- It forwarded its request, with a token if it needs one. -/
  | used (dealings : party.dealings = admission.taken party.request ++ [.send party.request])
      (stage : Closing (.send party.request) party.stage)
  /-- It put its token back. -/
  | putBack (bucket : BucketId) (selected : (admission.selector party.request).bucket = some bucket)
      (dealings : party.dealings = [.reserve bucket, .giveBack bucket])
      (stage : Closing (.giveBack bucket) party.stage)
  /-- It was dropped while it waited for its token. -/
  | lost (bucket : BucketId) (selected : (admission.selector party.request).bucket = some bucket)
      (dealings : party.dealings = [.reserve bucket]) (dropped : party.DroppedInWait)

/-- A call that holds its token does so in what is left of it. -/
theorem Holding.holds {rest : Call Outcome}
    (holding : Holding (σ := σ) request bucket (.running rest)) : Holds request bucket rest := by
  cases holding with
  | running holds => exact holds

/-- A call that ends with an effect of another kind was not dropped in a wait. -/
theorem Closing.not_droppedInWait {last : Effect} {party : Party σ}
    (closing : Closing last party.stage)
    (noWait : ∀ sleeper context delay, last ≠ .wait sleeper context delay) :
    ¬ party.DroppedInWait := by
  rintro ⟨sleeper, context, delay, dropped⟩
  rw [dropped] at closing
  cases closing with
  | dropped _ => exact noWait sleeper context delay rfl

/-- A call that ends with an effect asks for nothing behind it. -/
theorem Closing.rest_eq {last : Effect} {rest : Call Outcome}
    (closing : Closing (σ := σ) last (.running rest)) : ∃ outcome, rest = .done outcome := by
  cases closing with
  | ended outcome => exact ⟨outcome, rfl⟩

/-- A call stands to its token as ever after it has begun an effect. -/
theorem Standing.begin {begun : List Effect} {effect : Effect} {next : effect.Answer → Call Outcome}
    (underway : Underway σ effect.Answer)
    (standing : Standing (σ := σ) admission ⟨request, begun, .running (.ask effect next)⟩) :
    Standing admission ⟨request, begun ++ [effect], .waiting effect underway next⟩ := by
  cases standing with
  | outside fresh stage =>
      -- The first effect forwards the request or takes the token.
      obtain rfl : begun = [] := fresh
      have program : Call.ask effect next = admission.transport .base request :=
        Stage.running.inj stage
      cases selected : (admission.selector request).bucket with
      | none =>
          rw [transport_of_bypass selected] at program
          cases program
          exact .used (by simp [Party.dealings, Effect.isDealing, taken, selected])
            (.waiting fun outcome => ⟨outcome, rfl⟩)
      | some bucket =>
          rw [transport_of_selected selected] at program
          cases program
          exact .holding bucket selected (by simp [Party.dealings, Effect.isDealing])
            (.waiting (fun _ => nofun) holds_behindTaking)
  | holding bucket selected dealings stage =>
      have tookOne : admission.taken request = [.reserve bucket] := by
        simpa [taken] using selected
      have soFar : begun.filter Effect.isDealing = [.reserve bucket] := dealings
      -- What is left of the call says which effects are possible now.
      have holds : Holds request bucket (.ask effect next) := stage.holds
      cases holds with
      | use =>
          exact .used (by simp [Party.dealings, soFar, Effect.isDealing, tookOne])
            (.waiting fun outcome => ⟨outcome, rfl⟩)
      | putBack failure =>
          exact .putBack bucket selected (by simp [Party.dealings, soFar, Effect.isDealing])
            (.waiting fun _ => ⟨.error failure, rfl⟩)
      | aside aside further =>
          refine .holding bucket selected (by simp [Party.dealings, soFar, aside])
            (.waiting ?_ further)
          rintro other rfl
          exact Bool.noConfusion aside
  | used dealings stage =>
      obtain ⟨outcome, ended⟩ := stage.rest_eq
      cases ended
  | putBack bucket selected dealings stage =>
      obtain ⟨outcome, ended⟩ := stage.rest_eq
      cases ended
  | lost bucket selected dealings dropped =>
      obtain ⟨_, _, _, stage⟩ := dropped
      cases stage

/-- A call stands to its token as ever after the effect that it waits for has ended. -/
theorem Standing.finish {begun : List Effect} {effect : Effect}
    {underway : Underway σ effect.Answer} {next : effect.Answer → Call Outcome}
    (standing : Standing admission ⟨request, begun, .waiting effect underway next⟩)
    (answer : effect.Answer) :
    Standing (σ := σ) admission ⟨request, begun, .running (next answer)⟩ := by
  cases standing with
  | outside _ stage => cases stage
  | holding bucket selected dealings stage =>
      cases stage with
      | waiting notSent further =>
          exact .holding bucket selected dealings (.running (further answer))
  | used dealings stage =>
      simp only at dealings stage
      cases stage with
      | waiting ends =>
          obtain ⟨outcome, ended⟩ := ends answer
          exact .used dealings (ended ▸ .ended outcome)
  | putBack bucket selected dealings stage =>
      cases stage with
      | waiting ends =>
          obtain ⟨outcome, ended⟩ := ends answer
          exact .putBack bucket selected dealings (ended ▸ .ended outcome)
  | lost bucket selected dealings dropped =>
      obtain ⟨_, _, _, stage⟩ := dropped
      cases stage

/-- A call that is dropped loses its token if it holds one. -/
theorem Standing.drop {begun : List Effect} {effect : Effect}
    {underway : Underway σ effect.Answer} {next : effect.Answer → Call Outcome}
    (standing : Standing admission ⟨request, begun, .waiting effect underway next⟩)
    (suspends : effect.suspends = true) :
    Standing (σ := σ) admission ⟨request, begun, .dropped effect⟩ := by
  cases standing with
  | outside _ stage => cases stage
  | holding bucket selected dealings stage =>
      cases stage with
      | waiting notSent further =>
          -- A call gives way while it waits or sends, and a call that sends holds no token.
          cases effect with
          | wait sleeper context delay =>
              exact .lost bucket selected dealings ⟨sleeper, context, delay, rfl⟩
          | send other => exact absurd rfl (notSent other)
          | _ => cases suspends
  | used dealings stage =>
      simp only at dealings stage
      cases stage with
      | waiting ends => exact .used dealings (.dropped suspends)
  | putBack bucket selected dealings stage =>
      cases stage with
      | waiting ends => cases suspends
  | lost bucket selected dealings dropped =>
      obtain ⟨_, _, _, stage⟩ := dropped
      cases stage

/-- Every step of a call keeps its standing. -/
theorem Standing.step {surroundings : Surroundings σ} {state later : σ} {party after : Party σ}
    (standing : Standing admission party)
    (step : Party.Step surroundings state party later after) : Standing admission after := by
  cases step with
  | begin request begun effect next => exact standing.begin _
  | finish request begun effect underway next canEnd => exact standing.finish _
  | drop request begun effect underway next suspends => exact standing.drop suspends

/-- Every call of a crowd stands to its token as described. -/
theorem standing_of_reachable {surroundings : Surroundings σ} {initial : σ} {crowd : Crowd σ}
    (reachable : Crowd.Reachable surroundings (admission.transport .base) initial crowd)
    {party : Party σ} (member : party ∈ crowd.parties) : Standing admission party :=
  reachable.forall_parties (fun _ => .outside rfl rfl) (fun standing => standing.step) party member

/-! ## The law of accounts -/

/-- A token that a call took is among its dealings. -/
theorem mem_dealings_of_taken {party : Party σ} (took : .reserve bucket ∈ party.begun) :
    .reserve bucket ∈ party.dealings := List.mem_filter.mpr ⟨took, rfl⟩

/-- The law of accounts. However calls are interleaved, and whatever answers they get, a call that
took a token and is over has used it for the one request that it forwarded or has put it back once
into its bucket, except if it was dropped while it waited for the token: then it did neither. -/
theorem accounted_iff {surroundings : Surroundings σ} {initial : σ} {crowd : Crowd σ}
    (reachable : Crowd.Reachable surroundings (admission.transport .base) initial crowd)
    {party : Party σ} (member : party ∈ crowd.parties) (isOver : party.IsOver)
    (took : .reserve bucket ∈ party.begun) :
    party.Accounted bucket ↔ ¬ party.DroppedInWait := by
  have dealt := mem_dealings_of_taken took
  cases standing_of_reachable reachable member with
  | outside begun stage => simp [begun] at took
  | holding other selected dealings stage =>
      -- A call that still holds its token is not over.
      obtain ⟨outcome, ended⟩ | ⟨effect, dropped⟩ := isOver
      · rw [ended] at stage
        cases stage.holds
      · rw [dropped] at stage
        cases stage
  | used dealings stage =>
      have tookOne : admission.taken party.request = [.reserve bucket] := by
        rw [dealings] at dealt
        simpa [taken] using dealt
      have accounted : party.Accounted bucket := by
        left
        rw [dealings, tookOne]
        rfl
      exact iff_of_true accounted (stage.not_droppedInWait nofun)
  | putBack other selected dealings stage =>
      obtain rfl : bucket = other := by
        rw [dealings] at dealt
        simpa using dealt
      exact iff_of_true (.inr dealings) (stage.not_droppedInWait nofun)
  | lost other selected dealings dropped =>
      refine iff_of_false ?_ (not_not_intro dropped)
      rintro (used | putBack)
      · rw [dealings] at used
        cases used
      · rw [dealings] at putBack
        cases putBack

/-- In every crowd in which a further call would be told to wait, its token can be lost. -/
theorem exists_not_accounted {surroundings : Surroundings σ} {initial : σ} {crowd : Crowd σ}
    (request : Request)
    (reachable : Crowd.Reachable surroundings (admission.transport .base) initial crowd)
    (silent : admission.sink = .silent)
    (selected : (admission.selector request).bucket = some bucket)
    (atOnce : (surroundings.begin (.reserve bucket) crowd.state).1.CanEnd
      (surroundings.begin (.reserve bucket) crowd.state).2)
    (later : ((surroundings.begin (.reserve bucket) crowd.state).1.finish
      (surroundings.begin (.reserve bucket) crowd.state).2).1 ≠ (0 : Duration)) :
    ∃ further, Crowd.Reachable surroundings (admission.transport .base) initial further ∧
      ∃ party ∈ further.parties,
        party.IsOver ∧ .reserve bucket ∈ party.begun ∧ ¬ party.Accounted bucket := by
  -- The call starts, takes its token, is told to wait, waits, and is dropped.
  obtain ⟨state, parties⟩ := crowd
  obtain ⟨behind, waits⟩ := behindTaking_of_ne_zero request bucket silent later
  have started := reachable.step (.start state parties request)
  rw [Party.start, transport_of_selected selected] at started
  have taking := started.step (.turn parties [] (.begin state request [] _ _))
  have told := taking.step (.turn parties [] (.finish _ request _ _ _ _ atOnce))
  rw [waits] at told
  have waiting := told.step (.turn parties [] (.begin _ request _ _ _))
  have dropped := waiting.step (.turn parties [] (.drop _ request _ _ _ _ rfl))
  refine ⟨_, dropped, _, List.mem_append_right _ List.mem_cons_self, .inr ⟨_, rfl⟩, by simp, ?_⟩
  rintro (used | putBack)
  · cases used
  · cases putBack

/-- A bucket in exact arithmetic as surroundings, in which sleeps are never interrupted and requests
are never answered. -/
def exactSurroundings : Surroundings (BucketRun ℚ) where
  begin
    | .reserve _, run =>
        let (seconds, bucket) := run.bucket.reserve run.now
        (⟨fun _ => True, fun later => (⟨(seconds * 1000000000).ceil.toNat⟩, later)⟩,
          { run with bucket })
    | .giveBack _, run =>
        (⟨fun _ => True, fun later => ((), later)⟩,
          { run with bucket := run.bucket.giveBack run.now })
    | .wait _ _ delay, run =>
        (⟨fun later => run.now.after delay ≤ later.now, fun later => (.ok (), later)⟩, run)
    | effect, run =>
        let unanswered : Outcome := .error (.cancelled "transport" .cancelled)
        (⟨fun _ => effect.isDealing = false,
          fun later => ((Call.steady unanswered (.ok ()) effect ()).1, later)⟩, run)
  Passes run later := ∃ duration, later = { run with now := run.now.after duration }

/-- A call loses its token if it is told to wait for a second, because the only token of the bucket
was just taken, and is dropped meanwhile. -/
theorem dropped_wait_not_accounted :
    ∃ crowd, Crowd.Reachable exactSurroundings
        (Admission.transport ⟨Selector.always .own, .timer, .silent⟩ .base)
        ((BucketRun.fresh 1 1).step .reserve).2 crowd ∧
      ∃ party ∈ crowd.parties,
        party.IsOver ∧ .reserve .own ∈ party.begun ∧ ¬ party.Accounted .own :=
  exists_not_accounted { method := .get, uri := ⟨none, none, "/", none⟩ } .initial rfl rfl trivial
    (by decide +kernel)

end Admission

end Outbound
