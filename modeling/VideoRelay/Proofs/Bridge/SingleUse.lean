import VideoRelay.Proofs.Bridge.Outcome
import VideoRelay.Proofs.Bridge.Shared

set_option autoImplicit false

namespace VideoRelay

namespace BridgePhase

inductive Advances : BridgePhase -> BridgePhase -> Prop
  | begin : Advances idle streaming
  | complete : Advances streaming completed
  | fail : Advances streaming failed
  | cancel : Advances streaming cancelled

def isFinal : BridgePhase -> Bool
  | idle | streaming => false
  | completed | failed | cancelled => true

theorem Advances.unfinal {before after : BridgePhase} (advances : before.Advances after) : before.isFinal = false := by
  cases advances <;> rfl

end BridgePhase

namespace Bridge

variable {spec : ImageSpec} {bridge next : Bridge} {action : Action} {actions : List Action}

theorem finalPhase_advances (result : Except Fault Bytes) (byCaller : Bool) :
    BridgePhase.Advances .streaming (finalPhase result byCaller) := by
  cases result with
  | ok _ => cases byCaller with
    | false => exact .complete
    | true => exact .cancel
  | error fault => exact .fail

theorem finalPhase_ne_idle (result : Except Fault Bytes) (byCaller : Bool) : finalPhase result byCaller ≠ .idle := by
  cases result <;> cases byCaller <;> simp [finalPhase]

theorem generate_used (bridge : Bridge) (videoIds : List String) : (bridge.generate videoIds).2.state ≠ .idle := by
  by_cases idle : bridge.state = .idle
  next => cases videoIds <;> simp [generate, idle]
  next => simp [generate, idle]

theorem idle_of_idle (run : Run { spec } actions bridge) (idle : bridge.state = .idle)
    (foreign : forall videoIds, action ≠ .generate videoIds) (step : bridge.Step action next) :
    next.state = .idle := by
  have unused := (gathers_of_run run).fresh idle
  cases step with
  | needless | begin => exact absurd rfl (foreign _)
  | settle _ _ _ joining => cases unused.symm.trans joining
  | unreachable _ dialing => cases unused.symm.trans dialing
  | _ => exact idle

theorem finalPhase_of_run {result : Except Fault Bytes} (run : Run { spec } actions bridge)
    (returned : bridge.foreground = .returned result) : exists byCaller, bridge.state = finalPhase result byCaller := by
  refine run.keeps (fun _ bridge => forall result, bridge.foreground = .returned result ->
    exists byCaller, bridge.state = finalPhase result byCaller) (fun _ returned => (by cases returned)) ?_ _ returned
  intro actions bridge action next run before possible result returned
  cases step_of_act possible with
  | settle own byCaller pumped => cases returned; exact ⟨byCaller, rfl⟩
  | unreachable fault => cases returned; exact ⟨false, rfl⟩
  | needless => cases returned; exact ⟨false, rfl⟩
  | begin | start | accepted | abandon | refused | collect | broken | complete => cases returned
  | _ => exact before result returned

inductive Unneeded (bridge : Bridge) : Prop
  | unused (idle : bridge.state = .idle) (foreground : bridge.foreground = .unused) (pump : bridge.pump = .unstarted)
  | needless (completed : bridge.state = .completed) (foreground : bridge.foreground = .returned (.ok []))
      (pump : bridge.pump = .unstarted)

theorem Unneeded.act (before : bridge.Unneeded) (step : bridge.Step action next)
    (needless : forall videoIds, action = .generate videoIds -> videoIds = []) :
    next.Unneeded /\ forall dialed, action ≠ .dialedEncoder dialed /\ action ≠ .dialedStorage dialed := by
  obtain ⟨silent, unstarted⟩ : (bridge.foreground = .unused \/ bridge.foreground = .returned (.ok [])) /\
      bridge.pump = .unstarted := by
    cases before with
    | unused _ foreground pump => exact ⟨.inl foreground, pump⟩
    | needless _ foreground pump => exact ⟨.inr foreground, pump⟩
  have kept (foreground : next.foreground = bridge.foreground) (state : next.state = bridge.state)
      (pump : next.pump = bridge.pump) : next.Unneeded := by
    cases before with
    | unused idle unused still => exact .unused (state.trans idle) (foreground.trans unused) (pump.trans still)
    | needless completed returned still =>
      exact .needless (state.trans completed) (foreground.trans returned) (pump.trans still)
  cases step with
  | needless => exact ⟨.needless rfl rfl unstarted, by simp⟩
  | begin videoId others => cases needless _ rfl
  | again | cancel | deliver | endStream => exact ⟨kept rfl rfl rfl, by simp⟩
  | onCall _ _ begun => simp [callOpened, unstarted] at begun
  | stop running => simp [unstarted, Pump.isRunning] at running
  | put _ offered | queue _ offered | unread _ offered => simp [unstarted, Pump.request?] at offered
  | translate _ _ _ _ reading | offend _ _ _ reading | drain reading => cases unstarted.symm.trans reading
  | dialed dialing | undialed _ dialing => cases unstarted.symm.trans dialing
  | opened opening | unopened _ opening => cases unstarted.symm.trans opening
  | abandon working => rcases silent with same | same <;> simp [same, Foreground.isWorking] at working
  | accepted calling | refused _ calling => rcases silent with same | same <;> cases same.symm.trans calling
  | collect _ _ _ collecting | broken _ _ _ collecting | complete _ collecting =>
    rcases silent with same | same <;> cases same.symm.trans collecting
  | settle _ _ _ joining => rcases silent with same | same <;> cases same.symm.trans joining
  | start dialing | unreachable _ dialing => rcases silent with same | same <;> cases same.symm.trans dialing

theorem unneeded_of_run (run : Run { spec } actions bridge)
    (needless : forall videoIds, .generate videoIds ∈ actions -> videoIds = []) :
    bridge.Unneeded /\ forall dialed, .dialedEncoder dialed ∉ actions /\ .dialedStorage dialed ∉ actions := by
  refine run.keeps (fun done bridge => (forall videoIds, .generate videoIds ∈ done -> videoIds = []) ->
    bridge.Unneeded /\ forall dialed, .dialedEncoder dialed ∉ done /\ .dialedStorage dialed ∉ done)
    (fun _ => ⟨.unused rfl rfl rfl, by simp⟩) ?_ needless
  intro done bridge action next run before possible needless
  obtain ⟨unneeded, undialed⟩ := before fun videoIds among => needless videoIds (List.mem_append_left _ among)
  obtain ⟨still, other⟩ := unneeded.act (step_of_act possible) fun videoIds same =>
    needless videoIds (List.mem_append_right _ (same ▸ List.mem_singleton.2 rfl))
  refine ⟨still, fun dialed => ?_⟩
  simp only [List.mem_append, List.mem_singleton, not_or, undialed dialed, not_false_eq_true, true_and]
  exact ⟨fun same => (other dialed).1 same.symm, fun same => (other dialed).2 same.symm⟩

theorem foreground_of_result {result : Except Fault Bytes} (returned : bridge.result? = some result) :
    bridge.foreground = .returned result := by
  unfold result? at returned
  split at returned
  next same => cases returned; exact same
  next => cases returned

end Bridge

namespace SharedBridge

variable {shared last next : SharedBridge} {action : Action} {actions : List Action} {index : Nat}
  {videoIds : List String} {result : Except Fault Bytes}

def Action.entrant? : Action -> Option Nat
  | enter index => some index
  | call _ | leave _ | move _ => none

def entrant? (actions : List Action) : Option Nat :=
  (actions.filterMap Action.entrant?).head?

theorem entrant?_snoc (actions : List Action) (action : Action) :
    entrant? (actions ++ [action]) = (entrant? actions).or action.entrant? := by
  simp only [entrant?, List.filterMap_append, List.head?_append]
  cases action <;> rfl

inductive Standing (shared : SharedBridge) : Option Nat -> Prop
  | unused (idle : shared.state = .idle) (fresh : shared.bridge.state = .idle) : Standing shared none
  | running (owner : Nat) (streaming : shared.state = .streaming) (begun : shared.bridge.state ≠ .idle)
      (proceeding : shared.calls[owner]? = some .proceeding) : Standing shared (some owner)
  | ended (owner : Nat) (result : Except Fault Bytes) (byCaller : Bool)
      (settled : shared.bridge.state = Bridge.finalPhase result byCaller) (final : shared.state = shared.bridge.state)
      (reached : shared.bridge.result? = some result) (returned : shared.calls[owner]? = some (.returned result)) :
      Standing shared (some owner)

theorem Standing.idle_iff {owner : Option Nat} (standing : shared.Standing owner) :
    shared.state = .idle <-> owner = none := by
  cases standing with
  | unused idle => exact iff_of_true idle rfl
  | running _ streaming => exact iff_of_false (by simp [streaming]) (by simp)
  | ended owner result byCaller settled final =>
    refine iff_of_false ?_ (by simp)
    rw [final, settled]
    exact Bridge.finalPhase_ne_idle result byCaller

theorem Standing.begun {owner : Option Nat} (standing : shared.Standing owner) (used : shared.state ≠ .idle) :
    shared.bridge.state ≠ .idle := by
  cases standing with
  | unused idle => exact absurd idle used
  | running _ _ begun => exact begun
  | ended _ _ _ _ final => rw [<- final]; exact used

structure Exclusive (owner : Option Nat) (shared : SharedBridge) : Prop where
  standing : shared.Standing owner
  others : forall index call, shared.calls[index]? = some call -> owner ≠ some index -> call.Apart

theorem snoc_eq_some_iff {calls : List BridgeCall} {call more : BridgeCall} :
    (calls ++ [more])[index]? = some call <->
      calls[index]? = some call \/ index = calls.length /\ call = more := by
  rw [List.getElem?_append]
  split
  next within => simp [Nat.ne_of_lt within]
  next beyond =>
    have outside : calls[index]? = none := List.getElem?_eq_none (Nat.not_lt.1 beyond)
    rw [List.getElem?_singleton, outside]
    split <;> grind

theorem set_eq_some_iff {calls : List BridgeCall} {call other replaced : BridgeCall} {at_ : Nat}
    (there : calls[at_]? = some replaced) :
    (calls.set at_ other)[index]? = some call <->
      index = at_ /\ call = other \/ index ≠ at_ /\ calls[index]? = some call := by
  have within := (List.getElem?_eq_some_iff.1 there).1
  rw [List.getElem?_set]
  split <;> grind

namespace Exclusive

variable {spec : ImageSpec} {moves : List Bridge.Action} {owner : Option Nat}

theorem call (before : Exclusive owner shared) (videoIds : List String) :
    Exclusive owner { shared with calls := shared.calls ++ [.entering videoIds] } := by
  obtain ⟨standing, others⟩ := before
  refine ⟨?_, fun index call known apart => ?_⟩
  next =>
    cases standing with
    | unused idle fresh => exact .unused idle fresh
    | running owner streaming begun proceeding =>
      exact .running owner streaming begun (snoc_eq_some_iff.2 (.inl proceeding))
    | ended owner result byCaller settled final reached returned =>
      exact .ended owner result byCaller settled final reached (snoc_eq_some_iff.2 (.inl returned))
  next =>
    rcases snoc_eq_some_iff.1 known with earlier | ⟨-, rfl⟩
    next => exact others index call earlier apart
    next => exact .entering videoIds

theorem accept (before : Exclusive owner shared) (entering : shared.calls[index]? = some (.entering videoIds))
    (unused : shared.state = .idle) : Exclusive (some index) (shared.accept index videoIds) := by
  refine ⟨.running index rfl (shared.bridge.generate_used videoIds) ((set_eq_some_iff entering).2 (.inl ⟨rfl, rfl⟩)),
    fun other call known apart => ?_⟩
  rcases (set_eq_some_iff entering).1 known with ⟨rfl, -⟩ | ⟨-, same⟩
  next => exact absurd rfl apart
  next => exact before.others other call same (by simp [before.standing.idle_iff.1 unused])

theorem refuse (before : Exclusive owner shared) (entering : shared.calls[index]? = some (.entering videoIds))
    (used : shared.state ≠ .idle) : Exclusive owner (shared.refuse index) := by
  obtain ⟨standing, others⟩ := before
  have kept (owner : Nat) (call : BridgeCall) (owned : shared.calls[owner]? = some call)
      (further : call ≠ .entering videoIds) : (shared.refuse index).calls[owner]? = some call := by
    refine (set_eq_some_iff entering).2 (.inr ⟨?_, owned⟩)
    rintro rfl
    exact further (Option.some.inj (owned.symm.trans entering))
  refine ⟨?_, fun other call known apart => ?_⟩
  next =>
    cases standing with
    | unused idle => exact absurd idle used
    | running owner streaming begun proceeding =>
      exact .running owner streaming begun (kept owner _ proceeding (by simp))
    | ended owner result byCaller settled final reached returned =>
      exact .ended owner result byCaller settled final reached (kept owner _ returned (by simp))
  next =>
    rcases (set_eq_some_iff entering).1 known with ⟨-, rfl⟩ | ⟨-, same⟩
    next => exact .refused shared.state used
    next => exact others other call same apart

theorem leave (before : Exclusive owner shared) (run : Bridge.Run { spec } moves shared.bridge)
    (proceeding : shared.calls[index]? = some .proceeding) (reached : shared.bridge.result? = some result) :
    owner = some index /\ shared.state = .streaming /\ Exclusive owner (shared.conclude index result) := by
  obtain ⟨standing, others⟩ := before
  -- A call that proceeds is no other than the one that runs the bridge.
  have owned : owner = some index := by
    by_cases owned : owner = some index
    next => exact owned
    next => cases others index _ proceeding owned
  subst owned
  cases standing with
  | ended _ _ _ _ _ _ returned => cases proceeding.symm.trans returned
  | running _ streaming =>
    obtain ⟨byCaller, settled⟩ := Bridge.finalPhase_of_run run (Bridge.foreground_of_result reached)
    refine ⟨rfl, streaming, .ended index result byCaller settled rfl reached
      ((set_eq_some_iff proceeding).2 (.inl ⟨rfl, rfl⟩)), fun other call known apart => ?_⟩
    rcases (set_eq_some_iff proceeding).1 known with ⟨rfl, -⟩ | ⟨-, same⟩
    next => exact absurd rfl apart
    next => exact others other call same apart

theorem move {action : Bridge.Action} {bridge : Bridge} (before : Exclusive owner shared)
    (run : Bridge.Run { spec } moves shared.bridge) (foreign : forall videoIds, action ≠ .generate videoIds)
    (moved : shared.bridge.act action = some bridge) : Exclusive owner { shared with bridge } := by
  obtain ⟨standing, others⟩ := before
  have step := Bridge.step_of_act moved
  refine ⟨?_, others⟩
  cases standing with
  | unused idle fresh => exact .unused idle (Bridge.idle_of_idle run fresh foreign step)
  | running owner streaming begun proceeding => exact .running owner streaming (step.used begun) proceeding
  | ended owner result byCaller settled final reached returned =>
    have used : shared.bridge.state ≠ .idle := by rw [settled]; exact Bridge.finalPhase_ne_idle result byCaller
    obtain ⟨foreground, state⟩ := step.returned (Bridge.foreground_of_result reached) used
    exact .ended owner result byCaller (state.trans settled) (final.trans state.symm)
      (by simp [Bridge.result?, foreground]) returned

theorem act (before : Exclusive owner shared) (run : Bridge.Run { spec } moves shared.bridge)
    (step : shared.Step action next) : Exclusive (owner.or action.entrant?) next := by
  cases step with
  | call videoIds => rw [Action.entrant?, Option.or_none]; exact before.call videoIds
  | accept index videoIds entering unused =>
    rw [before.standing.idle_iff.1 unused]
    exact before.accept entering unused
  | refuse index videoIds entering used =>
    obtain ⟨first, rfl⟩ := Option.ne_none_iff_exists'.1 fun none => used (before.standing.idle_iff.2 none)
    exact before.refuse entering used
  | leave index result proceeding returned =>
    rw [Action.entrant?, Option.or_none]
    exact (before.leave run proceeding returned).2.2
  | move action bridge foreign moved => rw [Action.entrant?, Option.or_none]; exact before.move run foreign moved

end Exclusive

variable {spec : ImageSpec}

theorem exclusive_of_follow (reached : follow act { bridge := { spec } } actions = some shared) :
    Exclusive (entrant? actions) shared := by
  refine follow_keeps (fun done shared => Exclusive (entrant? done) shared)
    ⟨.unused rfl rfl, fun index call known => (by cases known)⟩ ?_ reached
  intro done middle action next reached before possible
  rw [entrant?_snoc]
  exact before.act (run_alone reached) (step_of_act possible)

theorem entrant?_eq_none_iff : entrant? actions = none <-> forall index, .enter index ∉ actions := by
  simp only [entrant?, List.head?_eq_none_iff, List.filterMap_eq_nil_iff]
  constructor
  next =>
    intro nobody index among
    cases nobody _ among
  next =>
    intro nobody action among
    cases action with
    | enter index => exact absurd among (nobody index)
    | call | leave | move => rfl

def Admitted (spec : ImageSpec) (actions : List Action) (owner : Nat) (videoIds : List String) : Prop :=
  exists early late middle, actions = early ++ .enter owner :: late /\ entrant? early = none /\
    follow act { bridge := { spec } } early = some middle /\ middle.calls[owner]? = some (.entering videoIds)

theorem admitted_of_entrant {owner : Nat} (reached : follow act { bridge := { spec } } actions = some shared)
    (entered : entrant? actions = some owner) : exists videoIds, Admitted spec actions owner videoIds := by
  obtain ⟨rest, found⟩ : exists rest, actions.filterMap Action.entrant? = owner :: rest :=
    ⟨_, (List.head?_eq_some_iff.1 entered).choose_spec⟩
  obtain ⟨early, action, late, rfl, before, enters, -⟩ := List.filterMap_eq_cons_iff.1 found
  obtain rfl : action = .enter owner := by
    cases action with
    | enter index => cases enters; rfl
    | call | leave | move => cases enters
  rw [follow_append] at reached
  obtain ⟨middle, there, after⟩ := Option.bind_eq_some_iff.1 reached
  obtain ⟨next, possible, -⟩ := Option.bind_eq_some_iff.1 after
  have nobody : entrant? early = none := by
    rw [entrant?, List.head?_eq_none_iff, List.filterMap_eq_nil_iff]
    exact before
  cases step_of_act possible with
  | accept _ videoIds entering | refuse _ videoIds entering =>
    exact ⟨videoIds, early, late, middle, rfl, nobody, there, entering⟩

theorem Step.admits (step : shared.Step action next) (among : .generate videoIds ∈ shared.alone action) :
    exists index, action = .enter index /\ shared.state = .idle := by
  cases step with
  | call | leave => cases among
  | accept index _ _ unused => exact ⟨index, rfl, unused⟩
  | refuse index _ _ used => rw [alone_of_refused used] at among; cases among
  | move action _ foreign => exact absurd (List.mem_singleton.1 among).symm (foreign videoIds)

theorem idle_iff_of_follow (reached : follow act { bridge := { spec } } actions = some shared) :
    shared.state = .idle <-> forall index, .enter index ∉ actions :=
  (exclusive_of_follow reached).standing.idle_iff.trans entrant?_eq_none_iff

theorem unadmitted_of_follow {later : List Action} (reached : follow act { bridge := { spec } } actions = some shared)
    (further : follow act shared later = some last)
    (settled : shared.state ≠ .idle \/ forall index, .enter index ∉ later) :
    .generate videoIds ∉ chronicle act alone shared later := by
  intro among
  obtain ⟨early, action, late, middle, rfl, before, noted⟩ := (mem_chronicle_iff alone further).1 among
  rw [follow_append, before, Option.bind_some] at further
  obtain ⟨next, possible, -⟩ := Option.bind_eq_some_iff.1 further
  obtain ⟨index, rfl, idle⟩ := (step_of_act possible).admits noted
  rcases settled with used | nobody
  next =>
    have whole : follow act { bridge := { spec } } (actions ++ early) = some middle := by
      rw [follow_append, reached, Option.bind_some, before]
    refine used ((idle_iff_of_follow reached).2 fun other among => ?_)
    exact (idle_iff_of_follow whole).1 idle other (List.mem_append_left _ among)
  next => exact nobody index (by simp)

theorem moves_of_admitted {owner : Nat} (reached : follow act { bridge := { spec } } actions = some shared)
    (admitted : Admitted spec actions owner videoIds) :
    exists before after, moves spec actions = before ++ .generate videoIds :: after /\
      forall others, .generate others ∉ before ++ after := by
  obtain ⟨early, late, middle, rfl, nobody, there, entering⟩ := admitted
  have unentered := entrant?_eq_none_iff.1 nobody
  have unused := (idle_iff_of_follow there).2 unentered
  have possible := act_accept entering unused
  have entered := follow_snoc there possible
  rw [follow_append, there, Option.bind_some] at reached
  obtain ⟨next, same, rest⟩ := Option.bind_eq_some_iff.1 reached
  cases possible.symm.trans same
  refine ⟨moves spec early, chronicle act alone (middle.accept owner videoIds) late, ?_, fun others among => ?_⟩
  next =>
    rw [moves, chronicle_append alone there]
    simp only [chronicle, possible, alone, unused, entering]
    rfl
  next =>
    rcases List.mem_append.1 among with before | after
    next =>
      have fresh : follow act { bridge := { spec } } [] = some { bridge := { spec } } := rfl
      exact unadmitted_of_follow fresh there (.inr unentered) before
    next => exact unadmitted_of_follow entered rest (.inl (by simp [accept])) after

theorem Step.advances {owner : Option Nat} {done : List Bridge.Action} (step : shared.Step action next)
    (exclusive : Exclusive owner shared) (run : Bridge.Run { spec } done shared.bridge) :
    next.state = shared.state \/ shared.state.Advances next.state := by
  cases step with
  | call | refuse | move => exact .inl rfl
  | accept index videoIds entering unused => exact .inr (unused ▸ .begin)
  | leave index result proceeding reached =>
    obtain ⟨-, streaming, -⟩ := exclusive.leave run proceeding reached
    obtain ⟨byCaller, settled⟩ := Bridge.finalPhase_of_run run (Bridge.foreground_of_result reached)
    refine .inr ?_
    rw [streaming, show (shared.conclude index result).state = shared.bridge.state from rfl, settled]
    exact Bridge.finalPhase_advances result byCaller

theorem final_lasts {later : List Action} (reached : follow act { bridge := { spec } } actions = some shared)
    (final : shared.state.isFinal = true) (further : follow act shared later = some last) :
    last.state = shared.state := by
  refine follow_keeps (fun _ last => last.state = shared.state) rfl ?_ further
  intro done middle action next between same possible
  have whole : follow act { bridge := { spec } } (actions ++ done) = some middle := by
    rw [follow_append, reached, Option.bind_some, between]
  rcases (step_of_act possible).advances (exclusive_of_follow whole) (run_alone whole) with kept | advances
  next => exact kept.trans same
  next =>
    have unfinal := advances.unfinal
    rw [same, final] at unfinal
    cases unfinal

theorem mem_moves {move : Bridge.Action} (reached : follow act { bridge := { spec } } actions = some shared)
    (among : .move move ∈ actions) : move ∈ moves spec actions := by
  obtain ⟨early, late, rfl⟩ := List.append_of_mem among
  have whole := reached
  rw [follow_append] at reached
  obtain ⟨middle, there, -⟩ := Option.bind_eq_some_iff.1 reached
  exact (mem_chronicle_iff alone whole).2 ⟨early, _, late, middle, rfl, there, List.mem_singleton.2 rfl⟩

/-- A shared bridge after these actions, of which one call at most has run it. -/
structure UsedOnce (spec : ImageSpec) (actions : List Action) (shared : SharedBridge) : Prop where
  admits : entrant? actions = none -> shared.state = .idle /\
    forall index videoIds, shared.calls[index]? = some (.entering videoIds) ->
      shared.act (.enter index) = some (shared.accept index videoIds)
  refuses : forall owner, entrant? actions = some owner -> shared.state ≠ .idle /\
    forall index videoIds, shared.calls[index]? = some (.entering videoIds) ->
      shared.act (.enter index) = some (shared.refuse index)
  others : forall index call, shared.calls[index]? = some call -> entrant? actions ≠ some index -> call.Apart
  owner : forall owner, entrant? actions = some owner -> shared.Standing (some owner) /\
    exists videoIds, Admitted spec actions owner videoIds
  alone : forall owner videoIds, Admitted spec actions owner videoIds -> exists before after,
    Bridge.Run { spec } (before ++ .generate videoIds :: after) shared.bridge /\
      forall others, .generate others ∉ before ++ after
  advances : forall action next, shared.act action = some next ->
    next.state = shared.state \/ shared.state.Advances next.state
  lasts : forall later last, shared.state.isFinal = true -> follow act shared later = some last ->
    last.state = shared.state
  needless : forall owner, Admitted spec actions owner [] ->
    shared.bridge.result? = some (.ok []) /\ shared.bridge.state = .completed /\
      (shared.calls[owner]? = some .proceeding -> shared.act (.leave owner) = some (shared.conclude owner (.ok []))) /\
      forall dialed, .move (.dialedEncoder dialed) ∉ actions /\ .move (.dialedStorage dialed) ∉ actions

/-- A bridge is used once at most, whoever calls `generate` on it, with whatever candidates, and whatever else happens
meanwhile. -/
theorem used_once (reached : follow act { bridge := { spec } } actions = some shared) :
    UsedOnce spec actions shared := by
  have exclusive := exclusive_of_follow reached
  have run := run_alone reached
  constructor
  case admits =>
    intro nobody
    have unused := exclusive.standing.idle_iff.2 nobody
    exact ⟨unused, fun index videoIds entering => act_accept entering unused⟩
  case refuses =>
    intro owner entered
    have used : shared.state ≠ .idle := by simp [exclusive.standing.idle_iff, entered]
    exact ⟨used, fun index videoIds entering => act_refuse entering used⟩
  case others => exact exclusive.others
  case owner =>
    intro owner entered
    exact ⟨entered ▸ exclusive.standing, admitted_of_entrant reached entered⟩
  case alone =>
    intro owner videoIds admitted
    obtain ⟨before, after, same, unadmitted⟩ := moves_of_admitted reached admitted
    exact ⟨before, after, same ▸ run, unadmitted⟩
  case advances => exact fun action next possible => (step_of_act possible).advances exclusive run
  case lasts => exact fun later last final further => final_lasts reached final further
  case needless =>
    intro owner admitted
    obtain ⟨before, after, same, unadmitted⟩ := moves_of_admitted reached admitted
    have empty (videoIds : List String) (among : .generate videoIds ∈ moves spec actions) : videoIds = [] := by
      rw [same] at among
      have split := unadmitted videoIds
      simp only [List.mem_append, List.mem_cons, not_or] at among split
      rcases among with earlier | now | later
      next => exact absurd earlier split.1
      next => cases now; rfl
      next => exact absurd later split.2
    obtain ⟨unneeded, undialed⟩ := Bridge.unneeded_of_run run empty
    have undialed (dialed : Except Fault Unit) : .move (.dialedEncoder dialed) ∉ actions /\
        .move (.dialedStorage dialed) ∉ actions :=
      ⟨fun among => (undialed dialed).1 (mem_moves reached among),
        fun among => (undialed dialed).2 (mem_moves reached among)⟩
    cases unneeded with
    | unused idle =>
      have used : shared.state ≠ .idle := by
        obtain ⟨early, late, -, rfl, -⟩ := admitted
        exact fun unused => (idle_iff_of_follow reached).1 unused owner (by simp)
      exact absurd idle (exclusive.standing.begun used)
    | needless completed foreground =>
      have returned : shared.bridge.result? = some (.ok []) := by simp [Bridge.result?, foreground]
      exact ⟨returned, completed, fun proceeding => act_leave proceeding returned, undialed⟩

def racingCalls : List Action :=
  [.call ["a"], .call ["b"], .move .cancel, .enter 1, .enter 0, .move (.dialedEncoder (.error (.internal "down"))),
    .leave 1, .call [], .enter 2]

def needlessCalls : List Action :=
  [.call [], .move .cancel, .enter 0, .call ["a"], .enter 1, .leave 0]

theorem calls_admitted_once : exists raced needless, follow act {} racingCalls = some raced /\
    UsedOnce {} racingCalls raced /\ raced.state = .failed /\
    raced.calls[0]? = some (.returned (.error (Bridge.alreadyUsed .streaming))) /\
    raced.calls[2]? = some (.returned (.error (Bridge.alreadyUsed .failed))) /\
    follow act {} needlessCalls = some needless /\ UsedOnce {} needlessCalls needless /\
    needless.state = .completed /\ needless.calls[0]? = some (.returned (.ok [])) := by
  obtain ⟨raced, needless, racing, failed, early, late, empty, completed, returned⟩ : exists raced needless,
      follow act {} racingCalls = some raced /\ raced.state = .failed /\
        raced.calls[0]? = some (.returned (.error (Bridge.alreadyUsed .streaming))) /\
        raced.calls[2]? = some (.returned (.error (Bridge.alreadyUsed .failed))) /\
        follow act {} needlessCalls = some needless /\ needless.state = .completed /\
        needless.calls[0]? = some (.returned (.ok [])) :=
    ⟨_, _, rfl, rfl, rfl, rfl, rfl, rfl, rfl⟩
  exact ⟨raced, needless, racing, used_once racing, failed, early, late, empty, used_once empty, completed, returned⟩

end SharedBridge

end VideoRelay