import VideoRelay.Proofs.Bridge.Custody

set_option autoImplicit false

namespace VideoRelay

inductive BridgeCall where
  | entering (videoIds : List String)
  | proceeding
  | returned (result : Except Fault Bytes)

inductive BridgeCall.Apart : BridgeCall -> Prop
  | entering (videoIds : List String) : Apart (.entering videoIds)
  | refused (state : BridgePhase) (used : state ≠ .idle) : Apart (.returned (.error (Bridge.alreadyUsed state)))

/-- A bridge, the state behind its lock, and the calls made on it. The lock learns of the state in which the bridge ends
when the call that runs it returns. -/
structure SharedBridge where
  bridge : Bridge := {}
  state : BridgePhase := .idle
  calls : List BridgeCall := []

namespace SharedBridge

inductive Action where
  | call (videoIds : List String)
  | enter (index : Nat)
  | leave (index : Nat)
  | move (action : Bridge.Action)

def accept (shared : SharedBridge) (index : Nat) (videoIds : List String) : SharedBridge where
  bridge := (shared.bridge.generate videoIds).2
  state := .streaming
  calls := shared.calls.set index .proceeding

def refuse (shared : SharedBridge) (index : Nat) : SharedBridge :=
  { shared with calls := shared.calls.set index (.returned (.error (Bridge.alreadyUsed shared.state))) }

def conclude (shared : SharedBridge) (index : Nat) (result : Except Fault Bytes) : SharedBridge :=
  { shared with state := shared.bridge.state, calls := shared.calls.set index (.returned result) }

def enter (shared : SharedBridge) (index : Nat) : Option SharedBridge :=
  match shared.calls[index]? with
  | some (.entering videoIds) =>
    some (if shared.state = .idle then shared.accept index videoIds else shared.refuse index)
  | _ => none

def leave (shared : SharedBridge) (index : Nat) : Option SharedBridge :=
  match shared.calls[index]?, shared.bridge.result? with
  | some .proceeding, some result => some (shared.conclude index result)
  | _, _ => none

def act (shared : SharedBridge) : Action -> Option SharedBridge
  | .call videoIds => some { shared with calls := shared.calls ++ [.entering videoIds] }
  | .enter index => shared.enter index
  | .leave index => shared.leave index
  | .move (.generate _) => none
  | .move action => (shared.bridge.act action).map fun bridge => { shared with bridge }

inductive Step (shared : SharedBridge) : Action -> SharedBridge -> Prop
  | call (videoIds : List String) :
      Step shared (.call videoIds) { shared with calls := shared.calls ++ [.entering videoIds] }
  | accept (index : Nat) (videoIds : List String) (entering : shared.calls[index]? = some (.entering videoIds))
      (unused : shared.state = .idle) : Step shared (.enter index) (shared.accept index videoIds)
  | refuse (index : Nat) (videoIds : List String) (entering : shared.calls[index]? = some (.entering videoIds))
      (used : shared.state ≠ .idle) : Step shared (.enter index) (shared.refuse index)
  | leave (index : Nat) (result : Except Fault Bytes) (proceeding : shared.calls[index]? = some .proceeding)
      (returned : shared.bridge.result? = some result) : Step shared (.leave index) (shared.conclude index result)
  | move (action : Bridge.Action) (bridge : Bridge) (foreign : forall videoIds, action ≠ .generate videoIds)
      (moved : shared.bridge.act action = some bridge) : Step shared (.move action) { shared with bridge }

variable {shared first middle last next : SharedBridge} {action : Action} {actions : List Action} {index : Nat}
  {videoIds : List String} {result : Except Fault Bytes}

theorem act_accept (entering : shared.calls[index]? = some (.entering videoIds)) (unused : shared.state = .idle) :
    shared.act (.enter index) = some (shared.accept index videoIds) := by
  simp [act, enter, entering, unused]

theorem act_refuse (entering : shared.calls[index]? = some (.entering videoIds)) (used : shared.state ≠ .idle) :
    shared.act (.enter index) = some (shared.refuse index) := by
  simp [act, enter, entering, used]

theorem act_leave (proceeding : shared.calls[index]? = some .proceeding)
    (returned : shared.bridge.result? = some result) :
    shared.act (.leave index) = some (shared.conclude index result) := by
  simp [act, leave, proceeding, returned]

theorem step_of_act (moved : shared.act action = some next) : shared.Step action next := by
  unfold act at moved
  split at moved
  next videoIds => cases moved; exact .call videoIds
  next index =>
    unfold enter at moved
    split at moved
    next videoIds entering =>
      by_cases unused : shared.state = .idle
      next =>
        simp only [unused, ↓reduceIte] at moved
        cases moved
        exact .accept index videoIds entering unused
      next =>
        simp only [unused, ↓reduceIte] at moved
        cases moved
        exact .refuse index videoIds entering unused
    next => cases moved
  next index =>
    unfold leave at moved
    split at moved
    next result proceeding returned => cases moved; exact .leave index result proceeding returned
    next => cases moved
  next => cases moved
  next action foreign =>
    obtain ⟨bridge, acted, rfl⟩ := Option.map_eq_some_iff.1 moved
    exact .move action bridge foreign acted

def alone (shared : SharedBridge) : Action -> List Bridge.Action
  | .move action => [action]
  | .enter index =>
    match shared.state, shared.calls[index]? with
    | .idle, some (.entering videoIds) => [.generate videoIds]
    | _, _ => []
  | .call _ | .leave _ => []

theorem alone_of_refused (used : shared.state ≠ .idle) : shared.alone (.enter index) = [] := by
  simp only [alone]
  split
  next unused _ => exact absurd unused used
  next => rfl

theorem Step.alone (step : shared.Step action next) :
    follow Bridge.act shared.bridge (shared.alone action) = some next.bridge := by
  cases step with
  | call | leave => rfl
  | accept index videoIds entering unused => simp only [SharedBridge.alone, unused, entering]; rfl
  | refuse index videoIds entering used => rw [alone_of_refused used]; rfl
  | move action bridge _ moved => simp [SharedBridge.alone, follow, moved]

theorem alone_of_follow (reached : follow act first actions = some last) :
    follow Bridge.act first.bridge (chronicle act alone first actions) = some last.bridge := by
  refine follow_keeps (fun done last => follow Bridge.act first.bridge (chronicle act alone first done) =
    some last.bridge) rfl ?_ reached
  intro done middle action next reached before possible
  rw [chronicle_snoc alone reached possible, follow_append, before, Option.bind_some]
  exact (step_of_act possible).alone

def moves (spec : ImageSpec) (actions : List Action) : List Bridge.Action :=
  chronicle act alone { bridge := { spec } } actions

variable {spec : ImageSpec}

theorem run_alone (reached : follow act { bridge := { spec } } actions = some shared) :
    Bridge.Run { spec } (moves spec actions) shared.bridge :=
  Bridge.run_of_follow (alone_of_follow reached)

end SharedBridge

end VideoRelay
