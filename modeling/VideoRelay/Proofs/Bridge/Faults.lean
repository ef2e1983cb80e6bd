import VideoRelay.Proofs.Bridge.Outcome

set_option autoImplicit false

namespace VideoRelay

theorem Framing.offence?_httpStatus {headerSeen : Bool} {messages : List StorageMessage} {fault : Fault}
    (offends : offence? headerSeen messages = some fault) : fault.httpStatus = 500 := by
  fun_induction offence? headerSeen messages with
  | case1 => cases offends
  | case2 | case3 | case4 | case5 => cases offends; rfl
  | case6 _ _ ih | case7 _ _ ih => exact ih offends

namespace Bridge

variable {spec : ImageSpec} {bridge next : Bridge} {actions : List Action} {action : Action} {fault : Fault}

inductive Bears (bridge : Bridge) (fault : Fault) : Prop
  | pump (ended : bridge.pump = .finished (.error fault))
  | joining (byCaller : Bool) (left : bridge.foreground = .joining (some (.error fault)) byCaller)
  | returned (returned : bridge.foreground = .returned (.error fault))

def Action.Undialed (fault : Fault) (action : Action) : Prop :=
  action = .dialedStorage (.error fault) \/ action = .dialedEncoder (.error fault)

theorem bears_of_settle {own : Option (Except Fault Bytes)} {byCaller : Bool} {pumped : Except Fault Unit}
    (joining : bridge.foreground = .joining own byCaller) (through : bridge.pump = .finished pumped)
    (settled : settle own pumped = .error fault) : bridge.Bears fault \/ fault.httpStatus = 500 := by
  unfold settle at settled
  split at settled
  next => cases settled; exact .inl (.joining byCaller joining)
  next => cases settled; exact .inl (.pump through)
  next => cases settled
  next => cases settled; exact .inr rfl

theorem Step.bears (step : bridge.Step action next) (bears : next.Bears fault) :
    bridge.Bears fault \/ action.Undialed fault \/ fault.httpStatus = 500 := by
  -- Neither leg has come to anything new.
  have aside (pump : next.pump = bridge.pump) (foreground : next.foreground = bridge.foreground) :
      bridge.Bears fault \/ action.Undialed fault \/ fault.httpStatus = 500 := by
    cases bears with
    | pump ended => exact .inl (.pump (pump ▸ ended))
    | joining byCaller left => exact .inl (.joining byCaller (foreground ▸ left))
    | returned returned => exact .inl (.returned (foreground ▸ returned))
  -- The foreground leaves the call with this in hand.
  have leaving (own : Option (Except Fault Bytes)) (byCaller : Bool) (pump : next.pump = bridge.pump)
      (left : next.foreground = .joining own byCaller)
      (blamed : own = some (.error fault) -> fault.httpStatus = 500) :
      bridge.Bears fault \/ action.Undialed fault \/ fault.httpStatus = 500 := by
    cases bears with
    | pump ended => exact .inl (.pump (pump ▸ ended))
    | joining _ same => cases left.symm.trans same; exact .inr (.inr (blamed rfl))
    | returned same => cases left.symm.trans same
  -- The foreground goes on with the call.
  have working (pump : next.pump = bridge.pump) (there : next.foreground.hasLeft = false) :
      bridge.Bears fault \/ action.Undialed fault \/ fault.httpStatus = 500 := by
    cases bears with
    | pump ended => exact .inl (.pump (pump ▸ ended))
    | joining _ same | returned same => rw [same] at there; cases there
  -- The storage task goes on, or ends with this.
  have pumping (foreground : next.foreground = bridge.foreground)
      (blamed : next.pump = .finished (.error fault) -> action.Undialed fault \/ fault.httpStatus = 500) :
      bridge.Bears fault \/ action.Undialed fault \/ fault.httpStatus = 500 := by
    cases bears with
    | pump ended => exact .inr (blamed ended)
    | joining byCaller left => exact .inl (.joining byCaller (foreground ▸ left))
    | returned returned => exact .inl (.returned (foreground ▸ returned))
  cases step with
  | abandon => exact leaving none _ rfl rfl (by simp)
  | refused status => exact leaving _ _ rfl rfl (by rintro ⟨⟩; rfl)
  | broken image status =>
    refine leaving _ _ rfl rfl fun same => ?_
    split at same <;> cases same
    rfl
  | complete image => exact leaving _ _ rfl rfl (by simp)
  | accepted | collect | begin => exact working rfl rfl
  | settle own byCaller pumped joining through =>
    cases bears with
    | pump ended => exact .inl (.pump ended)
    | joining _ left => cases left
    | returned returned =>
      have settled : Bridge.settle own pumped = .error fault := Foreground.returned.inj returned
      exact (bears_of_settle joining through settled).imp_right .inr
  | needless =>
    cases bears with
    | pump ended => exact .inl (.pump ended)
    | joining _ left => cases left
    | returned returned => cases returned
  | unreachable unreached =>
    cases bears with
    | pump ended => exact .inl (.pump ended)
    | joining _ left => cases left
    | returned returned => cases returned; exact .inr (.inl (.inr rfl))
  | start =>
    cases bears with
    | pump ended => cases ended
    | joining _ left => cases left
    | returned returned => cases returned
  | offend message rest found reading uncancelled ready refused =>
    refine pumping rfl fun ended => ?_
    cases ended
    exact .inr (Framing.offence?_httpStatus (requestFor_error refused))
  | undialed found => exact pumping rfl (by rintro ⟨⟩; exact .inl (.inl rfl))
  | unopened status => exact pumping rfl (by rintro ⟨⟩; exact .inr rfl)
  | stop | drain | unread | translate | put | queue | dialed | opened => exact pumping rfl (fun ended => by cases ended)
  | again | cancel | deliver | endStream | onCall => exact aside rfl rfl

theorem undialed_of_run (run : Run { spec } actions bridge) (bears : bridge.Bears fault)
    (clients : fault.httpStatus ≠ 500) : exists action, action ∈ actions /\ action.Undialed fault := by
  refine run.keeps (fun done bridge => bridge.Bears fault -> exists action, action ∈ done /\ action.Undialed fault)
    (fun bears => ?_) ?_ bears
  next =>
    cases bears with
    | pump ended => cases ended
    | joining _ left => cases left
    | returned returned => cases returned
  next =>
    intro done middle action next _ before possible after
    rcases (step_of_act possible).bears after with earlier | undialed | servers
    next =>
      obtain ⟨dial, member, undialed⟩ := before earlier
      exact ⟨dial, List.mem_append_left _ member, undialed⟩
    next => exact ⟨action, by simp, undialed⟩
    next => exact absurd servers clients

end Bridge

end VideoRelay
