import VideoRelay.Proofs.Bridge.Moves
import VideoRelay.Proofs.Call
import VideoRelay.Proofs.Run

set_option autoImplicit false

namespace VideoRelay

open Wire

namespace Bridge

theorem Run.reached {first last : Bridge} {actions : List Action} (run : Run first actions last) :
    follow Bridge.act first actions = some last := by
  induction run with
  | done => rfl
  | act possible _ ih => simp only [follow, possible, Option.bind_some, ih]

theorem run_of_follow {first last : Bridge} {actions : List Action}
    (reached : follow act first actions = some last) : Run first actions last := by
  induction actions generalizing first with
  | nil => cases reached; exact .done _
  | cons action rest ih =>
    obtain ⟨next, possible, later⟩ := Option.bind_eq_some_iff.1 reached
    exact .act possible (ih later)

theorem Run.append {first middle last : Bridge} {before after : List Action} (left : Run first before middle)
    (right : Run middle after last) : Run first (before ++ after) last := by
  refine run_of_follow ?_
  rw [follow_append, left.reached]
  exact right.reached

theorem Run.keeps {initial last : Bridge} {actions : List Action}
    (holds : List Action -> Bridge -> Prop) (start : holds [] initial)
    (kept : forall actions bridge action next, Run initial actions bridge -> holds actions bridge ->
      bridge.act action = some next -> holds (actions ++ [action]) next)
    (run : Run initial actions last) : holds actions last :=
  follow_keeps holds start (fun done middle action next reached held possible =>
    kept done middle action next (run_of_follow reached) held possible) run.reached

/-- Once the call was begun it is held by a foreground that waits for the encoder, and by nobody else. -/
structure Custody (bridge : Bridge) : Prop where
  used : bridge.foreground = .dialing \/ bridge.pump ≠ .unstarted -> bridge.state ≠ .idle
  unstarted : bridge.foreground = .dialing -> bridge.pump = .unstarted
  fresh : bridge.pump = .unstarted -> bridge.call.held = true /\ bridge.foreground.isWorking = false
  senders : bridge.call.requests.senders = if bridge.pump.outcome?.isSome then 0 else 1
  held : bridge.pump ≠ .unstarted -> bridge.call.held = bridge.foreground.isWorking

namespace Custody

variable {bridge next : Bridge}

theorem started (before : Custody bridge) (working : bridge.foreground.isWorking = true) :
    bridge.pump ≠ .unstarted := by
  intro unstarted
  simp [(before.fresh unstarted).2] at working

theorem idle (before : Custody bridge) (idle : bridge.state = .idle) : bridge.pump = .unstarted := by
  cases pump : bridge.pump with
  | unstarted => rfl
  | _ => exact absurd idle (before.used (.inr (by simp [pump])))

theorem further (before : Custody bridge) {foreground : Foreground} (working : bridge.foreground.isWorking = true)
    (still : foreground.isWorking = true) : Custody { bridge with foreground } := by
  have started := before.started working
  have undialed : foreground ≠ .dialing := by rintro rfl; cases still
  exact ⟨fun _ => before.used (.inr started), fun dialing => absurd dialing undialed,
    fun unstarted => absurd unstarted started, before.senders,
    fun _ => (before.held started).trans (working.trans still.symm)⟩

theorem leaveCall (before : Custody bridge) {result : Option (Except Fault Bytes)}
    (working : bridge.foreground.isWorking = true) : Custody (bridge.leaveCall result) := by
  have started := before.started working
  exact ⟨fun _ => before.used (.inr started), fun dialing => (by cases dialing),
    fun unstarted => absurd unstarted started, before.senders, fun _ => rfl⟩

theorem finish (before : Custody bridge) {result : Except Fault Bytes} {byCaller : Bool}
    (unheld : bridge.pump ≠ .unstarted -> bridge.call.held = false) : Custody (bridge.finish result byCaller) := by
  refine ⟨fun _ => ?_, fun dialing => (by cases dialing), fun unstarted => ⟨(before.fresh unstarted).1, rfl⟩,
    before.senders, unheld⟩
  cases result <;> cases byCaller <;> simp [Bridge.finish]

theorem pumping (before : Custody bridge) {pump : Pump} {requests : Channel GenerateThumbnailRequest}
    (running : bridge.pump.isRunning = true) (still : pump.isRunning = true)
    (senders : requests.senders = bridge.call.requests.senders) : Custody (bridge.pumping pump requests) := by
  have started := Pump.started_of_isRunning running
  refine ⟨fun _ => before.used (.inr started), fun dialing => absurd (before.unstarted dialing) started,
    fun unstarted => absurd unstarted (Pump.started_of_isRunning still), ?_, fun _ => before.held started⟩
  show requests.senders = if pump.outcome?.isSome then 0 else 1
  rw [senders, before.senders, Pump.unfinished_of_isRunning running, Pump.unfinished_of_isRunning still]

theorem endPump (before : Custody bridge) {outcome : Except Fault Unit} (running : bridge.pump.isRunning = true) :
    Custody (bridge.endPump outcome) := by
  have started := Pump.started_of_isRunning running
  refine ⟨fun _ => before.used (.inr started), fun dialing => absurd (before.unstarted dialing) started,
    fun unstarted => (by cases unstarted), ?_, fun _ => before.held started⟩
  have alone := before.senders
  rw [Pump.unfinished_of_isRunning running] at alone
  show bridge.call.requests.senders - 1 = 0
  rw [alone]
  rfl

theorem same (before : Custody bridge) (order : FrameGate) (frames : Source StorageMessage) {call : ThumbnailCall}
    (held : call.held = bridge.call.held) (senders : call.requests.senders = bridge.call.requests.senders) :
    Custody { bridge with order, frames, call } := by
  refine ⟨before.used, before.unstarted, ?_, senders.trans before.senders, ?_⟩
  next => rw [held]; exact before.fresh
  next => rw [held]; exact before.held

theorem act (before : Custody bridge) {action : Action} (step : bridge.Step action next) : Custody next := by
  have replied (items : List (Except Status DownloadResponse)) : Custody (bridge.withReplies items) :=
    before.same bridge.order bridge.frames rfl rfl
  have read (order : FrameGate) (items : List StorageMessage) : Custody { bridge.withFrames items with order } :=
    before.same order _ rfl rfl
  cases step with
  | abandon working => exact before.leaveCall working
  | accepted calling => exact before.further (by rw [calling]; rfl) rfl
  | collect _ _ rest collecting =>
    exact (replied rest).further (by simp [withReplies, collecting, Foreground.isWorking]) rfl
  | refused _ working | complete _ working => exact before.leaveCall (by rw [working]; rfl)
  | broken _ _ rest collecting =>
    exact (replied rest).leaveCall (by simp [withReplies, collecting, Foreground.isWorking])
  | settle _ _ _ joining => exact before.finish fun started => by rw [before.held started, joining]; rfl
  | stop running => exact before.endPump running
  | translate _ rest order request reading =>
    have running : (bridge.withFrames rest).pump.isRunning = true := by simp [withFrames, reading, Pump.isRunning]
    have still : (Pump.sending request).isRunning = true := rfl
    exact (read order rest).pumping running still rfl
  | offend _ rest _ reading => exact (read bridge.order rest).endPump (by simp [withFrames, reading, Pump.isRunning])
  | drain reading => exact before.endPump (by rw [reading]; rfl)
  | put _ offered | queue _ offered => exact before.pumping (Pump.isRunning_of_request offered) rfl rfl
  | unread _ offered => exact before.endPump (Pump.isRunning_of_request offered)
  | again => exact before
  | needless idle | begin _ _ idle =>
    -- Only a bridge that was never used gets as far as this, so that nothing was started before.
    have unstarted := before.idle idle
    exact ⟨fun _ => (by simp), fun _ => unstarted, fun _ => ⟨(before.fresh unstarted).1, rfl⟩, before.senders,
      fun started => absurd unstarted started⟩
  | cancel => exact ⟨before.used, before.unstarted, before.fresh, before.senders, before.held⟩
  | dialed dialing => exact before.pumping (by rw [dialing]; rfl) rfl rfl
  | opened opening => exact before.pumping (by rw [opening]; rfl) rfl rfl
  | undialed _ dialing => exact before.endPump (by rw [dialing]; rfl)
  | unopened _ opening => exact before.endPump (by rw [opening]; rfl)
  | deliver | endStream => exact before.same bridge.order _ rfl rfl
  | start dialing =>
    have unstarted := before.unstarted dialing
    refine ⟨fun _ => before.used (.inl dialing), fun again => (by cases again), fun none => (by cases none), ?_,
      fun _ => (before.fresh unstarted).1⟩
    have alone := before.senders
    rwa [unstarted] at alone
  | unreachable fault dialing => exact before.finish fun started => absurd (before.unstarted dialing) started
  | onCall _ call _ acted =>
    obtain ⟨-, senders, held, -⟩ := Call.attended_of_act acted
    exact before.same bridge.order bridge.frames held senders

theorem undialing (before : Custody bridge) {outcome : Except Fault Unit} (ended : bridge.pump = .finished outcome) :
    bridge.foreground ≠ .dialing := by
  intro dialing
  cases ended.symm.trans (before.unstarted dialing)

end Custody

theorem Step.ended {bridge next : Bridge} {action : Action} {outcome : Except Fault Unit}
    (step : bridge.Step action next) (ended : bridge.pump = .finished outcome)
    (undialed : bridge.foreground ≠ .dialing) : next.pump = .finished outcome := by
  have stopped : bridge.pump.isRunning = false := by rw [ended]; rfl
  have unreachable (pump : Pump) (same : bridge.pump = pump) (running : pump.isRunning = true) : False := by
    rw [same, running] at stopped
    cases stopped
  cases step with
  | stop running => cases stopped.symm.trans running
  | put _ offered | queue _ offered | unread _ offered =>
    cases stopped.symm.trans (Pump.isRunning_of_request offered)
  | translate _ _ _ _ reading | offend _ _ _ reading | drain reading => exact (unreachable _ reading rfl).elim
  | dialed dialing | undialed _ dialing => exact (unreachable _ dialing rfl).elim
  | opened opening | unopened _ opening => exact (unreachable _ opening rfl).elim
  | start dialing => exact absurd dialing undialed
  | abandon | accepted | refused | collect | broken | complete | settle | again | needless | begin | cancel | deliver
  | endStream | unreachable | onCall => exact ended

def Announces (bridge : Bridge) : Prop :=
  bridge.storageFailed = true <-> exists fault, bridge.pump = .finished (.error fault)

namespace Announces

variable {bridge next : Bridge}

theorem unfailed (announces : bridge.Announces) (running : bridge.pump.isRunning = true) :
    bridge.storageFailed = false := by
  cases failed : bridge.storageFailed with
  | false => rfl
  | true =>
    obtain ⟨fault, ended⟩ := announces.1 failed
    rw [ended] at running
    cases running

theorem moved (announces : bridge.Announces) (running : bridge.pump.isRunning = true)
    (failed : next.storageFailed = bridge.storageFailed) (still : next.pump.isRunning = true) : next.Announces := by
  rw [Announces, failed, announces.unfailed running]
  refine ⟨fun failed => (by cases failed), ?_⟩
  rintro ⟨fault, ended⟩
  rw [ended] at still
  cases still

theorem endPump (announces : bridge.Announces) (running : bridge.pump.isRunning = true)
    {outcome : Except Fault Unit} : (bridge.endPump outcome).Announces := by
  have unfailed := announces.unfailed running
  cases outcome <;> simp [Announces, Bridge.endPump, unfailed]

theorem act (before : bridge.Announces) (custody : Custody bridge) {action : Action} (step : bridge.Step action next) :
    next.Announces := by
  cases step with
  | stop running => exact before.endPump running
  | unread _ offered => exact before.endPump (Pump.isRunning_of_request offered)
  | drain reading => exact before.endPump (by rw [reading]; rfl)
  | offend _ rest _ reading =>
    have read : (bridge.withFrames rest).Announces := before
    exact read.endPump (by simp [withFrames, reading, Pump.isRunning])
  | undialed _ dialing => exact before.endPump (by rw [dialing]; rfl)
  | unopened _ opening => exact before.endPump (by rw [opening]; rfl)
  | translate _ _ _ _ reading => exact before.moved (by rw [reading]; rfl) rfl rfl
  | put _ offered | queue _ offered => exact before.moved (Pump.isRunning_of_request offered) rfl rfl
  | dialed dialing => exact before.moved (by rw [dialing]; rfl) rfl rfl
  | opened opening => exact before.moved (by rw [opening]; rfl) rfl rfl
  | start dialing =>
    refine Iff.trans before ⟨?_, ?_⟩
    next => rintro ⟨fault, failed⟩; cases (custody.unstarted dialing).symm.trans failed
    next => rintro ⟨fault, failed⟩; cases failed
  | abandon | accepted | refused | collect | broken | complete | settle | again | needless | begin | cancel | deliver
  | endStream | unreachable | onCall => exact before

end Announces

/-- The storage task fails only as long as the foreground waits for the encoder, and leaves it nothing but its
fault. -/
structure Heeds (bridge : Bridge) : Prop extends Custody bridge where
  announced : bridge.Announces
  wanted : bridge.pump.isRunning = true -> bridge.cancelled = false -> bridge.foreground.isWorking = true
  lost : forall fault, bridge.pump = .finished (.error fault) -> bridge.foreground.isWorking = true \/
    (exists byCaller, bridge.foreground = .joining none byCaller) \/ bridge.foreground = .returned (.error fault)

namespace Heeds

variable {bridge next : Bridge}

theorem act (before : Heeds bridge) {action : Action} (step : bridge.Step action next) : Heeds next := by
  have custody := before.toCustody.act step
  have announced := before.announced.act before.toCustody step
  have aside (pump : next.pump = bridge.pump) (foreground : next.foreground = bridge.foreground)
      (raised : bridge.cancelled = true -> next.cancelled = true) : Heeds next := by
    refine ⟨custody, announced, fun running uncancelled => ?_, fun fault => ?_⟩
    next =>
      have unraised : bridge.cancelled = false :=
        Bool.eq_false_iff.2 fun cancelled => (by cases uncancelled.symm.trans (raised cancelled))
      rw [pump] at running
      rw [foreground]
      exact before.wanted running unraised
    next => rw [pump, foreground]; exact before.lost fault
  have working (working : next.foreground.isWorking = true) : Heeds next :=
    ⟨custody, announced, fun _ _ => working, fun _ _ => .inl working⟩
  -- A foreground that leaves the call raises the token, and has a result only if the storage read has not failed.
  have leaves (result : Option (Except Fault Bytes)) (byCaller : Bool)
      (joining : next.foreground = .joining result byCaller) (cancelled : next.cancelled = true)
      (pump : next.pump = bridge.pump) (silent : bridge.storageFailed = true -> result = none) : Heeds next := by
    refine ⟨custody, announced, fun _ uncancelled => (by cases uncancelled.symm.trans cancelled),
      fun fault failed => ?_⟩
    rw [pump] at failed
    obtain rfl := silent (before.announced.2 ⟨fault, failed⟩)
    exact .inr (.inl ⟨byCaller, joining⟩)
  have unfailing (stopped : next.pump.isRunning = false)
      (unfailed : forall fault, next.pump ≠ .finished (.error fault)) : Heeds next :=
    ⟨custody, announced, fun running => absurd (stopped.symm.trans running) (by simp),
      fun fault failed => absurd failed (unfailed fault)⟩
  -- It goes on or fails only if nobody has cancelled it, and whoever leaves the call cancels it.
  have pumps (running : bridge.pump.isRunning = true) (uncancelled : bridge.cancelled = false)
      (foreground : next.foreground = bridge.foreground) : Heeds next :=
    working (by rw [foreground]; exact before.wanted running uncancelled)
  cases step with
  | abandon => exact leaves none _ rfl rfl rfl fun _ => rfl
  | refused _ _ unfailed | complete _ _ unfailed | broken _ _ _ _ unfailed =>
    exact leaves _ _ rfl rfl rfl fun failed => absurd (unfailed.symm.trans failed) (by simp)
  | accepted | collect => exact working rfl
  | settle result byCaller pumped joining through =>
    refine ⟨custody, announced, fun running => ?_, fun fault failed => .inr (.inr ?_)⟩
    next =>
      rw [show (bridge.finish (Bridge.settle result pumped) byCaller).pump = _ from through] at running
      cases running
    next =>
      -- A foreground that joins with nothing in hand takes over what the storage task came to.
      rcases before.lost fault failed with working | ⟨_, silent⟩ | returned
      next => simp [joining, Foreground.isWorking] at working
      next =>
        cases joining.symm.trans silent
        cases through.symm.trans failed
        rfl
      next => cases joining.symm.trans returned
  | stop | drain | unread => exact unfailing rfl fun _ failed => (by cases failed)
  | translate _ _ _ _ reading uncancelled | offend _ _ _ reading uncancelled =>
    exact pumps (by rw [reading]; rfl) uncancelled rfl
  | put _ offered uncancelled | queue _ offered uncancelled =>
    exact pumps (Pump.isRunning_of_request offered) uncancelled rfl
  | dialed dialing uncancelled | undialed _ dialing uncancelled => exact pumps (by rw [dialing]; rfl) uncancelled rfl
  | opened opening uncancelled | unopened _ opening uncancelled => exact pumps (by rw [opening]; rfl) uncancelled rfl
  | needless idle | begin _ _ idle =>
    have unstarted := before.idle idle
    exact unfailing (by rw [unstarted]; rfl) fun fault failed => (by cases unstarted.symm.trans failed)
  | unreachable fault dialing =>
    have unstarted := before.unstarted dialing
    have same : (bridge.finish (.error fault) false).pump = .unstarted := unstarted
    exact unfailing (by rw [same]; rfl) fun _ failed => (by cases same.symm.trans failed)
  | start => exact working rfl
  | again | deliver | endStream | onCall => exact aside rfl rfl id
  | cancel => exact aside rfl rfl fun _ => rfl

theorem returned_fault (heeds : Heeds bridge) {result : Except Fault Bytes} {fault : Fault}
    (returned : bridge.result? = some result) (failed : bridge.pump = .finished (.error fault)) :
    result = .error fault := by
  rcases heeds.lost fault failed with working | ⟨byCaller, joining⟩ | lost
  next => cases foreground : bridge.foreground <;> simp [foreground, Foreground.isWorking, result?] at working returned
  next => simp [result?, joining] at returned
  next => simpa [result?, lost, eq_comm] using returned

end Heeds

theorem heeds_of_run {spec : ImageSpec} {bridge : Bridge} {actions : List Action}
    (run : Run { spec } actions bridge) : Heeds bridge := by
  refine run.keeps (fun _ bridge => Heeds bridge) ?_ fun _ _ _ _ _ before possible => before.act (step_of_act possible)
  exact {
    used := fun begun => begun.elim (fun dialing => (by cases dialing)) (fun started => absurd rfl started)
    unstarted := fun dialing => (by cases dialing)
    fresh := fun _ => ⟨rfl, rfl⟩
    senders := rfl
    announced := ⟨fun announced => (by cases announced), fun ⟨_, failed⟩ => (by cases failed)⟩
    held := fun started => absurd rfl started
    wanted := fun running => (by cases running)
    lost := fun _ failed => (by cases failed) }

theorem custody_of_run {spec : ImageSpec} {bridge : Bridge} {actions : List Action}
    (run : Run { spec } actions bridge) : Custody bridge :=
  (heeds_of_run run).toCustody

end Bridge

end VideoRelay
