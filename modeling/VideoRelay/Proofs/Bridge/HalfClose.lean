import VideoRelay.Proofs.Bridge.Custody
import VideoRelay.Proofs.Framing

set_option autoImplicit false

namespace VideoRelay

open Wire

namespace Bridge

def Action.isForeground : Action -> Bool
  | foreground => true
  | _ => false

variable {bridge next last : Bridge} {action : Action} {fault : Fault}

theorem Step.failing (step : bridge.Step action next) (unfinished : bridge.pump.outcome? = none)
    (failed : next.pump = .finished (.error fault)) :
    bridge.pump.isRunning = true /\ bridge.cancelled = false /\ next.foreground = bridge.foreground := by
  have unmoved (same : next.pump = bridge.pump) : bridge.pump.outcome? = some (.error fault) := by
    rw [← same, failed]
    rfl
  -- Most moves leave the storage task alone or do not end it with a fault; three can make it fail.
  cases step with
  | offend _ _ _ reading uncancelled => exact ⟨by rw [reading]; rfl, uncancelled, rfl⟩
  | undialed _ dialing uncancelled => exact ⟨by rw [dialing]; rfl, uncancelled, rfl⟩
  | unopened _ opening uncancelled => exact ⟨by rw [opening]; rfl, uncancelled, rfl⟩
  | stop | translate | drain | put | queue | unread | dialed | opened | start => cases failed
  | abandon | accepted | refused | collect | broken | complete | settle | again | needless | begin | cancel | deliver
  | endStream | unreachable | onCall => cases unfinished.symm.trans (unmoved rfl)

theorem Heeds.afterFailure (before : Heeds bridge) (failed : bridge.pump = .finished (.error fault))
    (step : bridge.Step action next) : next.pump = .finished (.error fault) /\
      next.call.held = (bridge.call.held && !action.isForeground) := by
  have announced := before.announced.2 ⟨fault, failed⟩
  refine ⟨step.ended failed (before.undialing failed), ?_⟩
  cases step with
  | abandon => simp [Bridge.leaveCall, Action.isForeground]
  | accepted _ unfailed | refused _ _ unfailed | collect _ _ _ _ unfailed | broken _ _ _ _ unfailed
  | complete _ _ unfailed => cases unfailed.symm.trans announced
  | settle result byCaller _ joining =>
    have dropped := before.held (by simp [failed])
    rw [joining] at dropped
    show bridge.call.held = _
    rw [dropped]
    rfl
  | onCall _ _ _ acted => simpa [Action.isForeground] using (Call.attended_of_act acted).held
  | stop | translate | offend | drain | put | queue | unread | again | needless | begin | cancel | dialed | undialed
  | opened | unopened | deliver | endStream | start | unreachable => exact (Bool.and_true _).symm

/-- From the failure on the transport can see the end of the requests exactly as long as the foreground has not moved
and no request is left, and it can always come to see it before the foreground moves. All the same nothing is returned
but the fault of the storage read. -/
theorem failed_pump_exposes_end {spec : ImageSpec} {before after : List Action} {failed : Bridge}
    (run : Run { spec } before bridge) (unfinished : bridge.pump.outcome? = none)
    (possible : bridge.act action = some failed) (fails : failed.pump = .finished (.error fault))
    (later : Run failed after last) :
    (last.call.isHalfClosed = true <->
        after.any Action.isForeground = false /\ last.call.requests.place = none) /\
      (exists (requests : List GenerateThumbnailRequest) (drained : Bridge),
        Run failed (requests.map fun request => .onCall (.takeRequest request)) drained /\
          drained.call.isHalfClosed = true) /\
      forall result, last.result? = some result -> result = .error fault := by
  have reached : Run { spec } (before ++ [action]) failed := run_of_follow (follow_snoc run.reached possible)
  have custody := custody_of_run reached
  -- A task that fails was not cancelled, so that the foreground still waits for the encoder and holds the call.
  have held : failed.call.held = true := by
    have step := step_of_act possible
    obtain ⟨running, uncancelled, same⟩ := step.failing unfinished fails
    rw [custody.held (by simp [fails]), same]
    exact (heeds_of_run run).wanted running uncancelled
  -- From here on nothing but the foreground can drop the call, and it does so in its first move.
  have kept : Run { spec } (before ++ [action] ++ after) last /\ last.pump = .finished (.error fault) /\
      last.call.held = !after.any Action.isForeground := by
    refine later.keeps (fun done last => Run { spec } (before ++ [action] ++ done) last /\
      last.pump = .finished (.error fault) /\ last.call.held = !done.any Action.isForeground)
      ⟨by simpa using reached, fails, held⟩ ?_
    rintro done middle move next - ⟨run, failing, holding⟩ moved
    obtain ⟨still, drops⟩ := (heeds_of_run run).afterFailure failing (step_of_act moved)
    have further := run_of_follow (follow_snoc run.reached moved)
    exact ⟨by simpa using further, still, by simp [drops, holding]⟩
  obtain ⟨whole, failing, holding⟩ := kept
  have heeds := heeds_of_run whole
  -- The failed task has let go of its sender, so that the end is behind whatever request is left.
  have closes (bridge : Bridge) (custody : Custody bridge) (failing : bridge.pump = .finished (.error fault)) :
      bridge.call.isHalfClosed = true <-> bridge.call.held = true /\ bridge.call.requests.place = none := by
    have senders := custody.senders
    simp only [failing, Pump.outcome?, Option.isSome_some, ↓reduceIte] at senders
    simp [Call.isHalfClosed, senders]
  refine ⟨?_, ?_, ?_⟩
  next => rw [closes last heeds.toCustody failing, holding, Bool.not_eq_true']
  next =>
    cases place : failed.call.requests.place with
    | none => exact ⟨[], failed, .done failed, (closes failed custody fails).2 ⟨held, place⟩⟩
    | some request =>
      let drained := { failed with call := { failed.call with requests := failed.call.requests.taken } }
      have took : failed.act (.onCall (.takeRequest request)) = some drained := by
        simp [act, callOpened, fails, Call.act, Channel.take_eq_item_iff.2 ⟨place, rfl⟩, drained]
      have custody := custody.act (step_of_act took)
      exact ⟨[request], drained, .act took (.done drained), (closes drained custody fails).2 ⟨held, rfl⟩⟩
  next => exact fun result returned => heeds.returned_fault returned failing

def clipReading : List Action :=
  [.generate ["a"], .dialedEncoder (.ok ()), .dialedStorage (.ok ()), .openedVideo (.ok ()),
    .deliver (.ok (.header clip)), .pump, .pump, .deliver (.error diskFailure),
    .onCall (.takeRequest (ImageSpec.request {} (.header clip.descriptor)))]

theorem clip_half_closed : exists bridge, Run {} (clipReading ++ [.pump]) bridge /\
    bridge.pump = .finished (.error (.streamTransport diskFailure)) /\ bridge.call.held = true /\
    bridge.call.requests.take = .finished := by
  obtain ⟨bridge, reached, failed, held, through⟩ : exists bridge,
      follow act {} (clipReading ++ [.pump]) = some bridge /\
      bridge.pump = .finished (.error (.streamTransport diskFailure)) /\ bridge.call.held = true /\
      bridge.call.requests.take = .finished := ⟨_, rfl, rfl, rfl, rfl⟩
  exact ⟨bridge, run_of_follow reached, failed, held, through⟩

theorem clip_abandoned : exists failed last, Run {} (clipReading ++ [.pump]) failed /\
    Run failed [.foreground, .foreground] last /\ last.call.isHalfClosed = false /\
    last.result? = some (.error (.streamTransport diskFailure)) := by
  obtain ⟨bridge, failed, last, run, unfinished, possible, fails, later, result, returned⟩ :
      exists bridge failed last, follow act {} clipReading = some bridge /\ bridge.pump.outcome? = none /\
        bridge.act .pump = some failed /\ failed.pump = .finished (.error (.streamTransport diskFailure)) /\
        follow act failed [.foreground, .foreground] = some last /\
        exists result, last.result? = some result := ⟨_, _, _, rfl, rfl, rfl, rfl, rfl, _, rfl⟩
  obtain ⟨closes, -, lost⟩ :=
    failed_pump_exposes_end (run_of_follow run) unfinished possible fails (run_of_follow later)
  refine ⟨failed, last, run_of_follow (follow_snoc run possible), run_of_follow later, ?_, ?_⟩
  next => exact Bool.eq_false_iff.2 fun closed => (by cases (closes.1 closed).1)
  next => rw [returned, lost result returned]

end Bridge

end VideoRelay
