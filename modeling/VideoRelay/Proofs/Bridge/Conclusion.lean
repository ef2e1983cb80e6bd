import VideoRelay.Proofs.Bridge.Tasks

set_option autoImplicit false

namespace VideoRelay

open Wire

namespace Bridge

def Action.isOwn : Action -> Bool
  | foreground | pump => true
  | _ => false

def Returns (bridge : Bridge) (result : Except Fault Bytes) : Prop :=
  exists actions last, actions.all Action.isOwn = true /\ Run bridge actions last /\ last.result? = some result

end Bridge

/-- Whatever is done to tasks that run in parallel, they return what this and the end of the storage task come to, or
the fault of the storage read. If that has failed before the foreground looks again, nothing but its fault is
returned. -/
structure Tasks.Concludes (tasks : Tasks) (result : Except Fault Bytes) : Prop where
  settled : forall after last returned, follow act tasks after = some last ->
    last.bridge.result? = some returned -> exists pumped, last.bridge.pump = .finished pumped /\
      (returned = Bridge.settle (some result) pumped \/ exists fault, pumped = .error fault /\ returned = .error fault)
  heard : tasks.foregroundLooked = false -> forall fault, tasks.bridge.pump = .finished (.error fault) ->
    forall after last returned, follow act tasks after = some last -> last.bridge.result? = some returned ->
      returned = .error fault

namespace Bridge

/-- Left alone the bridge returns this, unless the storage read has failed already. Whatever else is done to it, it
returns the fault of the storage read if that fails, and this if not. Only tasks that run in parallel can come to this
also after the failure, if the foreground has looked before. -/
structure Concludes (bridge : Bridge) (result : Except Fault Bytes) : Prop where
  returns : bridge.storageFailed = false -> bridge.Returns result
  unfailed : forall after last returned, Run bridge after last -> last.result? = some returned ->
    last.storageFailed = false -> returned = result
  failed : forall after last returned fault, Run bridge after last -> last.result? = some returned ->
    last.pump = .finished (.error fault) -> returned = .error fault
  parallel : Tasks.Concludes { bridge } result

/-- All that the foreground still has to hear of the encoder is there, and it comes to this. -/
inductive Awaits (bridge : Bridge) : Except Fault Bytes -> Prop
  | refused (status : Status) (calling : bridge.foreground = .calling)
      (answered : bridge.call.answer = some (.error status)) : Awaits bridge (.error (.streamTransport status))
  | broken (status : Status) (frames : List DownloadResponse) (working : bridge.foreground.isWorking = true)
      (answered : bridge.call.answer = some (.ok ()))
      (ready : bridge.call.replies.items = frames.map .ok ++ [.error status]) :
      Awaits bridge (if status.isTornDown then .ok (bridge.foreground.image ++ imageOf frames)
        else .error (.streamTransport status))

variable {spec : ImageSpec} {bridge next last : Bridge} {action : Action} {result : Except Fault Bytes}
  {before after : List Action}

namespace Awaits

theorem working (awaits : bridge.Awaits result) : bridge.foreground.isWorking = true := by
  cases awaits with
  | refused _ calling => rw [calling]; rfl
  | broken _ _ working => exact working

theorem unreturned (awaits : bridge.Awaits result) : bridge.result? = none := by
  have working := awaits.working
  cases foreground : bridge.foreground <;> simp [foreground, Foreground.isWorking, result?] at working ⊢

theorem keep (awaits : bridge.Awaits result) (foreground : next.foreground = bridge.foreground)
    (answer : next.call.answer = bridge.call.answer) (items : next.call.replies.items = bridge.call.replies.items) :
    next.Awaits result := by
  cases awaits with
  | refused status calling answered =>
    exact .refused status (foreground.trans calling) (answer.trans answered)
  | broken status frames working answered ready =>
    rw [← foreground] at working ⊢
    exact .broken status frames working (answer.trans answered) (items.trans ready)

theorem onCall {move : CallAction ThumbnailHeader} {call : ThumbnailCall} (awaits : bridge.Awaits result)
    (acted : bridge.call.act move = some call) : Awaits { bridge with call } result := by
  cases Call.move_of_act acted with
  | takeRequest | closeRequests | endReplies => exact awaits.keep rfl rfl rfl
  | answer answer =>
    have unanswered := Call.unanswered_of_act acted
    cases awaits with
    | refused _ _ answered | broken _ _ _ answered => cases unanswered.symm.trans answered
  | reply _ _ intact =>
    cases awaits with
    | refused status calling answered => exact .refused status calling answered
    | broken status frames _ _ ready => exact absurd (by simp [ready]) (intact status)

theorem act (awaits : bridge.Awaits result) (used : bridge.state ≠ .idle) (step : bridge.Step action next) :
    next.Awaits result \/ next.Settles (if bridge.storageFailed then none else some result) bridge.cancelled := by
  have working := awaits.working
  have leave (own : Option (Except Fault Bytes)) (held : next.call.held = false)
      (joining : next.foreground = .joining own bridge.cancelled)
      (same : own = if bridge.storageFailed then none else some result) :
      next.Awaits result \/ next.Settles (if bridge.storageFailed then none else some result) bridge.cancelled := by
    rw [← same]
    exact .inr (.joining held (step.used used) joining)
  -- The foreground waits for the encoder, so that no other move is one of its own.
  have foreign (foreground : Foreground) (same : bridge.foreground = foreground) (idle : foreground.isWorking = false) :
      next.Awaits result \/ next.Settles (if bridge.storageFailed then none else some result) bridge.cancelled := by
    rw [← same, working] at idle
    cases idle
  cases step with
  | abandon _ failed => exact leave none rfl rfl (by simp [failed])
  | refused status calling unfailed answered =>
    cases awaits with
    | refused _ _ known =>
      cases answered.symm.trans known
      exact leave _ rfl rfl (by simp [unfailed])
    | broken _ _ _ known => cases answered.symm.trans known
  | accepted calling _ answered =>
    cases awaits with
    | refused _ _ known => cases answered.symm.trans known
    | broken status frames _ known ready =>
      rw [calling]
      exact .inl (.broken status frames rfl known ready)
  | collect image frame rest collecting _ waiting =>
    cases awaits with
    | refused _ calling => cases collecting.symm.trans calling
    | broken status frames _ known ready =>
      cases frames with
      | nil => cases waiting.symm.trans ready
      | cons first others =>
        cases waiting.symm.trans ready
        have awaits : Awaits { bridge.withReplies (others.map .ok ++ [.error status]) with
            foreground := .collecting (image ++ (frame.datagram.map Datagram.payload).getD []) } _ :=
          .broken status others rfl known rfl
        refine .inl ?_
        simpa [collecting, Foreground.image, imageOf, List.append_assoc] using awaits
  | broken image status rest collecting unfailed waiting =>
    cases awaits with
    | refused _ calling => cases collecting.symm.trans calling
    | broken other frames _ _ ready =>
      cases frames with
      | nil =>
        cases waiting.symm.trans ready
        exact leave _ rfl rfl (by simp [unfailed, collecting, Foreground.image, imageOf])
      | cons first others => cases waiting.symm.trans ready
  | complete image collecting _ drained =>
    cases awaits with
    | refused _ calling => cases collecting.symm.trans calling
    | broken status frames _ _ ready => simp [drained] at ready
  | settle _ _ _ joining => exact foreign _ joining rfl
  | needless idle | begin _ _ idle => exact absurd idle used
  | start dialing | unreachable _ dialing => exact foreign _ dialing rfl
  | onCall _ _ _ acted => exact .inl (awaits.onCall acted)
  | stop | translate | offend | drain | put | queue | unread | again | cancel | dialed | undialed | opened | unopened
  | deliver | endStream => exact .inl (awaits.keep rfl rfl rfl)

end Awaits

theorem Settles.signals {own : Option (Except Fault Bytes)} {byCaller : Bool} (settles : bridge.Settles own byCaller)
    (cancelled storageFailed : Bool) : Settles own byCaller { bridge with cancelled, storageFailed } := by
  cases settles with
  | joining dropped used joining => exact .joining dropped used joining
  | returned dropped used pumped through returned state => exact .returned dropped used pumped through returned state

theorem Settles.settled {own : Option (Except Fault Bytes)} {byCaller : Bool} {returned : Except Fault Bytes}
    (settles : bridge.Settles own byCaller) (through : bridge.result? = some returned) :
    exists pumped, bridge.pump = .finished pumped /\ returned = settle own pumped := by
  cases settles with
  | joining _ _ joining => simp [result?, joining] at through
  | returned _ _ pumped ended settled => exact ⟨pumped, ended, by simpa [result?, settled, eq_comm] using through⟩

/-- The foreground waits for the result, or has left with it, or with nothing of its own after the storage read had
failed. -/
inductive Resolves (bridge : Bridge) (result : Except Fault Bytes) : Prop
  | awaits (awaits : bridge.Awaits result)
  | own (byCaller : Bool) (settles : bridge.Settles (some result) byCaller)
  | lost (byCaller : Bool) (settles : bridge.Settles none byCaller) (fault : Fault)
      (failed : bridge.pump = .finished (.error fault))

namespace Resolves

theorem act (before : bridge.Resolves result) (custody : Custody bridge)
    (announced : bridge.storageFailed = true -> exists fault, bridge.pump = .finished (.error fault))
    (step : bridge.Step action next) : next.Resolves result := by
  have stays (fault : Fault) (failed : bridge.pump = .finished (.error fault)) : next.pump = .finished (.error fault) :=
    step.ended failed (custody.undialing failed)
  cases before with
  | awaits awaits =>
    rcases awaits.act (custody.used (.inr (custody.started awaits.working))) step with further | settles
    next => exact .awaits further
    next =>
      cases failed : bridge.storageFailed with
      | false => exact .own bridge.cancelled (by simpa [failed] using settles)
      | true =>
        obtain ⟨fault, ended⟩ := announced failed
        exact .lost bridge.cancelled (by simpa [failed] using settles) fault (stays fault ended)
  | own byCaller settles => exact .own byCaller (settles.act step)
  | lost byCaller settles fault failed => exact .lost byCaller (settles.act step) fault (stays fault failed)

theorem signals (resolves : bridge.Resolves result) (cancelled storageFailed : Bool) :
    Resolves { bridge with cancelled, storageFailed } result := by
  cases resolves with
  | awaits awaits => exact .awaits (awaits.keep rfl rfl rfl)
  | own byCaller settles => exact .own byCaller (settles.signals cancelled storageFailed)
  | lost byCaller settles fault failed => exact .lost byCaller (settles.signals cancelled storageFailed) fault failed

theorem settled (resolves : bridge.Resolves result) {returned : Except Fault Bytes}
    (through : bridge.result? = some returned) : exists pumped, bridge.pump = .finished pumped /\
      (returned = settle (some result) pumped \/ exists fault, pumped = .error fault /\ returned = .error fault) := by
  cases resolves with
  | awaits awaits => cases awaits.unreturned.symm.trans through
  | own byCaller settles =>
    obtain ⟨pumped, ended, same⟩ := settles.settled through
    exact ⟨pumped, ended, .inl same⟩
  | lost byCaller settles fault failed =>
    obtain ⟨pumped, ended, same⟩ := settles.settled through
    cases ended.symm.trans failed
    exact ⟨_, failed, .inr ⟨fault, rfl, same⟩⟩

end Resolves

theorem settle_ok (result : Except Fault Bytes) : settle (some result) (.ok ()) = result := by
  cases result <;> rfl

theorem Returns.of_act (possible : bridge.act action = some next) (own : action.isOwn = true)
    (returns : next.Returns result) : bridge.Returns result := by
  obtain ⟨actions, last, rest, run, returned⟩ := returns
  exact ⟨action :: actions, last, by simp [own, rest], .act possible run, returned⟩

theorem returns_of_joining {byCaller : Bool} (heeds : Heeds bridge) (dropped : bridge.call.held = false)
    (cancelled : bridge.cancelled = true) (unfailed : bridge.storageFailed = false)
    (joining : bridge.foreground = .joining (some result) byCaller) : bridge.Returns result := by
  have finish (bridge : Bridge) (joining : bridge.foreground = .joining (some result) byCaller)
      (through : bridge.pump = .finished (.ok ())) : bridge.Returns result := by
    refine ⟨[.foreground], bridge.finish result byCaller, rfl, .act ?_ (.done _), rfl⟩
    rw [act_settle joining through, settle_ok]
  cases pump : bridge.pump with
  | unstarted => cases dropped.symm.trans (heeds.fresh pump).1
  | finished outcome =>
    cases outcome with
    | ok _ => exact finish bridge joining pump
    | error fault => cases unfailed.symm.trans (heeds.announced.2 ⟨fault, pump⟩)
  | dialing | opening | reading | sending | waiting =>
    -- The token is raised, and the storage task looks at it before anything else.
    have stopped := act_stop (by rw [pump]; rfl) cancelled
    exact (finish (bridge.endPump (.ok ())) joining rfl).of_act stopped rfl

theorem returns_of_leaving (unread : Bridge) (heeds : Heeds bridge) (unfailed : bridge.storageFailed = false)
    (possible : bridge.act .foreground = some (unread.leaveCall (some result)))
    (same : unread.storageFailed = bridge.storageFailed) : bridge.Returns result :=
  (returns_of_joining (heeds.act (step_of_act possible)) rfl rfl (same.trans unfailed) rfl).of_act possible rfl

theorem returns_of_collecting {status : Status} {frames : List DownloadResponse} {image : Bytes}
    (heeds : Heeds bridge) (unfailed : bridge.storageFailed = false)
    (collecting : bridge.foreground = .collecting image)
    (ready : bridge.call.replies.items = frames.map .ok ++ [.error status]) :
    bridge.Returns (if status.isTornDown then .ok (image ++ imageOf frames)
      else .error (.streamTransport status)) := by
  -- By induction on the frames that stand before the status, with what is collected of the image growing by each.
  induction frames generalizing bridge image with
  | nil =>
    refine returns_of_leaving (bridge.withReplies []) heeds unfailed ?_ rfl
    rw [act_workForeground (by rw [collecting]; rfl) unfailed]
    simp [workForeground, collecting, Bridge.collect, Source.next, ready, withReplies, imageOf]
  | cons frame rest ih =>
    let payload := (frame.datagram.map Datagram.payload).getD []
    have possible : bridge.act .foreground = some { bridge.withReplies (rest.map .ok ++ [.error status]) with
        foreground := .collecting (image ++ payload) } := by
      rw [act_workForeground (by rw [collecting]; rfl) unfailed]
      cases carried : frame.datagram <;>
        simp [workForeground, collecting, Bridge.collect, Source.next, ready, withReplies, payload, carried]
    have returns := (ih (heeds.act (step_of_act possible)) unfailed rfl rfl).of_act possible rfl
    simpa [imageOf, payload, List.append_assoc] using returns

theorem Awaits.returns (awaits : bridge.Awaits result) (heeds : Heeds bridge)
    (unfailed : bridge.storageFailed = false) : bridge.Returns result := by
  cases awaits with
  | refused status calling answered =>
    refine returns_of_leaving bridge heeds unfailed ?_ rfl
    rw [act_workForeground (by rw [calling]; rfl) unfailed]
    simp [workForeground, calling, answered]
  | broken status frames working answered ready =>
    cases foreground : bridge.foreground with
    | collecting image => exact returns_of_collecting heeds unfailed foreground ready
    | calling =>
      have possible : bridge.act .foreground = some { bridge with foreground := .collecting [] } := by
        rw [act_workForeground working unfailed]
        simp [workForeground, foreground, answered]
      exact (returns_of_collecting (heeds.act (step_of_act possible)) unfailed rfl ready).of_act possible rfl
    | unused | dialing | joining | returned => rw [foreground] at working; cases working

end Bridge

namespace Tasks

variable {tasks next last : Tasks} {action : Action} {result : Except Fault Bytes}

theorem Step.announces (step : tasks.Step action next) (custody : Bridge.Custody tasks.bridge)
    (before : tasks.bridge.Announces) : next.bridge.Announces := by
  cases step with
  | watch | listen | rest | wait | abandon => exact before
  | stop running =>
    show (tasks.bridge.endPump (.ok ())).Announces
    exact before.endPump running
  | pump _ bridge _ _ late =>
    have lowered : (tasks.bridge.withCancelled false).Announces := before
    have moved := lowered.act (custody.signals false tasks.bridge.storageFailed) late.step
    exact moved
  | foreground bridge _ flag step =>
    have pump : bridge.pump = tasks.bridge.pump := step.pump
    show bridge.storageFailed = true <-> exists fault, bridge.pump = .finished (.error fault)
    rw [flag, pump]
    exact before
  | aside _ _ _ step => exact before.act custody step

theorem Step.resolves (step : tasks.Step action next) (custody : Bridge.Custody tasks.bridge)
    (announces : tasks.bridge.Announces) (before : tasks.bridge.Resolves result) : next.bridge.Resolves result := by
  cases step with
  | watch | listen | rest | wait => exact before
  | stop running raised => exact before.act custody announces.1 (.stop running raised)
  | abandon working failed => exact before.act custody announces.1 (.abandon working failed)
  | pump _ bridge _ _ late =>
    have lowered := before.signals false tasks.bridge.storageFailed
    have moved := lowered.act (custody.signals false tasks.bridge.storageFailed) announces.1 late.step
    exact moved.signals bridge.cancelled bridge.storageFailed
  | foreground bridge _ _ step =>
    -- A foreground that has looked goes on as if the storage read had not failed.
    have unheard := before.signals tasks.bridge.cancelled false
    have moved := unheard.act (custody.signals tasks.bridge.cancelled false) (fun failed => (by cases failed)) step
    exact moved.signals bridge.cancelled bridge.storageFailed
  | aside _ _ _ step => exact before.act custody announces.1 step

structure Lost (tasks : Tasks) (result : Except Fault Bytes) (fault : Fault) : Prop where
  failed : tasks.bridge.pump = .finished (.error fault)
  unlooked : tasks.bridge.Awaits result /\ tasks.foregroundLooked = false \/
    exists byCaller, tasks.bridge.Settles none byCaller

theorem Step.lost {fault : Fault} (step : tasks.Step action next) (custody : Bridge.Custody tasks.bridge)
    (announces : tasks.bridge.Announces) (before : tasks.Lost result fault) : next.Lost result fault := by
  have failed := before.failed
  have announced := announces.2 ⟨fault, failed⟩
  have stopped : ¬ tasks.bridge.pump.isRunning = true := by simp [failed, Pump.isRunning]
  have moves {action : Bridge.Action} {bridge : Bridge} {foregroundLooked : Bool}
      (step : tasks.bridge.Step action bridge)
      (unlooked : tasks.foregroundLooked = false -> foregroundLooked = false) :
      Lost { tasks with bridge, foregroundLooked } result fault := by
    refine ⟨step.ended failed (custody.undialing failed), ?_⟩
    rcases before.unlooked with ⟨awaits, looked⟩ | ⟨byCaller, settles⟩
    next =>
      rcases awaits.act (custody.used (.inr (custody.started awaits.working))) step with further | settles
      next => exact .inl ⟨further, unlooked looked⟩
      next => exact .inr ⟨tasks.bridge.cancelled, by simpa [announced] using settles⟩
    next => exact .inr ⟨byCaller, settles.act step⟩
  cases step with
  | watch | rest => exact ⟨failed, before.unlooked⟩
  | wait => exact ⟨failed, before.unlooked.imp_left fun waits => ⟨waits.1, rfl⟩⟩
  | stop running => exact absurd running stopped
  | pump _ _ _ _ late => exact absurd late.running stopped
  | listen unfailed => cases unfailed.symm.trans announced
  | abandon working failed => exact moves (.abandon working failed) fun _ => rfl
  | aside _ _ _ step => exact moves step id
  | foreground bridge looked _ step =>
    rcases before.unlooked with ⟨-, unlooked⟩ | ⟨byCaller, settles⟩
    next => cases unlooked.symm.trans looked
    next =>
      have ended : bridge.pump = .finished (.error fault) := step.pump.trans failed
      refine ⟨ended, .inr ⟨byCaller, ?_⟩⟩
      have moved := (settles.signals tasks.bridge.cancelled false).act step
      exact moved.signals bridge.cancelled bridge.storageFailed

theorem concludes_of_awaits {bridge : Bridge} (heeds : Bridge.Heeds bridge) (awaits : bridge.Awaits result) :
    Concludes { bridge } result := by
  have ordered (after : List Action) (last : Tasks) (later : follow act { bridge } after = some last) :
      Bridge.Custody last.bridge /\ last.bridge.Announces := by
    refine follow_keeps (fun _ (last : Tasks) => Bridge.Custody last.bridge /\ last.bridge.Announces)
      ⟨heeds.toCustody, heeds.announced⟩ ?_ later
    rintro _ _ _ _ _ ⟨custody, announces⟩ possible
    have step := step_of_act possible
    exact ⟨step.custody custody, step.announces custody announces⟩
  refine ⟨fun after last returned later through => ?_, fun _ fault failed after last returned later through => ?_⟩
  next =>
    have resolves : last.bridge.Resolves result := by
      refine follow_keeps (fun _ (last : Tasks) => last.bridge.Resolves result) (.awaits awaits) ?_ later
      intro _ _ _ _ reached before possible
      obtain ⟨custody, announces⟩ := ordered _ _ reached
      exact (step_of_act possible).resolves custody announces before
    exact resolves.settled through
  next =>
    have lost : last.Lost result fault := by
      refine follow_keeps (fun _ (last : Tasks) => last.Lost result fault) ⟨failed, .inl ⟨awaits, rfl⟩⟩ ?_ later
      intro _ _ _ _ reached before possible
      obtain ⟨custody, announces⟩ := ordered _ _ reached
      exact (step_of_act possible).lost custody announces before
    rcases lost.unlooked with ⟨awaits, -⟩ | ⟨byCaller, settles⟩
    next => cases awaits.unreturned.symm.trans through
    next =>
      obtain ⟨pumped, ended, rfl⟩ := settles.settled through
      cases ended.symm.trans lost.failed
      rfl

end Tasks

namespace Bridge

variable {spec : ImageSpec} {bridge : Bridge} {result : Except Fault Bytes} {before : List Action}

theorem concludes_of_awaits (run : Run { spec } before bridge) (awaits : bridge.Awaits result) :
    bridge.Concludes result := by
  have heeds := heeds_of_run run
  refine ⟨awaits.returns heeds, ?_, ?_, Tasks.concludes_of_awaits heeds awaits⟩
  next =>
    intro after last returned later through unfailed
    have announced := (heeds_of_run (run.append later)).announced
    have resolves : last.Resolves result := later.keeps (fun _ last => last.Resolves result) (.awaits awaits)
      fun _ _ _ _ reached before possible =>
        have heeds := heeds_of_run (run.append reached)
        before.act heeds.toCustody heeds.announced.1 (step_of_act possible)
    obtain ⟨pumped, ended, own | ⟨fault, rfl, -⟩⟩ := resolves.settled through
    next =>
      cases pumped with
      | ok _ => exact own.trans (settle_ok result)
      | error fault => cases unfailed.symm.trans (announced.2 ⟨fault, ended⟩)
    next => cases unfailed.symm.trans (announced.2 ⟨fault, ended⟩)
  next =>
    intro after last returned fault later through failed
    exact (heeds_of_run (run.append later)).returned_fault through failed

end Bridge

end VideoRelay
