import VideoRelay.Proofs.Bridge.EncoderFailure
import VideoRelay.Proofs.Bridge.HalfClose
import VideoRelay.Proofs.Bridge.Mirroring

set_option autoImplicit false

namespace VideoRelay

open Wire

namespace Bridge

def Action.endsCall : Action -> Bool
  | onCall action => action.endsCall
  | _ => false

/-- Nothing keeps the bridge from its result: it makes a bounded number of moves of its own, in whatever order, and has
its result when none is left. -/
structure Released (bridge : Bridge) : Prop where
  returns : exists result, bridge.Returns result
  bounded : exists bound, forall moves last, moves.all Action.isOwn = true -> Run bridge moves last ->
    moves.length <= bound
  settled : forall moves last, moves.all Action.isOwn = true -> Run bridge moves last ->
    (forall action, action.isOwn = true -> last.act action = none) -> exists result, last.result? = some result

structure Stands (actions : List Action) (bridge : Bridge) : Prop where
  started : .dialedEncoder (.ok ()) ∈ actions -> bridge.pump ≠ .unstarted
  begun : bridge.pump ≠ .unstarted -> bridge.foreground ≠ .unused
  joining : forall result byCaller, bridge.foreground = .joining result byCaller -> bridge.cancelled = true
  returned : forall result, bridge.result? = some result -> bridge.pump.isRunning = false
  accepted : bridge.call.replies.ended = true \/ bridge.call.replies.items ≠ [] ->
    bridge.call.answer = some (.ok ())
  ceased : (exists action, action ∈ actions /\ action.endsCall = true) ->
    bridge.pump ≠ .unstarted /\ bridge.call.isOver = true

variable {spec : ImageSpec} {bridge next last : Bridge} {action : Action} {actions done : List Action}

theorem Step.started (step : bridge.Step action next) (started : bridge.pump ≠ .unstarted) :
    next.pump ≠ .unstarted := by
  cases step with
  | stop | translate | offend | drain | put | queue | unread | dialed | undialed | opened | unopened | start =>
    rintro ⟨⟩
  | _ => exact started

theorem Step.ceased (step : bridge.Step action next) (ceased : bridge.call.isOver = true) :
    next.call.isOver = true := by
  cases step with
  | abandon | refused | broken | complete => rfl
  -- What stands for the end of a call is a status, and this reply is none.
  | collect _ _ rest _ _ ready => simpa [Call.isOver, Call.isRefused, withReplies, ready] using ceased
  | onCall _ _ _ acted => exact Call.over_of_act acted ceased
  | _ => exact ceased

theorem Step.ends_call (step : bridge.Step action next) (ends : action.endsCall = true) :
    next.pump ≠ .unstarted /\ next.call.isOver = true := by
  cases step with
  | onCall move call begun acted =>
    refine ⟨fun unstarted => ?_, ?_⟩
    next =>
      have unstarted : bridge.pump = .unstarted := unstarted
      simp [callOpened, unstarted] at begun
    next => exact Call.over_of_endsCall acted ends
  | _ => cases ends

namespace Stands

theorem act (before : Stands done bridge) (custody : Custody bridge) (step : bridge.Step action next) :
    Stands (done ++ [action]) next := by
  have ceased (told : exists ending, ending ∈ done ++ [action] /\ ending.endsCall = true) :
      next.pump ≠ .unstarted /\ next.call.isOver = true := by
    obtain ⟨ending, among, ends⟩ := told
    rcases List.mem_append.1 among with earlier | now
    next =>
      obtain ⟨started, ceased⟩ := before.ceased ⟨ending, earlier, ends⟩
      exact ⟨step.started started, step.ceased ceased⟩
    next => exact step.ends_call (List.mem_singleton.1 now ▸ ends)
  have started (told : Action.dialedEncoder (.ok ()) ∈ done ++ [action]) : next.pump ≠ .unstarted := by
    rcases List.mem_append.1 told with earlier | now
    next => exact step.started (before.started earlier)
    next =>
      obtain rfl := List.mem_singleton.1 now
      cases step
      rintro ⟨⟩
  have running (pump : bridge.pump.isRunning = true) : bridge.foreground ≠ .unused :=
    before.begun (Pump.started_of_isRunning pump)
  -- A storage task can run only as long as nothing was returned, and only a dialed bridge has one.
  have unreturned (pump : bridge.pump.isRunning = true) (result : Except Fault Bytes)
      (returned : bridge.result? = some result) : False := by
    cases (before.returned result returned).symm.trans pump
  refine ⟨started, ?_, ?_, ?_, ?_, ceased⟩
  next =>
    cases step with
    | abandon | accepted | refused | collect | broken | complete | settle | needless | begin | start | unreachable =>
      rintro _ ⟨⟩
    | stop pump => exact fun _ => running pump
    | put _ offered | queue _ offered | unread _ offered => exact fun _ => running (Pump.isRunning_of_request offered)
    | translate _ _ _ _ pump | offend _ _ _ pump | drain pump | dialed pump | undialed _ pump | opened pump
    | unopened _ pump => exact fun _ => running (by rw [pump]; rfl)
    | again | cancel | deliver | endStream | onCall => exact before.begun
  next =>
    cases step with
    | abandon | refused | broken | complete | cancel => exact fun _ _ _ => rfl
    | accepted | collect | settle | needless | begin | start | unreachable => rintro _ _ ⟨⟩
    | _ => exact before.joining
  next =>
    cases step with
    | abandon | accepted | refused | collect | broken | complete | begin | start => rintro _ ⟨⟩
    | settle _ _ _ _ through => exact fun _ _ => by simp [finish, through, Pump.isRunning]
    | needless idle =>
      refine fun _ _ => Bool.eq_false_iff.2 fun pump => ?_
      exact custody.used (.inr (Pump.started_of_isRunning pump)) idle
    | unreachable _ dialing => exact fun _ _ => by simp [finish, custody.unstarted dialing, Pump.isRunning]
    | stop | offend | drain | unread | undialed | unopened => exact fun _ _ => rfl
    | put _ offered | queue _ offered =>
      exact fun result returned => (unreturned (Pump.isRunning_of_request offered) result returned).elim
    | translate _ _ _ _ pump | dialed pump | opened pump =>
      exact fun result returned => (unreturned (by rw [pump]; rfl) result returned).elim
    | again | cancel | deliver | endStream | onCall => exact before.returned
  next =>
    cases step with
    | collect _ _ rest _ _ ready | broken _ _ rest _ _ ready =>
      exact fun _ => before.accepted (.inr (by simp [ready]))
    | onCall move call _ acted =>
      cases Call.move_of_act acted with
      | takeRequest | closeRequests => exact before.accepted
      | answer =>
        have unanswered := Call.unanswered_of_act acted
        exact fun told => by cases unanswered.symm.trans (before.accepted told)
      | reply =>
        have answered := Call.accepted_of_reply acted
        exact fun _ => answered
      | endReplies =>
        have answered := Call.accepted_of_canReply (Call.able_of_endReplies acted)
        exact fun _ => answered
    | _ => exact before.accepted

end Stands

theorem stands_of_run (run : Run { spec } actions bridge) : Stands actions bridge := by
  refine run.keeps Stands ?_ fun _ _ _ _ earlier before possible =>
    before.act (custody_of_run earlier) (step_of_act possible)
  exact ⟨fun told => (by cases told), fun started => absurd rfl started, fun _ _ joining => (by cases joining),
    fun _ _ => rfl, fun told => (by simp at told), fun ⟨_, among, _⟩ => (by cases among)⟩

theorem foreground_of_freed (opened : Opened actions bridge) (stands : Stands actions bridge)
    (custody : Custody bridge) (working : bridge.foreground.isWorking = true)
    (freed : bridge.storageFailed = true \/ bridge.call.isOver = true) : bridge.act .foreground ≠ none := by
  cases failed : bridge.storageFailed with
  | true => simp [act_abandon working failed]
  -- The call is over then, and the foreground finds the refusal, a status or the end of the replies.
  | false =>
    have ceased := freed.resolve_left (by simp [failed])
    have held := (custody.held (custody.started working)).trans working
    have accepts (intact : bridge.call.isRefused = false) : bridge.call.answer = some (.ok ()) /\
        (bridge.call.replies.items = [] -> bridge.call.replies.ended = true) := by
      simp only [Call.isOver, held, intact, Bool.not_true, Bool.or_false, Bool.false_or, Bool.or_eq_true] at ceased
      refine ⟨stands.accepted (ceased.imp_right ?_), fun drained => ceased.resolve_right (by simp [drained])⟩
      rintro broken drained
      simp [drained] at broken
    rw [act_workForeground working failed]
    cases foreground : bridge.foreground with
    | unused | dialing | joining | returned => rw [foreground] at working; cases working
    | calling =>
      cases refused : bridge.call.isRefused with
      | true =>
        cases answer : bridge.call.answer <;> simp [Call.isRefused, workForeground, foreground, answer] at refused ⊢
      | false => simp [workForeground, foreground, (accepts refused).1]
    | collecting image =>
      have accepted := opened.collecting image foreground
      obtain ⟨-, ended⟩ := accepts (by simp [Call.isRefused, accepted])
      cases waiting : bridge.call.replies.items with
      | nil => simp [workForeground, foreground, Bridge.collect, Source.next, waiting, ended waiting]
      | cons reply rest => cases reply <;> simp [workForeground, foreground, Bridge.collect, Source.next, waiting]

theorem returned_of_stuck (run : Run { spec } actions bridge)
    (freed : bridge.storageFailed = true \/ bridge.pump ≠ .unstarted /\ bridge.call.isOver = true)
    (stuck : forall action, action.isOwn = true -> bridge.act action = none) :
    exists result, bridge.result? = some result := by
  have custody := custody_of_run run
  have stands := stands_of_run run
  have started : bridge.pump ≠ .unstarted := by
    refine freed.elim (fun failed unstarted => ?_) And.left
    obtain ⟨fault, through⟩ := (heeds_of_run run).announced.1 failed
    cases unstarted.symm.trans through
  cases foreground : bridge.foreground with
  | returned result => exact ⟨result, by simp [result?, foreground]⟩
  | unused => exact absurd foreground (stands.begun started)
  | dialing => exact absurd (custody.unstarted foreground) started
  | calling | collecting =>
    refine absurd (stuck .foreground rfl) (foreground_of_freed (opened_of_run run) stands custody ?_ ?_)
    next => rw [foreground]; rfl
    next => exact freed.imp_right And.right
  | joining own byCaller =>
    -- The token is raised, so that a storage task that has not ended can.
    have cancelled := stands.joining own byCaller foreground
    cases pump : bridge.pump with
    | unstarted => exact absurd pump started
    | finished => cases (stuck .foreground rfl).symm.trans (act_settle foreground pump)
    | dialing | opening | reading | sending | waiting =>
      cases (stuck .pump rfl).symm.trans (act_stop (by rw [pump]; rfl) cancelled)

def chores (bridge : Bridge) : Nat :=
  let foreground := match bridge.foreground with
    | .calling => bridge.call.replies.items.length + 3
    | .collecting _ => bridge.call.replies.items.length + 2
    | .joining _ _ => 1
    | .unused | .dialing | .returned _ => 0
  foreground + bridge.backlog

theorem Step.lowers {messages : List StorageMessage} {sent : List GenerateThumbnailRequest}
    (mirrors : Mirrors spec messages sent bridge)
    (own : action.isOwn = true) (step : bridge.Step action next) : next.chores < bridge.chores := by
  cases action with
  | pump =>
    have smaller := (mirrors.shrinks .pump step).1
    have foreground : next.foreground = bridge.foreground := by cases step <;> rfl
    have replies : next.call.replies = bridge.call.replies := by cases step <;> rfl
    simp only [chores, foreground, replies]
    omega
  | foreground =>
    cases step with
    | abandon working =>
      cases foreground : bridge.foreground with
      | calling | collecting => simp [chores, foreground, leaveCall, backlog]
      | unused | dialing | joining | returned => rw [foreground] at working; cases working
    | accepted calling => simp [chores, calling, backlog]
    | refused _ calling => simp [chores, calling, leaveCall, backlog]
    | collect _ _ _ collecting _ ready => simp [chores, collecting, ready, withReplies, backlog]
    | broken _ _ _ collecting _ ready => simp [chores, collecting, ready, withReplies, leaveCall, backlog]
    | complete _ collecting => simp [chores, collecting, leaveCall, backlog]
    | settle _ _ _ joining => simp [chores, joining, finish, backlog]
  | _ => cases own

theorem chores_of_own {moves : List Action} (run : Run { spec } actions bridge)
    (own : moves.all Action.isOwn = true) (later : Run bridge moves last) :
    moves.length + last.chores <= bridge.chores := by
  refine later.keeps (fun moves last => moves.all Action.isOwn = true -> moves.length + last.chores <= bridge.chores)
    (by simp) ?_ own
  intro moves middle action next reached spent possible own
  obtain ⟨earlier, now⟩ : moves.all Action.isOwn = true /\ action.isOwn = true := by simpa using own
  have lower := (step_of_act possible).lowers (mirrors_of_run (run.append reached)) now
  have before := spent earlier
  simp only [List.length_append, List.length_singleton]
  omega

theorem isFreed_of_run {moves : List Action} (run : Run { spec } actions bridge)
    (freed : bridge.storageFailed = true \/ bridge.pump ≠ .unstarted /\ bridge.call.isOver = true)
    (later : Run bridge moves last) :
    last.storageFailed = true \/ last.pump ≠ .unstarted /\ last.call.isOver = true := by
  rcases freed with failed | ⟨started, ceased⟩
  next =>
    obtain ⟨fault, through⟩ := (heeds_of_run run).announced.1 failed
    exact .inl ((heeds_of_run (run.append later)).announced.2 ⟨fault, stays_ended run through later⟩)
  next =>
    refine .inr (later.keeps (fun _ last => last.pump ≠ .unstarted /\ last.call.isOver = true) ⟨started, ceased⟩ ?_)
    rintro _ _ _ _ _ ⟨started, ceased⟩ possible
    have step := step_of_act possible
    exact ⟨step.started started, step.ceased ceased⟩

theorem released_of_freed (run : Run { spec } actions bridge)
    (freed : bridge.storageFailed = true \/ bridge.pump ≠ .unstarted /\ bridge.call.isOver = true) :
    bridge.Released := by
  have settled (moves : List Action) (last : Bridge) (later : Run bridge moves last)
      (stuck : forall action, action.isOwn = true -> last.act action = none) :
      exists result, last.result? = some result :=
    returned_of_stuck (run.append later) (isFreed_of_run run freed later) stuck
  refine ⟨?_, ⟨bridge.chores, fun moves last own later => ?_⟩, fun moves last _ later => settled moves last later⟩
  next =>
    have lowers (state : Bridge) (action : Action) (next : Bridge) (before : exists moves, Run bridge moves state)
        (own : action.isOwn = true) (possible : state.act action = some next) :
        (exists moves, Run bridge moves next) /\ next.chores < state.chores := by
      obtain ⟨moves, toState⟩ := before
      refine ⟨⟨moves ++ [action], run_of_follow (follow_snoc toState.reached possible)⟩, ?_⟩
      exact (step_of_act possible).lowers (mirrors_of_run (run.append toState)) own
    have exhausted := follow_exhausts (fun action : Action => action.isOwn = true)
      (fun state : Bridge => exists moves, Run bridge moves state) chores lowers ⟨[], .done bridge⟩
    obtain ⟨moves, last, own, reached, -, stuck⟩ := exhausted
    have later := run_of_follow reached
    obtain ⟨result, returned⟩ := settled moves last later stuck
    exact ⟨result, moves, last, by simpa using own, later, returned⟩
  next =>
    have spent := chores_of_own run own later
    omega

/-- A bridge waits for no peer that it does not need any more: neither for storage once the encoder's call has ended,
wherever the storage task stands, nor for the encoder once the storage read has failed. It never leaves a storage task
behind. -/
theorem peers_released (run : Run { spec } actions bridge) :
    ((exists action, action ∈ actions /\ action.endsCall = true) -> bridge.Released) /\
      (forall fault, bridge.pump = .finished (.error fault) -> bridge.Released) /\
      (forall result, bridge.result? = some result -> .dialedEncoder (.ok ()) ∈ actions ->
        exists outcome, bridge.pump = .finished outcome) := by
  have stands := stands_of_run run
  refine ⟨fun ended => released_of_freed run (.inr (stands.ceased ended)), fun fault failed => ?_,
    fun result returned dialed => ?_⟩
  next => exact released_of_freed run (.inl ((heeds_of_run run).announced.2 ⟨fault, failed⟩))
  next =>
    have stopped := stands.returned result returned
    cases pump : bridge.pump with
    | unstarted => exact absurd pump (stands.started dialed)
    | finished outcome => exact ⟨outcome, rfl⟩
    | dialing | opening | reading | sending | waiting => rw [pump] at stopped; cases stopped

def refusedEarly : List Action :=
  [.generate ["a"], .dialedEncoder (.ok ()), .dialedStorage (.ok ()), .onCall (.answer (.error brokenPipe))]

theorem peers_freed_early : exists early failed last, Run {} refusedEarly early /\ early.pump = .opening /\
    early.Released /\ Run {} (clipReading ++ [.pump]) failed /\ failed.foreground = .calling /\ failed.Released /\
    Run {} (clipReading ++ [.pump, .foreground, .foreground]) last /\
    last.result? = some (.error (.streamTransport diskFailure)) /\ exists outcome, last.pump = .finished outcome := by
  obtain ⟨early, failed, last, refused, opening, broken, pumped, calling, gone, returned⟩ :
      exists early failed last, follow act {} refusedEarly = some early /\ early.pump = .opening /\
        follow act {} (clipReading ++ [.pump]) = some failed /\
        failed.pump = .finished (.error (.streamTransport diskFailure)) /\ failed.foreground = .calling /\
        follow act {} (clipReading ++ [.pump, .foreground, .foreground]) = some last /\
        last.result? = some (.error (.streamTransport diskFailure)) := ⟨_, _, _, rfl, rfl, rfl, rfl, rfl, rfl, rfl⟩
  have earlyReleased := (peers_released (run_of_follow refused)).1 ⟨_, List.mem_of_getLast? rfl, rfl⟩
  have failedReleased := (peers_released (run_of_follow broken)).2.1 _ pumped
  have ended := (peers_released (run_of_follow gone)).2.2 _ returned (by simp [clipReading])
  exact ⟨early, failed, last, run_of_follow refused, opening, earlyReleased, run_of_follow broken, calling,
    failedReleased, run_of_follow gone, returned, ended⟩

end Bridge

end VideoRelay
