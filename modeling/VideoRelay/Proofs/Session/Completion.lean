import VideoRelay.Proofs.Session.Upload
import VideoRelay.Proofs.Session.Waiting
import VideoRelay.Proofs.Session.Work

set_option autoImplicit false

namespace VideoRelay

open Wire

structure Sink.Settled (sink : Sink) : Prop where
  dropped : sink.body.senders = 0
  decided : sink.head.isSome = true

theorem Sink.settled_of_last {accepted : List Bytes} {sink : Sink} (alone : sink.body.senders = 1)
    (ruled : Ruled accepted sink.commit sink.head) : sink.dropHandle.Settled := by
  refine ⟨by simp [Channel.dropSender, alone], ?_⟩
  rw [dropHandle_eq]
  by_cases pending : sink.commit = .pending
  next => simp [alone, pending]
  next => simp [pending, ruled.isSome pending]

namespace Session

variable {session next last : Session} {action : Action} {transcoder : Transcoder} {emitter : Emitter}
  {actions : List Action} {accepted written : List Bytes} {heads : List ResponseHead} {frames : List Bytes}

theorem emptied_senders (answered : session.outlet.Answered written heads frames) (going : session.isOver = false) :
    session.emptied.sink.body.senders = 1 := by
  have senders : session.pipeline.sink.body.senders = if session.isEmitting then 2 else 1 := answered.senders going
  -- One handle is the session's own; the emitter has given back the other, or it goes with what is dropped of it.
  cases emitted : session.emitted with
  | some outcome =>
    have settled : session.isEmitting = false := by simp [isEmitting, emitted]
    rw [settled] at senders
    simpa [Session.emptied, emitted, sink] using senders
  | none =>
    rw [show session.emptied = session.dropEmitter by simp [Session.emptied, emitted]]
    cases mode : session.emitter with
    | passthrough stored =>
      have emitting : session.isEmitting = true := by simp [isEmitting, going, emitted, mode]
      rw [emitting] at senders
      simp [dropEmitter, mode, sink, Channel.dropSender, Channel.withdraw_senders, senders]
    | transcoding transcoder =>
      have emitting : session.isEmitting = transcoder.fetcher.outcome?.isNone := by
        simp [isEmitting, going, emitted, mode]
      rw [emitting] at senders
      by_cases fed : transcoder.feeder.outcome?.isSome = true <;>
        cases fetched : transcoder.fetcher.outcome? <;>
        simp [dropEmitter, mode, sink, Transcoder.drop, Transcoder.releaseFeeder, Transcoder.releaseFetcher,
          Channel.dropSender, Channel.withdraw_senders, senders, fed, fetched]

theorem Step.settles (step : session.Step action next) (before : session.isOver = true -> session.sink.Settled)
    (answered : session.outlet.Answered written heads frames) (accounts : session.outlet.Accounts accepted written)
    (through : next.isOver = true) : next.sink.Settled := by
  have still := step.keepsOver
  have ruled : Ruled accepted session.sink.commit session.sink.head := accounts.ruled
  cases step with
  | forward _ going | emit _ _ going | feed _ _ _ going | fetch _ _ _ going | abort _ going =>
    exact absurd (going.symm.trans ((still (by simp)).symm.trans through)) (by decide)
  | join going _ emitted =>
    have alone := emptied_senders answered going
    rw [show session.emptied = session by simp [Session.emptied, emitted]] at alone
    exact Sink.settled_of_last alone ruled
  | leave going =>
    rw [session.cutShort_ended.sink]
    exact Sink.settled_of_last (emptied_senders answered going) (ruled.release session.emptied_dropped.sink)
  | deliver | endStream | onCall | receiveHead | takeText => exact before through
  | receiveFault | takeChunk | disconnect =>
    obtain ⟨dropped, decided⟩ := before through
    exact ⟨dropped, decided⟩

theorem settled_of_run (fresh : emitter.Fresh) (run : Run (start emitter) actions session)
    (through : session.isOver = true) : session.sink.Settled := by
  refine run.keeps (fun _ session => session.isOver = true -> session.sink.Settled) (fun ended => (by cases ended)) ?_
    through
  intro actions session action next run before possible
  exact (step_of_act possible).settles before (answered_of_run fresh run).2 (accounts_of_run fresh run)

def Action.windsDown : Action -> Bool
  | forward | feed | abort => true
  | _ => false

def HasReturned (session : Session) : Prop :=
  session.emitted.isSome = true \/
    exists transcoder, session.emitter = .transcoding transcoder /\ transcoder.fetcher.outcome?.isSome = true

theorem Step.keepsReturned (step : session.Step action next) (winding : action.windsDown = true)
    (returned : session.HasReturned) : next.HasReturned := by
  cases step with
  | forward _ _ moved =>
    unfold HasReturned
    rw [moved.emitter.1, moved.emitter.2]
    exact returned
  | feed transcoder after pipeline _ mode _ running moved =>
    rcases returned with emitted | ⟨other, same, fetched⟩
    next => simp [running] at emitted
    next =>
      cases mode.symm.trans same
      exact .inr ⟨after, afterLeg_emitter _ _ _, by rw [moved.call.1]; exact fetched⟩
  | abort => exact .inl rfl
  | emit | fetch | join | leave | deliver | endStream | onCall | receiveHead | receiveFault | takeChunk | takeText |
    disconnect => cases winding

theorem returned_of_wound (returning : session.Returning)
    (feeding : forall transcoder, session.emitter = .transcoding transcoder -> Feeding session transcoder)
    (going : session.isOver = false) (returned : session.HasReturned)
    (wound : forall action, action.windsDown = true -> session.act action = none) :
    session.forwarded?.isSome = true /\ session.emitted.isSome = true := by
  have emitted : session.emitted.isSome = true := by
    rcases returned with emitted | ⟨transcoder, mode, fetched⟩
    next => exact emitted
    next =>
      cases running : session.emitted with
      | some outcome => rfl
      | none =>
        obtain ⟨-, feeds⟩ := feed_of_stuck mode running going (wound .abort rfl) (wound .feed rfl)
        exact absurd feeds (feed_of_fetched returning (feeding transcoder mode) running going fetched)
  refine ⟨?_, emitted⟩
  have forwards := wound .forward rfl
  simp only [act, own, going, Bool.false_eq_true, ↓reduceIte] at forwards
  exact forwarded_of_stuck (returning.closed emitted) forwards

theorem winds_down (fresh : emitter.Fresh) (run : Run (start emitter) actions session)
    (going : session.isOver = false) (returned : session.HasReturned) :
    exists more last, Run session more last /\ (forall action, action ∈ more -> action.windsDown = true) /\
      last.forwarded?.isSome = true /\ last.emitted.isSome = true := by
  let winding (session : Session) : Prop :=
    Reachable (start emitter) session /\ session.isOver = false /\ session.HasReturned
  have shrinks (session : Session) (action : Action) (next : Session) (before : winding session)
      (winds : action.windsDown = true) (possible : session.act action = some next) :
      winding next /\ next.work < session.work := by
    obtain ⟨⟨done, run⟩, going, returned⟩ := before
    have step := step_of_act possible
    have spent := spends_of_run fresh run possible
    refine ⟨⟨⟨_, run.append (.act possible (.done next))⟩, ?_, step.keepsReturned winds returned⟩, ?_⟩
    next => exact (step.keepsOver (by constructor <;> rintro rfl <;> cases winds)).trans going
    next =>
      cases action with
      | forward | feed | abort => exact spent
      | _ => cases winds
  obtain ⟨more, last, winds, reached, ⟨⟨done, further⟩, still, ended⟩, wound⟩ :=
    follow_exhausts (fun action : Action => action.windsDown = true) winding work shrinks
      ⟨⟨actions, run⟩, going, returned⟩
  exact ⟨more, last, run_of_follow reached, winds, returned_of_wound (returning_of_run fresh further)
    (fun _ mode => feeding_of_fresh fresh further mode) still ended wound⟩

theorem leaves_of_gone (answered : session.outlet.Answered written heads frames) (gone : session.reader = .gone)
    (going : session.isOver = false) : session.act .leave = some session.cutShort := by
  have closed : session.sink.body.receiving = false := by
    cases receiving : session.sink.body.receiving with
    | false => rfl
    | true =>
      have present : session.reader = .asked \/ session.reader = .body := answered.present receiving
      simp [gone] at present
  simp [act, own, going, Sink.isClosed, closed]

/-- The session cannot move, and the others have done their part: storage has ended or failed, the encoder has read
what there is to read and has ended the call at the end of its input, and the client has taken what there is to take. -/
structure Exhausted (actions : List Action) (session : Session) : Prop where
  own : session.IsStuck
  storage : session.act .endStream = none \/ exists status, .error status ∈ delivered actions
  requests : forall request, session.act (.onCall (.takeRequest request)) = none
  call : forall call, session.call? = some call -> call.isHalfClosed = true ->
    session.act (.onCall .endReplies) = none /\ forall answer, session.act (.onCall (.answer answer)) = none
  head : forall head, session.act (.receiveHead head) = none
  body : forall frame, session.act (.takeFrame frame) = none

namespace Exhausted

variable {put : List Bytes}

theorem reads (exhausted : Exhausted actions session) (forwarded : Forwarded (delivered actions) put session)
    (going : session.isOver = false) (reading : session.forwarder.phase = .reading)
    (read : session.pipeline.frames.items = []) : session.act .endStream = none := by
  rcases exhausted.storage with ended | ⟨status, broken⟩
  next => exact ended
  next =>
    -- What was read did not offend, and all of it was read.
    have clean := (forwarded.ahead (isReading_of_reading going reading)).clean []
    simp only [List.append_nil, read, Framing.offence?_nil] at clean
    exact absurd clean (Framing.offence?_of_error broken false)

theorem halfClosed (exhausted : Exhausted actions session) (forwarded : Forwarded (delivered actions) put session)
    (returning : session.Returning) (feeding : Feeding session transcoder) (held : transcoder.call.held = true) :
    transcoder.call.isHalfClosed = true := by
  obtain ⟨running, going⟩ := feeding.running held
  have done : transcoder.call.done = false := by rw [feeding.holds.done, held]; rfl
  have empty := requests_empty_of_untaken feeding.mode exhausted.requests
  refine feeding.halfClosed_of_finished held ?_ empty
  cases through : transcoder.feeder.outcome? with
  | some outcome => rfl
  | none =>
    -- The requests were all taken, so that the feeder lacks a chunk; and forwarding has no more to wait for.
    have unblocked (request : EncodeVideoRequest) :
        transcoder.call.requests.offer Feeder.requestSender request ≠ .blocked := by
      intro blocked
      have listening := (Channel.offer_eq_blocked_iff.1 blocked).1
      have full := (feeding.served listening through).place_of_blocked blocked
      simp [empty] at full
    have feeds := (exhausted.own.legs returning going feeding.mode).1
    rcases fed_or_unread forwarded going done (exhausted.own.forward going) feeds unblocked with
      finished | ⟨reading, read, unread⟩
    next => simp [through] at finished
    next =>
      have ended := exhausted.reads forwarded going reading read
      simp [act, endStream, isReading_of_reading going reading, unread] at ended

theorem isOver (exhausted : Exhausted actions session) (fresh : emitter.Fresh)
    (run : Run (start emitter) actions session) : session.isOver = true := by
  have forwarded := forwarded_of_run run
  have returning := returning_of_run fresh run
  have halfClosed (call : EncodeCall) (known : session.call? = some call) (held : call.held = true) :
      call.isHalfClosed = true := by
    cases mode : session.emitter with
    | passthrough stored => simp [call?, mode] at known
    | transcoding transcoder =>
      obtain rfl : transcoder.call = call := by simpa [call?, mode] using known
      exact exhausted.halfClosed forwarded returning (feeding_of_fresh fresh run mode) held
  cases going : session.isOver with
  | true => rfl
  | false =>
    cases waits_of_stuck fresh run exhausted.own going with
    | storage reading read ends => exact absurd (exhausted.reads forwarded going reading read) ends
    | client chunk full reads =>
      rcases reads with ⟨head, receives⟩ | takes
      next => exact absurd (exhausted.head head) receives
      next => exact absurd (exhausted.body chunk) takes
    | acceptance call known held answers =>
      have ended := exhausted.call call known (halfClosed call known held)
      exact absurd (ended.2 (.ok ())) (answers (.ok ()))
    | encoder call known held read ends =>
      exact absurd (exhausted.call call known (halfClosed call known held)).1 ends

end Exhausted

/-- Wherever a run has led, a session that cannot move waits for somebody outside; one whose emitter has returned, or
whose fetcher has, comes to the end of both branches by itself; and one whose client has left can end at once. No run
goes on for longer than what storage and encoder have put into it, and where all have done their part it has ended. -/
theorem session_completes (fresh : emitter.Fresh) (run : Run (start emitter) actions session) :
    (session.IsStuck -> session.isOver = true \/ session.Waits) /\
      (session.HasReturned -> session.isOver = true \/ exists more last, Run session more last /\
        (forall action, action ∈ more -> action.windsDown = true) /\ last.forwarded?.isSome = true /\
        last.emitted.isSome = true) /\
      (session.reader = .gone -> session.isOver = true \/
        exists last, session.act .leave = some last /\ last.isOver = true) /\
      actions.length <= 13 + 11 * (delivered actions).length + 7 * (replied actions).length /\
      (Exhausted actions session -> session.isOver = true /\ session.sink.Settled) := by
  refine ⟨fun stuck => ?_, fun returned => ?_, fun gone => ?_, ?_, fun exhausted => ?_⟩
  next =>
    cases going : session.isOver with
    | true => exact .inl rfl
    | false => exact .inr (waits_of_stuck fresh run stuck going)
  next =>
    cases going : session.isOver with
    | true => exact .inl rfl
    | false => exact .inr (winds_down fresh run going returned)
  next =>
    cases going : session.isOver with
    | true => exact .inl rfl
    | false => exact .inr ⟨_, leaves_of_gone (answered_of_run fresh run).2 gone going, rfl⟩
  next => exact Nat.le_trans (Nat.le_add_right _ _) (work_of_run fresh run)
  next =>
    have ended := exhausted.isOver fresh run
    exact ⟨ended, settled_of_run fresh run ended⟩

def clipStalled : List Action :=
  [.deliver (.ok (.header clip)), .deliver (.ok (.datagram { payload := [1, 2] })), .forward, .forward, .forward,
    .feed, .feed, .feed]

def clipRefused : List Action :=
  [.onCall (.answer (.error diskFailure)), .fetch]

def clipClosed : List Action :=
  [.feed, .forward, .onCall .closeRequests, .join, .receiveHead (.plain 500), .takeFrame faultText]

theorem clip_released : exists stalled refused last, Run (transcoding smallPreset) clipStalled stalled /\
    stalled.Waits /\ Run stalled clipRefused refused /\
    (exists more wound, Run refused more wound /\ (forall action, action ∈ more -> action.windsDown = true) /\
      wound.forwarded?.isSome = true) /\
    Run refused clipClosed last /\ last.isOver = true /\ last.sink.Settled := by
  obtain ⟨stalled, refused, last, reached, answered, closed, going, stuck, still, returned, exhausted⟩ :
      exists stalled refused last, follow act (transcoding smallPreset) clipStalled = some stalled /\
        follow act stalled clipRefused = some refused /\ follow act refused clipClosed = some last /\
        stalled.isOver = false /\ stalled.IsStuck /\ refused.isOver = false /\ refused.HasReturned /\
        Exhausted (clipStalled ++ clipRefused ++ clipClosed) last := by
    refine ⟨_, _, _, rfl, rfl, rfl, rfl, ?_, rfl, ?_, ?_⟩
    next => intro action own; cases action <;> first | rfl | cases own
    next => exact .inr ⟨_, rfl, rfl⟩
    next =>
      constructor
      case own => intro action own; cases action <;> first | rfl | cases own
      case storage => exact .inl rfl
      case requests => exact fun _ => rfl
      case call => exact fun _ same halfClosed => by cases same; exact absurd halfClosed (by decide)
      case head => exact fun _ => rfl
      case body => exact fun _ => rfl
  have run := run_of_follow reached
  have further := run_of_follow answered
  have rest := run_of_follow closed
  have waits := (session_completes (.transcoding smallPreset) run).1 stuck
  have winds := (session_completes (.transcoding smallPreset) (run.append further)).2.1 returned
  have ends := (session_completes (.transcoding smallPreset) ((run.append further).append rest)).2.2.2.2 exhausted
  simp only [going, still, Bool.false_eq_true, false_or] at waits winds
  obtain ⟨more, wound, winding, winds, forwarded, -⟩ := winds
  exact ⟨stalled, refused, last, run, waits, further, ⟨more, wound, winding, winds, forwarded⟩, rest, ends⟩

end Session

end VideoRelay
