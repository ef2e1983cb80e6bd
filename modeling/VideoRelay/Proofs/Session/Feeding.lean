import VideoRelay.Proofs.Call
import VideoRelay.Proofs.Session.Copying

set_option autoImplicit false

namespace VideoRelay

open Wire

def FeedPhase.isWaiting : FeedPhase -> Bool
  | waiting _ _ => true
  | reading | sending _ _ | finished _ => false

namespace Transcoder

structure HoldsCall (transcoder : Transcoder) : Prop where
  done : transcoder.call.done = !transcoder.call.held
  fetched : transcoder.fetcher.outcome?.isSome = true -> transcoder.call.held = false

structure KeepsFeeding (before after : Transcoder) : Prop where
  preset : after.preset = before.preset
  feeder : after.feeder = before.feeder
  requests : before.call.requests.Drained after.call.requests
  held : after.call.held = true -> before.call.held = true /\
    after.call.requests.senders = before.call.requests.senders
  holds : before.HoldsCall -> after.HoldsCall

theorem KeepsFeeding.refl (transcoder : Transcoder) : transcoder.KeepsFeeding transcoder :=
  ⟨rfl, rfl, .same _, fun held => ⟨held, rfl⟩, id⟩

theorem act_keepsFeeding {transcoder : Transcoder} {action : CallAction EncodeHeader} {call : EncodeCall}
    (acted : transcoder.call.act action = some call) :
    transcoder.KeepsFeeding { transcoder with call } := by
  obtain ⟨requests, senders, held, done⟩ := Call.attended_of_act acted
  refine ⟨rfl, rfl, requests, fun holding => ⟨held.symm.trans holding, senders⟩, fun holds => ⟨?_, fun fetched => ?_⟩⟩
  next => rw [done, held]; exact holds.done
  next => exact held.trans (holds.fetched fetched)

theorem Feeds.unfinished {transcoder after : Transcoder} {before pipeline : Pipeline}
    (moved : transcoder.Feeds before after pipeline) : transcoder.feeder.outcome? = none := by
  cases moved with
  | stop unfinished => exact unfinished
  | first _ _ reading | next _ reading | undescribed _ reading | drain reading =>
    simp [Feeder.outcome?, reading]
  | put _ _ offered | queue _ _ offered => rcases offered with phase | phase <;> simp [Feeder.outcome?, phase]

theorem Feeds.call {transcoder after : Transcoder} {before pipeline : Pipeline}
    (moved : transcoder.Feeds before after pipeline) : after.fetcher = transcoder.fetcher /\
      after.call.done = transcoder.call.done /\ after.call.held = transcoder.call.held := by
  cases moved <;> exact ⟨rfl, rfl, rfl⟩

theorem Fetches.chunks {handle : Nat} {transcoder after : Transcoder} {before pipeline : Pipeline}
    (moved : transcoder.Fetches handle before after pipeline) : pipeline.chunks = before.chunks := by
  cases moved <;> rfl

theorem fetch_keepsFeeding {handle : Nat} {transcoder after : Transcoder} {before pipeline : Pipeline}
    (moved : transcoder.Fetches handle before after pipeline) : transcoder.KeepsFeeding after := by
  cases moved with
  | refused | broken | finish | unwritten =>
    exact ⟨rfl, rfl, .same _, fun held => (by cases held), fun _ => ⟨rfl, fun _ => rfl⟩⟩
  | skip typed reply rest reading =>
    exact ⟨rfl, rfl, .same _, fun held => ⟨held, rfl⟩, fun holds => ⟨holds.done, holds.fetched⟩⟩
  | answered | receive | write | wrote =>
    exact ⟨rfl, rfl, .same _, fun held => ⟨held, rfl⟩, fun holds => ⟨holds.done, fun through => (by cases through)⟩⟩

theorem drop_keepsFeeding (handle : Nat) (transcoder : Transcoder) (pipeline : Pipeline)
    (holds : transcoder.HoldsCall) : transcoder.KeepsFeeding (transcoder.drop handle pipeline).1 := by
  unfold drop
  by_cases fed : transcoder.feeder.outcome?.isSome = true <;>
    by_cases fetched : transcoder.fetcher.outcome?.isSome = true <;>
    simp only [fed, fetched, releaseFeeder, releaseFetcher, Bool.false_eq_true, ↓reduceIte]
  next => exact .refl transcoder
  next => exact ⟨rfl, rfl, .same _, fun held => (by cases held), fun _ => ⟨rfl, fun _ => rfl⟩⟩
  next =>
    refine ⟨rfl, rfl, .same _, fun held => ?_, fun holds => ⟨holds.done, holds.fetched⟩⟩
    -- A fetcher that is through has let go of the call already.
    rw [holds.fetched fetched] at held
    cases held
  next => exact ⟨rfl, rfl, .same _, fun held => (by cases held), fun _ => ⟨rfl, fun _ => rfl⟩⟩

theorem drop_fetcher (handle : Nat) (transcoder : Transcoder) (pipeline : Pipeline) :
    (transcoder.drop handle pipeline).1.fetcher = transcoder.fetcher /\
      (transcoder.drop handle pipeline).1.call.answer = transcoder.call.answer /\
      (transcoder.drop handle pipeline).1.call.replies = transcoder.call.replies := by
  unfold drop
  by_cases fed : transcoder.feeder.outcome?.isSome = true <;>
    by_cases fetched : transcoder.fetcher.outcome?.isSome = true <;>
    simp [fed, fetched, releaseFeeder, releaseFetcher]

end Transcoder

namespace Session

theorem Step.keepsFeeding {session next : Session} {action : Action} {transcoder : Transcoder}
    (step : session.Step action next) (mode : session.emitter = .transcoding transcoder)
    (holds : transcoder.HoldsCall) (foreign : action ≠ .feed) :
    exists after, next.emitter = .transcoding after /\ transcoder.KeepsFeeding after := by
  cases step with
  | feed => exact absurd rfl foreign
  | emit _ _ _ stored => rw [stored] at mode; cases mode
  | forward _ _ moved => exact ⟨transcoder, moved.emitter.1.trans mode, .refl transcoder⟩
  | fetch before after pipeline _ same _ _ moved =>
    cases mode.symm.trans same
    exact ⟨after, afterLeg_emitter _ _ _, Transcoder.fetch_keepsFeeding moved⟩
  | abort =>
    exact ⟨_, dropEmitter_transcoder mode, transcoder.drop_keepsFeeding emitterHandle session.pipeline holds⟩
  | leave =>
    have cut := cutShort_transcoder mode
    split at cut
    next => exact ⟨transcoder, cut, .refl transcoder⟩
    next => exact ⟨_, cut, transcoder.drop_keepsFeeding emitterHandle session.pipeline holds⟩
  | onCall action before call same acted =>
    cases mode.symm.trans same
    exact ⟨_, rfl, Transcoder.act_keepsFeeding acted⟩
  | join | deliver | endStream | receiveHead | receiveFault | takeChunk | takeText | disconnect =>
    exact ⟨transcoder, mode, .refl transcoder⟩

theorem drop_held {transcoder : Transcoder} (holds : transcoder.HoldsCall) (pipeline : Pipeline) :
    (transcoder.drop emitterHandle pipeline).1.call.held = false := by
  unfold Transcoder.drop
  by_cases fed : transcoder.feeder.outcome?.isSome = true <;>
    by_cases fetched : transcoder.fetcher.outcome?.isSome = true <;>
    simp [fed, fetched, Transcoder.releaseFeeder, Transcoder.releaseFetcher]
  next => exact holds.fetched fetched
  next => exact holds.fetched fetched

theorem afterLeg_emitted {session : Session} {transcoder : Transcoder} (holds : transcoder.HoldsCall)
    (running : session.emitted = none) (pipeline : Pipeline) (held : transcoder.call.held = true) :
    (session.afterLeg transcoder pipeline).emitted = none := by
  have unfetched : transcoder.fetcher.outcome? = none := by
    cases fetched : transcoder.fetcher.outcome? with
    | none => rfl
    | some outcome =>
      rw [holds.fetched (by simp [fetched])] at held
      cases held
  simp [afterLeg, Transcoder.outcome?, unfetched, running]

theorem afterLeg_returned {session : Session} {transcoder : Transcoder} (running : session.emitted = none)
    {pipeline : Pipeline} {outcome : Except Fault Unit}
    (returned : (session.afterLeg transcoder pipeline).emitted = some outcome) : transcoder.outcome? = some outcome := by
  unfold afterLeg at returned
  split at returned
  next => cases running.symm.trans returned
  next other through => cases other <;> cases returned <;> exact through

theorem afterLeg_keeps (session : Session) (transcoder : Transcoder) (pipeline : Pipeline) :
    (session.afterLeg transcoder pipeline).isOver = session.isOver /\
      (session.afterLeg transcoder pipeline).abort = session.abort /\
      (session.afterLeg transcoder pipeline).pipeline.chunks = pipeline.chunks := by
  unfold afterLeg
  split
  next => exact ⟨rfl, rfl, rfl⟩
  next outcome _ => cases outcome <;> exact ⟨rfl, rfl, rfl⟩

theorem Step.keepsAbort {session next : Session} {action : Action} (step : session.Step action next)
    (foreign : action ≠ .forward) : next.abort = session.abort := by
  cases step with
  | forward => exact absurd rfl foreign
  | emit _ _ _ _ moved =>
    cases moved with
    | undescribed | unwritten | drain => rfl
    | first | next | write | wrote => rfl
  | feed | fetch => exact (afterLeg_keeps _ _ _).2.1
  | abort => exact session.dropEmitter_dropped.abort
  | leave => exact session.cutShort_ended.abort.trans session.emptied_dropped.abort
  | join | deliver | endStream | onCall | receiveHead | receiveFault | takeChunk | takeText | disconnect => rfl

theorem Step.keepsOver {session next : Session} {action : Action} (step : session.Step action next)
    (foreign : action ≠ .join /\ action ≠ .leave) : next.isOver = session.isOver := by
  cases step with
  | join => exact absurd rfl foreign.1
  | leave => exact absurd rfl foreign.2
  | forward _ _ moved => cases moved <;> rfl
  | emit _ _ _ _ moved =>
    cases moved with
    | undescribed | drain | unwritten | first | next | write | wrote => rfl
  | feed | fetch => exact (afterLeg_keeps _ _ _).1
  | abort => exact session.dropEmitter_dropped.isOver
  | deliver | endStream | onCall | receiveHead | receiveFault | takeChunk | takeText | disconnect => rfl

/-- How the feeder, its call and the storage side stand to each other. -/
structure Feeding (session : Session) (transcoder : Transcoder) : Prop where
  mode : session.emitter = .transcoding transcoder
  holds : transcoder.HoldsCall
  running : transcoder.call.held = true -> session.emitted = none /\ session.isOver = false
  senders : transcoder.call.held = true ->
    transcoder.call.requests.senders = if transcoder.feeder.outcome?.isSome then 0 else 1
  served : transcoder.call.requests.receiving = true -> transcoder.feeder.outcome? = none ->
    transcoder.call.requests.Serves Feeder.requestSender transcoder.feeder.phase.isWaiting
  lost : transcoder.call.requests.receiving = false -> transcoder.call.requests.place = none
  closing : transcoder.feeder.outcome?.isSome = true -> session.pipeline.chunks.receiving = false
  failed : forall fault, session.forwarded? = some (.error fault) ->
    transcoder.feeder.outcome? = none /\ session.abort = true
  aborted : session.abort = true -> exists fault, session.forwarded? = some (.error fault)

namespace Feeding

variable {session next : Session} {transcoder : Transcoder}

theorem forward (before : Feeding session transcoder) (moved : session.Forwards next) :
    Feeding next transcoder := by
  have mode := moved.emitter.1.trans before.mode
  have unfinished := moved.unfinished
  have unaborted : session.abort ≠ true := by
    intro aborted
    obtain ⟨fault, failed⟩ := before.aborted aborted
    rw [unfinished] at failed
    cases failed
  obtain ⟨-, holds, running, senders, served, lost, closing, -, -⟩ := before
  cases moved with
  | header | datagram | put | queue =>
    refine ⟨mode, holds, running, senders, served, lost, closing, ?_, fun aborted => absurd aborted unaborted⟩
    simp_all [forwarded?, Forwarder.outcome?]
  | abandon | finish =>
    refine ⟨mode, holds, running, senders, served, lost, closing, ?_, fun aborted => absurd aborted unaborted⟩
    simp [forwarded?, ended, Forwarder.stop, Forwarder.finish, Forwarder.outcome?]
  | refuse message rest fault reading unclosed =>
    refine ⟨mode, holds, running, senders, served, lost, closing, fun _ _ => ⟨?_, rfl⟩, fun _ => ⟨fault, rfl⟩⟩
    -- A feeder that is through has closed the chunk channel, which ends the read before its next message.
    cases fed : transcoder.feeder.outcome? with
    | none => rfl
    | some outcome => exact absurd (unclosed.symm.trans (closing (by simp [fed]))) (by simp)

theorem feed (before : Feeding session transcoder) {after : Transcoder} {pipeline : Pipeline}
    (unaborted : session.abort = false) (running : session.emitted = none)
    (moved : transcoder.Feeds session.pipeline after pipeline) :
    Feeding (session.afterLeg after pipeline) after := by
  obtain ⟨through, abort, chunks⟩ := session.afterLeg_keeps after pipeline
  have unfailed : forall fault, session.forwarded? ≠ some (.error fault) := by
    intro fault failed
    simpa [unaborted] using (before.failed fault failed).2
  have same : (session.afterLeg after pipeline).forwarded? = session.forwarded? :=
    congrArg Forwarder.outcome? (feed_keepsStorage moved).forwarder
  obtain ⟨fetcher, done, held⟩ := moved.call
  have holds : after.HoldsCall := by
    refine ⟨by rw [done, held]; exact before.holds.done, ?_⟩
    rw [fetcher, held]
    exact before.holds.fetched
  have leg
      (senders : after.call.held = true ->
        after.call.requests.senders = if after.feeder.outcome?.isSome then 0 else 1)
      (served : after.call.requests.receiving = true -> after.feeder.outcome? = none ->
        after.call.requests.Serves Feeder.requestSender after.feeder.phase.isWaiting)
      (lost : after.call.requests.receiving = false -> after.call.requests.place = none)
      (closing : after.feeder.outcome?.isSome = true -> pipeline.chunks.receiving = false) :
      Feeding (session.afterLeg after pipeline) after := by
    refine ⟨afterLeg_emitter _ _ _, holds, fun holding => ?_, senders, served, lost, ?_, ?_, ?_⟩
    next => exact ⟨afterLeg_emitted holds running pipeline holding, through.trans (before.running (held ▸ holding)).2⟩
    next => rw [chunks]; exact closing
    next => rw [same]; exact fun fault failed => absurd failed (unfailed fault)
    next => rw [abort, unaborted]; intro aborted; cases aborted
  have unfinished := moved.unfinished
  have alone := before.senders
  rw [unfinished] at alone
  cases moved with
  | first chunk descriptor reading | next chunk reading =>
    refine leg alone (fun unclosed _ => ?_) before.lost (fun through => (by cases through))
    have served := before.served unclosed unfinished
    rw [reading] at served
    exact served
  | undescribed | drain | stop =>
    refine leg (fun held => ?_) (fun _ through => (by cases through)) before.lost (fun _ => rfl)
    show transcoder.call.requests.senders - 1 = 0
    rw [alone held]
    rfl
  | put request pending offered going unclosed granted =>
    have still : (transcoder.feeder.sent pending).outcome? = none /\
        (transcoder.feeder.sent pending).phase.isWaiting = false := by
      cases pending <;> exact ⟨rfl, rfl⟩
    refine leg (fun held => ?_) (fun _ _ => ?_) (fun closed => ?_) (fun through => ?_)
    next =>
      show transcoder.call.requests.senders = if (transcoder.feeder.sent pending).outcome?.isSome then 0 else 1
      rw [still.1]
      exact alone held
    next =>
      show Channel.Serves _ _ (transcoder.feeder.sent pending).phase.isWaiting
      rw [still.2]
      exact (before.served unclosed unfinished).put granted
    next => exact absurd (unclosed.symm.trans closed) (by simp)
    next => simp [Transcoder.withRequests, Transcoder.withFeeder, still.1] at through
  | queue request pending offered going unclosed unpromised taken fresh =>
    refine leg alone (fun _ _ => ?_) before.lost (fun through => (by cases through))
    exact (before.served unclosed unfinished).queue unpromised taken fresh

theorem act (before : Feeding session transcoder) {action : Action} (step : session.Step action next) :
    exists after, Feeding next after := by
  have aside (foreign : action ≠ .feed /\ action ≠ .forward) (same : next.forwarder = session.forwarder)
      (closed : session.pipeline.chunks.receiving = false -> next.pipeline.chunks.receiving = false)
      (running : forall after, next.emitter = .transcoding after -> after.HoldsCall ->
        (after.call.held = true -> transcoder.call.held = true) -> after.call.held = true ->
        next.emitted = none /\ next.isOver = false) :
      exists after, Feeding next after := by
    obtain ⟨after, mode, kept⟩ := step.keepsFeeding before.mode before.holds foreign.1
    have holds := kept.holds before.holds
    have forwarded : next.forwarded? = session.forwarded? := congrArg Forwarder.outcome? same
    refine ⟨after, mode, holds, ?_, ?_, ?_, ?_, ?_, ?_, ?_⟩
    next => exact running after mode holds fun held => (kept.held held).1
    next =>
      intro held
      rw [(kept.held held).2, kept.feeder]
      exact before.senders (kept.held held).1
    next =>
      rw [kept.feeder]
      exact fun unclosed unfinished => kept.requests.serves unclosed fun earlier => before.served earlier unfinished
    next => exact kept.requests.lost before.lost
    next => rw [kept.feeder]; exact fun through => closed (before.closing through)
    next => rw [forwarded, kept.feeder, step.keepsAbort foreign.2]; exact before.failed
    next => rw [forwarded, step.keepsAbort foreign.2]; exact before.aborted
  have kept := step.keepsStorage
  cases step with
  | feed earlier after pipeline going mode unaborted running moved =>
    cases before.mode.symm.trans mode
    exact ⟨after, before.feed unaborted running moved⟩
  | forward _ _ moved => exact ⟨transcoder, before.forward moved⟩
  | emit _ _ _ mode => cases before.mode.symm.trans mode
  | fetch earlier after pipeline going mode unaborted running moved =>
    obtain ⟨through, -, -⟩ := session.afterLeg_keeps after pipeline
    have kept := kept (by simp)
    refine aside (by simp) kept.forwarder kept.chunks.receiving fun later same holds _ held => ?_
    cases (afterLeg_emitter session after pipeline).symm.trans same
    exact ⟨afterLeg_emitted holds running pipeline held, through.trans going⟩
  | abort earlier going mode =>
    have kept := kept (by simp)
    refine aside (by simp) kept.forwarder kept.chunks.receiving fun later same _ _ held => ?_
    cases (dropEmitter_transcoder before.mode).symm.trans same
    rw [drop_held before.holds] at held
    cases held
  | leave going closed =>
    have kept := kept (by simp)
    refine aside (by simp) kept.forwarder kept.chunks.receiving fun later same _ earlier held => ?_
    have cut := cutShort_transcoder before.mode
    simp only [(before.running (earlier held)).1, Option.isSome_none, Bool.false_eq_true, ↓reduceIte] at cut
    cases cut.symm.trans same
    rw [drop_held before.holds] at held
    cases held
  | join going forwarded emitted =>
    refine aside (by simp) rfl id fun _ _ _ earlier held => ?_
    -- As long as the call is held its emitter runs, and a running emitter keeps the session from joining.
    simp [(before.running (earlier held)).1] at emitted
  | onCall | deliver | endStream | receiveHead | receiveFault | takeChunk | takeText | disconnect =>
    exact aside (by simp) rfl id fun _ _ _ earlier held => before.running (earlier held)

end Feeding

theorem feeding_start (preset : Preset) : Feeding (transcoding preset) { preset } := by
  refine ⟨rfl, ⟨rfl, fun through => (by cases through)⟩, fun _ => ⟨rfl, rfl⟩, fun _ => rfl, fun _ _ => ?_,
    fun closed => (by cases closed), fun through => (by cases through), fun _ failed => (by cases failed),
    fun aborted => (by cases aborted)⟩
  exact ⟨fun _ => ⟨rfl, rfl⟩, fun waits => (by cases waits)⟩

theorem feeding_of_run {preset : Preset} {session : Session} {actions : List Action}
    (run : Run (transcoding preset) actions session) : exists transcoder, Feeding session transcoder := by
  refine run.keeps (fun _ session => exists transcoder, Feeding session transcoder)
    ⟨{ preset }, feeding_start preset⟩ ?_
  intro actions session action next run before possible
  obtain ⟨transcoder, before⟩ := before
  exact before.act (step_of_act possible)

theorem feeding_of_fresh {emitter : Emitter} (fresh : emitter.Fresh) {session : Session} {actions : List Action}
    (run : Run (start emitter) actions session) {transcoder : Transcoder}
    (mode : session.emitter = .transcoding transcoder) : Feeding session transcoder := by
  cases fresh with
  | transcoding preset =>
    obtain ⟨other, feeding⟩ := feeding_of_run run
    cases feeding.mode.symm.trans mode
    exact feeding
  | passthrough =>
    obtain ⟨stored, copied⟩ := copied_of_run run
    cases copied.mode.symm.trans mode

end Session

end VideoRelay
