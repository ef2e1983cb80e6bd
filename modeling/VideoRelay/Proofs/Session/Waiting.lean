import VideoRelay.Proofs.Session.Feeding
import VideoRelay.Proofs.Session.Reading

set_option autoImplicit false

namespace VideoRelay

open Wire

theorem Ruled.isSome {accepted : List Bytes} {commit : Commit} {head : Option Head} (ruled : Ruled accepted commit head)
    (committed : commit ≠ .pending) : head.isSome = true := by
  cases ruled with
  | undecided => exact absurd rfl committed
  | streamed | faulted => rfl

theorem Writer.step_stuck {handle : Nat} {writer : Writer} {sink : Sink} (unfinished : writer.outcome? = none)
    (stuck : writer.step handle sink = none) : exists chunk, sink.body.offer handle chunk = .blocked := by
  have offers (chunk : Bytes) (stays : offerTo sink handle chunk = none) :
      exists chunk, sink.body.offer handle chunk = .blocked := by
    unfold offerTo at stays
    split at stays
    next => cases stays
    next => cases stays
    next => cases stays
    next blocked => exact ⟨chunk, blocked⟩
  cases writer with
  | starting chunk =>
    simp only [step] at stuck
    split at stuck <;> cases stuck
  | offering chunk | waiting chunk => exact offers chunk stuck
  | finished => cases unfinished

theorem Passthrough.step_stuck {handle : Nat} {emitter : Passthrough} {pipeline : Pipeline}
    (stuck : emitter.step handle pipeline = none) :
    emitter.outcome?.isSome = true \/ (pipeline.chunks.place = none /\ pipeline.chunks.senders ≠ 0) \/
      exists chunk, pipeline.sink.body.offer handle chunk = .blocked := by
  cases emitter with
  | finished => exact .inl rfl
  | receiving written =>
    refine .inr (.inl ?_)
    simp only [step] at stuck
    split at stuck
    next => split at stuck <;> cases stuck
    next => cases stuck
    next nothing => exact Channel.take_eq_nothing_iff.1 nothing
  | writing written writer =>
    refine .inr (.inr ?_)
    simp only [step] at stuck
    cases through : writer.outcome? with
    | some outcome => cases outcome <;> simp [through] at stuck
    | none =>
      simp only [through, Option.map_eq_none_iff] at stuck
      exact Writer.step_stuck through stuck

namespace Transcoder

theorem fetch_stuck {handle : Nat} {transcoder : Transcoder} {pipeline : Pipeline}
    (stuck : transcoder.fetch handle pipeline = none) :
    transcoder.fetcher.outcome?.isSome = true \/
      (transcoder.fetcher = .calling /\ transcoder.call.answer = none) \/
      (exists typed, transcoder.fetcher = .reading typed /\ transcoder.call.replies.items = [] /\
        transcoder.call.replies.ended = false) \/
      transcoder.fetcher.outcome? = none /\ exists chunk, pipeline.sink.body.offer handle chunk = .blocked := by
  cases fetcher : transcoder.fetcher with
  | finished => exact .inl rfl
  | calling => exact .inr (.inl ⟨rfl, by simpa [fetch, fetcher] using stuck⟩)
  | reading typed =>
    refine .inr (.inr (.inl ⟨typed, rfl, ?_⟩))
    simp only [fetch, fetcher] at stuck
    cases items : transcoder.call.replies.items with
    | cons reply rest => cases reply <;> simp [Source.next, items] at stuck
    | nil =>
      cases ended : transcoder.call.replies.ended with
      | true => simp [Source.next, items, ended] at stuck
      | false => exact ⟨rfl, rfl⟩
  | writing writer =>
    refine .inr (.inr (.inr ⟨rfl, ?_⟩))
    simp only [fetch, fetcher] at stuck
    cases through : writer.outcome? with
    | some outcome => cases outcome <;> simp [through] at stuck
    | none =>
      simp only [through, Option.map_eq_none_iff] at stuck
      exact Writer.step_stuck through stuck

theorem feed_of_done {transcoder : Transcoder} (pipeline : Pipeline) (done : transcoder.call.done = true)
    (unfinished : transcoder.feeder.outcome? = none) : transcoder.feed pipeline ≠ none := by
  unfold feed
  split
  next finished => simp [Feeder.outcome?, finished] at unfinished
  next => simp [done]

def isAccepted (transcoder : Transcoder) : Bool :=
  match transcoder.fetcher with
  | .reading _ | .writing _ => true
  | .calling | .finished _ => false

theorem drop_chunks (handle : Nat) (transcoder : Transcoder) (pipeline : Pipeline)
    (closing : transcoder.feeder.outcome?.isSome = true -> pipeline.chunks.receiving = false) :
    (transcoder.drop handle pipeline).2.chunks.receiving = false := by
  unfold drop
  by_cases fed : transcoder.feeder.outcome?.isSome = true <;>
    by_cases fetched : transcoder.fetcher.outcome?.isSome = true <;>
    simp [fed, fetched, releaseFeeder, releaseFetcher, Channel.close]
  next => exact closing fed
  next => exact closing fed

end Transcoder

namespace Session

variable {session next last : Session} {action : Action} {transcoder : Transcoder} {emitter : Emitter}
  {actions : List Action}

structure Returning (session : Session) : Prop where
  closed : session.emitted.isSome = true -> session.pipeline.chunks.receiving = false
  unfinished : forall transcoder, session.emitter = .transcoding transcoder -> session.emitted = none ->
    session.isOver = false -> transcoder.outcome? = none /\
      (transcoder.fetcher.outcome? = none -> transcoder.call.held = true)
  accepted : forall transcoder, session.emitter = .transcoding transcoder -> transcoder.isAccepted = true ->
    transcoder.call.answer = some (.ok ())

theorem afterLeg_unfinished {pipeline : Pipeline} (running : (session.afterLeg transcoder pipeline).emitted = none) :
    transcoder.outcome? = none := by
  unfold afterLeg at running
  split at running
  next unfinished => exact unfinished
  next outcome _ => cases outcome <;> cases running

theorem fed_of_afterLeg {pipeline : Pipeline} (before : session.emitted = none)
    (returned : (session.afterLeg transcoder pipeline).emitted.isSome = true) :
    transcoder.feeder.outcome?.isSome = true := by
  obtain ⟨outcome, came⟩ := Option.isSome_iff_exists.1 returned
  have finished := afterLeg_returned before came
  unfold Transcoder.outcome? at finished
  split at finished
  next fed => simp [fed]
  next => cases finished

namespace Returning

theorem stores {stored : Passthrough} (moved : session.Stores stored next) (running : session.emitted = none) :
    next.Returning := by
  have passthrough (outcome : Except Fault Unit) : (session.stored outcome).Returning := by
    obtain ⟨mode, -⟩ := session.stored_emitter outcome
    refine ⟨fun _ => by cases outcome <;> rfl, fun transcoder same => ?_, fun transcoder same => ?_⟩
    next => cases mode.symm.trans same
    next => cases mode.symm.trans same
  cases moved with
  | undescribed | drain | unwritten => exact passthrough _
  | first | next | write | wrote =>
    exact ⟨fun returned => (by simp [running] at returned), fun _ same => (by cases same), fun _ same => (by cases same)⟩

theorem feed (before : session.Returning) {after : Transcoder} {pipeline : Pipeline}
    (mode : session.emitter = .transcoding transcoder) (running : session.emitted = none)
    (going : session.isOver = false) (moved : transcoder.Feeds session.pipeline after pipeline) :
    (session.afterLeg after pipeline).Returning := by
  obtain ⟨fetcher, -, held⟩ := moved.call
  have answer : after.call.answer = transcoder.call.answer := by cases moved <;> rfl
  refine ⟨fun returned => ?_, fun later same still _ => ?_, fun later same accepted => ?_⟩
  next =>
    have fed := fed_of_afterLeg running returned
    rw [(session.afterLeg_keeps after pipeline).2.2]
    cases moved with
    | undescribed | drain | stop => rfl
    | first | next | queue => cases fed
    | put request pending => cases pending <;> cases fed
  next =>
    cases (afterLeg_emitter _ _ _).symm.trans same
    refine ⟨afterLeg_unfinished still, ?_⟩
    rw [fetcher, held]
    exact (before.unfinished transcoder mode running going).2
  next =>
    cases (afterLeg_emitter _ _ _).symm.trans same
    rw [answer]
    exact before.accepted transcoder mode (by simpa [Transcoder.isAccepted, fetcher] using accepted)

theorem fetch (before : session.Returning) (feeding : Feeding session transcoder) {after : Transcoder}
    {pipeline : Pipeline} (mode : session.emitter = .transcoding transcoder) (running : session.emitted = none)
    (going : session.isOver = false) (moved : transcoder.Fetches emitterHandle session.pipeline after pipeline) :
    (session.afterLeg after pipeline).Returning := by
  refine ⟨fun returned => ?_, fun later same still _ => ?_, fun later same accepted => ?_⟩
  next =>
    have fed := fed_of_afterLeg running returned
    rw [(Transcoder.fetch_keepsFeeding moved).feeder] at fed
    rw [(session.afterLeg_keeps after pipeline).2.2, moved.chunks]
    exact feeding.closing fed
  next =>
    cases (afterLeg_emitter _ _ _).symm.trans same
    refine ⟨afterLeg_unfinished still, fun unfetched => ?_⟩
    have holds := (before.unfinished transcoder mode running going).2
    cases moved with
    | refused | broken | finish | unwritten => cases unfetched
    | answered calling => exact holds (by rw [calling]; rfl)
    | skip _ _ _ reading | receive _ _ _ _ reading => exact holds (by rw [reading]; rfl)
    | write _ _ _ writing | wrote writing => exact holds (by rw [writing]; rfl)
  next =>
    cases (afterLeg_emitter _ _ _).symm.trans same
    have known := before.accepted transcoder mode
    cases moved with
    | answered _ agreed => exact agreed
    | refused | broken | finish | unwritten => cases accepted
    | skip _ _ _ reading | receive _ _ _ _ reading => exact known (by simp [Transcoder.isAccepted, reading])
    | write _ _ _ writing | wrote writing => exact known (by simp [Transcoder.isAccepted, writing])

theorem onCall (before : session.Returning) {move : CallAction EncodeHeader} {call : EncodeCall}
    (mode : session.emitter = .transcoding transcoder) (acted : transcoder.call.act move = some call) :
    Returning { session with emitter := .transcoding { transcoder with call } } := by
  refine ⟨before.closed, fun later same running going => ?_, fun later same accepted => ?_⟩
  next =>
    cases same
    obtain ⟨unfinished, holds⟩ := before.unfinished transcoder mode running going
    exact ⟨unfinished, fun unfetched => (Call.attended_of_act acted).held.trans (holds unfetched)⟩
  next =>
    cases same
    have known := before.accepted transcoder mode accepted
    cases Call.move_of_act acted with
    | answer => cases (Call.unanswered_of_act acted).symm.trans known
    | takeRequest | closeRequests | reply | endReplies => exact known

theorem act (before : session.Returning) (coherent : session.Coherent)
    (feeding : forall transcoder, session.emitter = .transcoding transcoder -> Feeding session transcoder)
    (step : session.Step action next) : next.Returning := by
  have keep (same : next.emitter = session.emitter) (emitted : next.emitted = session.emitted)
      (chunks : next.pipeline.chunks.receiving = session.pipeline.chunks.receiving)
      (through : next.isOver = false -> session.isOver = false) : next.Returning := by
    refine ⟨?_, ?_, ?_⟩
    next => rw [emitted, chunks]; exact before.closed
    next =>
      rw [same, emitted]
      exact fun transcoder mode running going => before.unfinished transcoder mode running (through going)
    next => rw [same]; exact before.accepted
  have dropped (transcoder : Transcoder) (mode : session.emitter = .transcoding transcoder) (after : Transcoder)
      (same : .transcoding (transcoder.drop emitterHandle session.pipeline).1 = Emitter.transcoding after)
      (accepted : after.isAccepted = true) : after.call.answer = some (.ok ()) := by
    cases same
    obtain ⟨fetcher, answer, -⟩ := transcoder.drop_fetcher emitterHandle session.pipeline
    rw [answer]
    exact before.accepted transcoder mode (by simpa [Transcoder.isAccepted, fetcher] using accepted)
  cases step with
  | forward _ _ moved => exact keep moved.emitter.1 moved.emitter.2 (by cases moved <;> rfl) (by cases moved <;> exact id)
  | emit stored _ _ mode moved => exact stores moved ((coherent stored mode).trans moved.unfinished)
  | feed transcoder after pipeline going mode _ running moved => exact before.feed mode running going moved
  | fetch transcoder after pipeline going mode _ running moved =>
    exact before.fetch (feeding transcoder mode) mode running going moved
  | onCall move transcoder call mode acted => exact before.onCall mode acted
  | abort transcoder _ mode =>
    refine ⟨fun _ => ?_, fun _ _ running => (by cases running), fun after same => ?_⟩
    next =>
      have closed := transcoder.drop_chunks emitterHandle session.pipeline (feeding transcoder mode).closing
      simpa only [abortEmitter, dropEmitter, mode] using closed
    next => exact dropped transcoder mode after ((dropEmitter_transcoder mode).symm.trans same)
  | leave =>
    refine ⟨fun returned => ?_, fun _ _ _ going => (by cases going), fun after same => ?_⟩
    next =>
      rw [session.cutShort_ended.emitted, session.emptied_dropped.emitted] at returned
      have closed := before.closed returned
      cases receiving : session.cutShort.pipeline.chunks.receiving with
      | false => rfl
      | true => cases closed.symm.trans (cutShort_unclosed receiving).1
    next =>
      cases mode : session.emitter with
      | passthrough stored => cases (cutShort_passthrough mode).symm.trans same
      | transcoding transcoder =>
        have cut := (cutShort_transcoder mode).symm.trans same
        split at cut
        next => cases cut; exact before.accepted _ mode
        next => exact dropped transcoder mode after cut
  | join => exact keep rfl rfl rfl (fun going => (by cases going))
  | deliver | endStream | receiveHead | receiveFault | takeChunk | takeText | disconnect => exact keep rfl rfl rfl id

end Returning

theorem returning_of_run (fresh : emitter.Fresh) (run : Run (start emitter) actions session) : session.Returning := by
  refine run.keeps (fun _ session => session.Returning) ?_ ?_
  next =>
    refine ⟨fun returned => (by cases returned), fun transcoder mode _ _ => ?_, fun transcoder mode accepted => ?_⟩
    next => cases fresh <;> cases mode; exact ⟨rfl, fun _ => rfl⟩
    next => cases fresh <;> cases mode; cases accepted
  next =>
    intro actions session action next run before possible
    exact before.act (answered_of_run fresh run).1 (fun _ mode => feeding_of_fresh fresh run mode) (step_of_act possible)

theorem forwarded_of_stuck (closed : session.pipeline.chunks.receiving = false) (stuck : session.forward = none) :
    session.forwarded?.isSome = true := by
  rcases forward_stuck stuck with finished | ⟨reading, -, -⟩ | ⟨payload, -, blocked⟩
  next => exact finished
  next => simp [forward, Forwarder.step, reading, closed] at stuck
  next => exact absurd (closed.symm.trans (Channel.offer_eq_blocked_iff.1 blocked).1) (by decide)

theorem feed_of_fetched (returning : session.Returning) (feeding : Feeding session transcoder)
    (running : session.emitted = none) (going : session.isOver = false)
    (fetched : transcoder.fetcher.outcome?.isSome = true) : transcoder.feed session.pipeline ≠ none := by
  -- The fetcher has let go of the call, and the feeder looks at that before everything else.
  have done : transcoder.call.done = true := by rw [feeding.holds.done, feeding.holds.fetched fetched]; rfl
  have unfinished := (returning.unfinished transcoder feeding.mode running going).1
  obtain ⟨outcome, fetched⟩ := Option.isSome_iff_exists.1 fetched
  refine Transcoder.feed_of_done session.pipeline done ?_
  cases fed : transcoder.feeder.outcome? with
  | none => rfl
  | some sent => simp [Transcoder.outcome?, fetched, fed] at unfinished

/-- A party outside the session that it waits for, and what that party can do. -/
inductive Waits (session : Session) : Prop
  | storage (reading : session.forwarder.phase = .reading) (read : session.pipeline.frames.items = [])
      (ends : session.act .endStream ≠ none) (more : forall message, session.act (.deliver message) ≠ none) :
      Waits session
  | client (chunk : Bytes) (full : session.sink.body.place = some chunk)
      (reads : (exists head, session.act (.receiveHead head) ≠ none) \/ session.act (.takeFrame chunk) ≠ none) :
      Waits session
  | acceptance (call : EncodeCall) (known : session.call? = some call) (held : call.held = true)
      (answers : forall answer, session.act (.onCall (.answer answer)) ≠ none) : Waits session
  | encoder (call : EncodeCall) (known : session.call? = some call) (held : call.held = true)
      (read : call.replies.items = []) (ends : session.act (.onCall .endReplies) ≠ none)
      (more : forall reply, session.act (.onCall (.reply reply)) ≠ none) : Waits session

theorem waits_of_full {written : List Bytes} {heads : List ResponseHead} {frames : List Bytes} {accepted : List Bytes}
    (answered : session.outlet.Answered written heads frames) (accounts : session.outlet.Accounts accepted written)
    {chunk : Bytes} (full : session.sink.body.place = some chunk) : session.Waits := by
  -- A client that has left or was answered with a fault has lost the chunk, so that this one goes on to it.
  have unclosed : session.sink.body.receiving = true :=
    Channel.receiving_of_place (fun closed => (answered.refusing closed).1) full
  refine .client chunk full ?_
  rcases answered.present unclosed with asked | streaming
  next =>
    have committed : session.sink.commit ≠ .pending := by
      intro pending
      have content : written = frames ++ session.sink.body.place.toList := answered.content unclosed
      rw [(answered.pending pending).1, full] at content
      simp at content
    obtain ⟨head, decided⟩ := Option.isSome_iff_exists.1 (accounts.ruled.isSome committed)
    cases head with
    | stream headers => exact .inl ⟨{ status := 200, headers }, by simp [act_receiveHead asked decided]⟩
    | failed status text => exact .inl ⟨.plain status, by simp [act_receiveFault asked decided]⟩
  next => exact .inr (by simp [act_takeChunk streaming full])

theorem waits_of_unread (going : session.isOver = false) (unfinished : session.forwarded? = none)
    (reading : session.forwarder.phase = .reading) (read : session.pipeline.frames.items = [])
    (unended : session.pipeline.frames.ended = false) : session.Waits :=
  .storage reading read (by simp [act, endStream, isReading, going, unfinished, unended])
    fun message => (by simp [act, deliver, isReading, going, unfinished, unended])

theorem feed_of_stuck (mode : session.emitter = .transcoding transcoder) (running : session.emitted = none)
    (going : session.isOver = false) (aborts : session.act .abort = none) (feeds : session.act .feed = none) :
    session.abort = false /\ transcoder.feed session.pipeline = none := by
  have unaborted : session.abort = false := by simpa [act, own, going, mode, running] using aborts
  simp only [act, own, going, mode, unaborted, running, Option.isSome_none, Bool.or_self, Bool.false_eq_true,
    ↓reduceIte, Option.map_eq_none_iff] at feeds
  exact ⟨unaborted, feeds⟩

def IsStuck (session : Session) : Prop :=
  forall action, action.isOwn = true -> session.act action = none

namespace IsStuck

theorem unclosed (stuck : session.IsStuck) (going : session.isOver = false) : session.sink.body.receiving = true := by
  have stays := stuck .leave rfl
  simpa [act, own, going, Sink.isClosed] using stays

theorem forward (stuck : session.IsStuck) (going : session.isOver = false) : session.forward = none := by
  have stays := stuck .forward rfl
  simpa [act, own, going] using stays

theorem running (stuck : session.IsStuck) (returning : session.Returning) (going : session.isOver = false) :
    session.emitted = none := by
  cases emitted : session.emitted with
  | none => rfl
  | some outcome =>
    -- Forwarding ends with the emitter, and then the session could join them.
    have forwarded := forwarded_of_stuck (returning.closed (by simp [emitted])) (stuck.forward going)
    have stays := stuck .join rfl
    simp [act, own, going, forwarded, emitted] at stays

theorem legs (stuck : session.IsStuck) (returning : session.Returning) (going : session.isOver = false)
    (mode : session.emitter = .transcoding transcoder) :
    transcoder.feed session.pipeline = none /\ transcoder.fetch emitterHandle session.pipeline = none := by
  have running := stuck.running returning going
  obtain ⟨unaborted, feeds⟩ := feed_of_stuck mode running going (stuck .abort rfl) (stuck .feed rfl)
  have fetches := stuck .fetch rfl
  simp only [act, own, going, mode, unaborted, running, Option.isSome_none, Bool.or_self, Bool.false_eq_true,
    ↓reduceIte, Option.map_eq_none_iff] at fetches
  exact ⟨feeds, fetches⟩

end IsStuck

section

variable (stuck : session.IsStuck) (going : session.isOver = false) (running : session.emitted = none)

include stuck going running

theorem waits_of_passthrough {stored : Passthrough} {messages : List StorageMessage} {put : List Bytes}
    (mode : session.emitter = .passthrough stored) (coherent : session.Coherent)
    (forwarded : Forwarded messages put session)
    (blocked : forall chunk, session.sink.body.offer emitterHandle chunk = .blocked -> session.Waits) :
    session.Waits := by
  have stays := stuck .emit rfl
  simp only [act, own, going, mode, Bool.false_eq_true, ↓reduceIte] at stays
  rcases Passthrough.step_stuck (Option.map_eq_none_iff.1 stays) with finished | ⟨drained, unended⟩ | ⟨chunk, full⟩
  next =>
    rw [← coherent stored mode, running] at finished
    cases finished
  next =>
    -- The chunk comes from forwarding, which storage alone can keep from moving while the place is empty.
    have unfinished : session.forwarded? = none := by
      have senders := forwarded.senders going
      cases returned : session.forwarded? with
      | none => rfl
      | some outcome => rw [returned] at senders; exact absurd senders unended
    rcases forward_stuck (stuck.forward going) with finished | ⟨reading, read, unread⟩ | ⟨payload, -, full⟩
    next => simp [unfinished] at finished
    next => exact waits_of_unread going unfinished reading read unread
    next =>
      have taking := (Channel.offer_eq_blocked_iff.1 full).1
      have filled := (forwarded.served taking).place_of_blocked full
      simp [drained] at filled
  next => exact blocked chunk full

theorem waits_of_transcoding (mode : session.emitter = .transcoding transcoder) (feeding : Feeding session transcoder)
    (returning : session.Returning)
    (blocked : transcoder.fetcher.outcome? = none ->
      forall chunk, session.sink.body.offer emitterHandle chunk = .blocked -> session.Waits) :
    session.Waits := by
  obtain ⟨unfinished, holds⟩ := returning.unfinished transcoder mode running going
  have known : session.call? = some transcoder.call := by simp only [call?, mode]
  obtain ⟨feeds, fetches⟩ := stuck.legs returning going mode
  rcases Transcoder.fetch_stuck fetches with
    fetched | ⟨calling, unanswered⟩ | ⟨typed, reading, read, unended⟩ | ⟨unfetched, chunk, full⟩
  next => exact absurd feeds (feed_of_fetched returning feeding running going fetched)
  next =>
    have held := holds (by rw [calling]; rfl)
    exact .acceptance transcoder.call known held fun answer => (by simp [act, call?, mode, Call.act, held, unanswered])
  next =>
    have held := holds (by rw [reading]; rfl)
    have accepted := returning.accepted transcoder mode (by simp [Transcoder.isAccepted, reading])
    have replies : transcoder.call.canReply = true := by
      simp [Call.canReply, Call.isOver, Call.isRefused, held, accepted, read, unended]
    exact .encoder transcoder.call known held read (by simp [act, call?, mode, Call.act, replies])
      fun reply => (by simp [act, call?, mode, Call.act, replies])
  next => exact blocked unfetched chunk full

end

theorem waits_of_stuck (fresh : emitter.Fresh) (run : Run (start emitter) actions session) (stuck : session.IsStuck)
    (going : session.isOver = false) : session.Waits := by
  obtain ⟨coherent, answered⟩ := answered_of_run fresh run
  have accounts := accounts_of_run fresh run
  have returning := returning_of_run fresh run
  have running := stuck.running returning going
  have unclosed := stuck.unclosed going
  have blocked (emitting : session.isEmitting = true) (chunk : Bytes)
      (blocked : session.sink.body.offer emitterHandle chunk = .blocked) : session.Waits := by
    have full := (answered.served unclosed emitting).place_of_blocked blocked
    obtain ⟨ready, full⟩ := Option.isSome_iff_exists.1 full
    exact waits_of_full answered accounts full
  cases mode : session.emitter with
  | passthrough stored =>
    exact waits_of_passthrough stuck going running mode coherent (forwarded_of_run run)
      (blocked (by simp [isEmitting, going, running, mode]))
  | transcoding transcoder =>
    exact waits_of_transcoding stuck going running mode (feeding_of_fresh fresh run mode) returning
      fun unfetched => blocked (by simp [isEmitting, going, running, mode, unfetched])

end Session

end VideoRelay
