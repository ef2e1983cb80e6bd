import VideoRelay.Proofs.Session.Dropping
import VideoRelay.Proofs.Session.History

set_option autoImplicit false

namespace VideoRelay

def Passthrough.writer? : Passthrough -> Option Writer
  | writing _ writer => some writer
  | receiving _ | finished _ => none

def Transcoder.writer? (transcoder : Transcoder) : Option Writer :=
  match transcoder.fetcher with
  | .writing writer => some writer
  | _ => none

def Writer.isWaiting : Writer -> Bool
  | waiting _ => true
  | starting _ | offering _ | finished _ => false

def Writer.hasBegun : Writer -> Bool
  | offering _ | waiting _ => true
  | starting _ | finished _ => false

structure Outlet where
  sink : Sink
  writer : Option Writer
  reader : Reader
  emitting : Bool
  isOver : Bool

namespace Outlet

/-- A move, the heads and the frames that the client gets by it. -/
inductive Move (outlet : Outlet) : List ResponseHead -> List Bytes -> Outlet -> Prop
  | rest : Move outlet [] [] outlet
  | fail (going : outlet.isOver = false) :
      Move outlet [] [] { outlet with sink := outlet.sink.failInternal.2 }
  | begin (chunk : Bytes) (headers : Headers) (emitting : outlet.emitting = true)
      (idle : outlet.writer = none)
      (settable : headers = outlet.sink.headers \/ outlet.sink.commit = .pending) :
      Move outlet [] [] { outlet with
        writer := some (.starting chunk), sink := { outlet.sink with headers } }
  | write (writer after : Writer) (sink : Sink) (emitting : outlet.emitting = true)
      (writing : outlet.writer = some writer)
      (moved : writer.Move Session.emitterHandle outlet.sink after sink) :
      Move outlet [] [] { outlet with writer := some after, sink }
  | wrote (writing : outlet.writer = some (.finished (.ok ()))) :
      Move outlet [] [] { outlet with writer := none }
  | settle (body : Channel Bytes) (emitting : outlet.emitting = true) (going : outlet.isOver = false)
      (place : body.place = outlet.sink.body.place) (receiving : body.receiving = outlet.sink.body.receiving)
      (senders : body.senders = outlet.sink.body.senders) :
      Move outlet [] [] { outlet with
        writer := none, emitting := false, sink := { outlet.sink with body }.dropHandle }
  | settleFailed (body : Channel Bytes) (emitting : outlet.emitting = true) (going : outlet.isOver = false)
      (place : body.place = outlet.sink.body.place) (receiving : body.receiving = outlet.sink.body.receiving)
      (senders : body.senders = outlet.sink.body.senders) :
      Move outlet [] [] { outlet with
        writer := none, emitting := false, sink := { outlet.sink with body }.dropHandle.failInternal.2 }
  | close (going : outlet.isOver = false) (settled : outlet.emitting = false) :
      Move outlet [] [] { outlet with
        sink := outlet.sink.dropHandle, writer := none, emitting := false, isOver := true }
  | leave (sink : Sink) (going : outlet.isOver = false) (closed : outlet.sink.body.receiving = false)
      (released : outlet.sink.Released sink) :
      Move outlet [] [] { outlet with sink, writer := none, emitting := false, isOver := true }
  | receiveHead (headers : Headers) (asked : outlet.reader = .asked)
      (decided : outlet.sink.head = some (.stream headers)) :
      Move outlet [{ status := 200, headers }] [] { outlet with reader := .body }
  | receiveFault (status : Nat) (text : String) (asked : outlet.reader = .asked)
      (decided : outlet.sink.head = some (.failed status text)) :
      Move outlet [.plain status] [] { outlet with
        reader := .message (Text.utf8Bytes text), sink := outlet.sink.dropBody }
  | takeChunk (chunk : Bytes) (streaming : outlet.reader = .body)
      (ready : outlet.sink.body.place = some chunk) :
      Move outlet [] [chunk] { outlet with
        reader := .body, sink := { outlet.sink with body := outlet.sink.body.taken } }
  | takeText (text : Bytes) (answered : outlet.reader = .message text) (unread : text ≠ []) :
      Move outlet [] [text] { outlet with reader := .message [] }
  | disconnect (present : outlet.reader ≠ .gone) :
      Move outlet [] [] { outlet with reader := .gone, sink := outlet.sink.dropBody }

theorem Move.receiving {outlet next : Outlet} {heads : List ResponseHead} {frames : List Bytes}
    (moved : outlet.Move heads frames next) (unclosed : next.sink.body.receiving = true) :
    outlet.sink.body.receiving = true := by
  cases moved with
  | rest | begin | wrote | receiveHead | takeChunk | takeText => exact unclosed
  | fail => simpa using unclosed
  | write writer after sink emitting writing moved =>
    cases moved with
    | count chunk _ accepted => simpa [Sink.beginWrite_body accepted] using unclosed
    | refuse | put | queue | abandon => exact unclosed
  | settle body emitting going place receiving | settleFailed body emitting going place receiving =>
    rw [← receiving]
    simpa [Channel.dropSender] using unclosed
  | close => simpa [Channel.dropSender] using unclosed
  | leave sink going closed released => rw [← released.receiving]; exact unclosed
  | receiveFault | disconnect => cases unclosed

theorem Move.head {outlet next : Outlet} {heads : List ResponseHead} {frames : List Bytes} {head : Head}
    (moved : outlet.Move heads frames next) (decided : outlet.sink.head = some head) : next.sink.head = some head := by
  cases moved with
  | rest | begin | wrote | receiveHead | receiveFault | takeChunk | takeText | disconnect => exact decided
  | fail => simp [Sink.failInternal_head, decided]
  | write writer after sink emitting writing moved =>
    cases moved with
    | count chunk _ accepted =>
      rcases (Sink.beginWrite_cases accepted).2 with ⟨-, same⟩ | ⟨-, same⟩ <;> simp [same, decided]
    | refuse | put | queue | abandon => exact decided
  | settle => simp [Sink.dropHandle_eq, decided]
  | settleFailed => simp [Sink.failInternal_head, Sink.dropHandle_eq, decided]
  | close => simp [Sink.dropHandle_eq, decided]
  | leave sink going closed released =>
    rcases released.head with same | ⟨-, same⟩ <;> simp [same, decided]

theorem Move.received {outlet next : Outlet} {heads : List ResponseHead} {frames : List Bytes}
    (moved : outlet.Move heads frames next) (head : ResponseHead) (got : head ∈ heads) :
    exists decided, outlet.sink.head = some decided /\ decided.response = head := by
  cases moved with
  | receiveHead headers _ decided => exact ⟨_, decided, (List.mem_singleton.1 got).symm⟩
  | receiveFault status text _ decided => exact ⟨_, decided, (List.mem_singleton.1 got).symm⟩
  | _ => cases got

end Outlet

namespace Session

def writer? (session : Session) : Option Writer :=
  match session.emitter with
  | .passthrough emitter => emitter.writer?
  | .transcoding transcoder => transcoder.writer?

def isEmitting (session : Session) : Bool :=
  !session.isOver && session.emitted.isNone &&
    match session.emitter with
    | .passthrough _ => true
    | .transcoding transcoder => transcoder.fetcher.outcome?.isNone

def outlet (session : Session) : Outlet where
  sink := session.sink
  writer := if session.isEmitting then session.writer? else none
  reader := session.reader
  emitting := session.isEmitting
  isOver := session.isOver

def Coherent (session : Session) : Prop :=
  forall emitter, session.emitter = .passthrough emitter -> session.emitted = emitter.outcome?

theorem stored_emitter (session : Session) (outcome : Except Fault Unit) :
    (session.stored outcome).emitter = .passthrough (.finished outcome) /\
      (session.stored outcome).emitted = some outcome := by
  cases outcome <;> exact ⟨rfl, rfl⟩

theorem Stores.coherent {session next : Session} {emitter : Passthrough}
    (moved : session.Stores emitter next) (mode : session.emitter = .passthrough emitter)
    (before : session.Coherent) : next.Coherent := by
  have running := before emitter mode
  intro after same
  cases moved with
  | undescribed | drain | unwritten =>
    rw [(stored_emitter _ _).1] at same
    cases same
    exact (stored_emitter _ _).2
  | _ => cases same; exact running

theorem afterLeg_emitter (session : Session) (transcoder : Transcoder) (pipeline : Pipeline) :
    (session.afterLeg transcoder pipeline).emitter = .transcoding transcoder := by
  unfold afterLeg
  split
  next => rfl
  next outcome _ => cases outcome <;> rfl

theorem coherent_of_transcoding {session : Session} {transcoder : Transcoder}
    (mode : session.emitter = .transcoding transcoder) : session.Coherent := by
  intro emitter same
  rw [mode] at same
  cases same

theorem Forwards.emitter {session next : Session} (moved : session.Forwards next) :
    next.emitter = session.emitter /\ next.emitted = session.emitted := by
  cases moved <;> exact ⟨rfl, rfl⟩

theorem Step.coherent {session next : Session} {action : Action} (step : session.Step action next)
    (before : session.Coherent) : next.Coherent := by
  cases step with
  | forward _ _ moved =>
    intro emitter same
    rw [moved.emitter.1] at same
    rw [moved.emitter.2]
    exact before emitter same
  | emit emitter _ _ mode moved => exact moved.coherent mode before
  | feed | fetch => exact coherent_of_transcoding (afterLeg_emitter _ _ _)
  | abort transcoder _ mode => exact coherent_of_transcoding (dropEmitter_transcoder mode)
  | leave =>
    cases mode : session.emitter with
    | transcoding transcoder =>
      have cut := cutShort_transcoder mode
      split at cut <;> exact coherent_of_transcoding cut
    | passthrough emitter =>
      intro other same
      cases (cutShort_passthrough mode).symm.trans same
      rw [session.cutShort_ended.emitted, session.emptied_dropped.emitted]
      exact before emitter mode
  | onCall => exact coherent_of_transcoding rfl
  | join | deliver | endStream | receiveHead | receiveFault | takeChunk | takeText | disconnect => exact before

theorem outlet_passthrough {session : Session} {emitter : Passthrough} (coherent : session.Coherent)
    (going : session.isOver = false) (mode : session.emitter = .passthrough emitter) :
    session.outlet =
      { sink := session.sink, writer := emitter.writer?, reader := session.reader
        emitting := emitter.outcome?.isNone, isOver := false } := by
  have emitting : session.isEmitting = emitter.outcome?.isNone := by
    simp [isEmitting, going, mode, coherent emitter mode]
  simp only [outlet, emitting, going, writer?, mode]
  cases emitter <;> rfl

theorem outlet_transcoding {session : Session} {transcoder : Transcoder} (going : session.isOver = false)
    (running : session.emitted = none) (mode : session.emitter = .transcoding transcoder) :
    session.outlet =
      { sink := session.sink, writer := transcoder.writer?, reader := session.reader
        emitting := transcoder.fetcher.outcome?.isNone, isOver := false } := by
  have emitting : session.isEmitting = transcoder.fetcher.outcome?.isNone := by
    simp [isEmitting, going, mode, running]
  simp only [outlet, emitting, going, writer?, mode, Transcoder.writer?]
  cases transcoder.fetcher <;> rfl

theorem outlet_stored {session : Session} (going : session.isOver = false) (outcome : Except Fault Unit) :
    (session.stored outcome).outlet =
      { sink := match outcome with
          | .ok _ => session.sink.dropHandle
          | .error _ => session.sink.dropHandle.failInternal.2
        writer := none, reader := session.reader, emitting := false, isOver := false } := by
  cases outcome <;> simp [stored, endEmitting, outlet, isEmitting, going, withSink, sink]

theorem outlet_afterLeg {session : Session} (going : session.isOver = false)
    (running : session.emitted = none) (transcoder : Transcoder) (pipeline : Pipeline) :
    (session.afterLeg transcoder pipeline).outlet =
      { sink := match transcoder.outcome? with
          | some (.error _) => pipeline.sink.failInternal.2
          | _ => pipeline.sink
        writer := transcoder.writer?, reader := session.reader
        emitting := transcoder.fetcher.outcome?.isNone, isOver := false } := by
  cases came : transcoder.outcome? with
  | none =>
    have emitting : (session.afterLeg transcoder pipeline).isEmitting = transcoder.fetcher.outcome?.isNone := by
      simp [afterLeg, came, isEmitting, going, running]
    simp only [outlet, emitting]
    simp only [afterLeg, came, sink, writer?, Transcoder.writer?, going]
    cases transcoder.fetcher <;> rfl
  | some outcome =>
    obtain ⟨received, finished⟩ : exists received, transcoder.fetcher = .finished received := by
      unfold Transcoder.outcome? at came
      split at came
      next received _ through _ =>
        cases fetcher : transcoder.fetcher <;> simp_all [Fetcher.outcome?]
      next => cases came
    cases outcome <;>
      simp [afterLeg, came, endEmitting, outlet, isEmitting, going, withSink, sink, Transcoder.writer?, finished,
        Fetcher.outcome?]

theorem feeds_fetcher {transcoder after : Transcoder} {before pipeline : Pipeline}
    (moved : transcoder.Feeds before after pipeline) :
    after.fetcher = transcoder.fetcher /\ pipeline.sink = before.sink := by
  cases moved <;> exact ⟨rfl, rfl⟩

theorem outlet_feed {session : Session} {transcoder after : Transcoder} {pipeline : Pipeline}
    (going : session.isOver = false) (running : session.emitted = none)
    (mode : session.emitter = .transcoding transcoder)
    (moved : transcoder.Feeds session.pipeline after pipeline) :
    session.outlet.Move [] [] (session.afterLeg after pipeline).outlet := by
  obtain ⟨fetcher, same⟩ := feeds_fetcher moved
  have writer : after.writer? = transcoder.writer? := by simp only [Transcoder.writer?, fetcher]
  rw [outlet_transcoding going running mode, outlet_afterLeg going running, writer, fetcher, same]
  split
  next =>
    have failed : session.outlet.Move [] [] { session.outlet with sink := session.sink.failInternal.2 } := .fail going
    rw [outlet_transcoding going running mode] at failed
    exact failed
  next => exact .rest

theorem outlet_finishFetcher {session : Session} {transcoder : Transcoder} (going : session.isOver = false)
    (running : session.emitted = none) (mode : session.emitter = .transcoding transcoder)
    (unfinished : transcoder.fetcher.outcome? = none) (left : Transcoder) (outcome : Except Fault Unit) :
    session.outlet.Move [] []
      (session.afterLeg (left.finishFetcher emitterHandle session.pipeline outcome).1
        (left.finishFetcher emitterHandle session.pipeline outcome).2).outlet := by
  have emitting : session.outlet.emitting = true := by
    rw [outlet_transcoding going running mode, unfinished]
    rfl
  have through : session.outlet.isOver = false := going
  have kept : session.sink.Released { session.sink with body := session.sink.body.withdraw emitterHandle } :=
    .withdraw emitterHandle
  rw [outlet_afterLeg going running]
  split
  next =>
    have settled := Outlet.Move.settleFailed _ emitting going kept.place kept.receiving
      (Channel.withdraw_senders _ _)
    rw [through] at settled
    exact settled
  next =>
    have settled := Outlet.Move.settle _ emitting going kept.place kept.receiving (Channel.withdraw_senders _ _)
    rw [through] at settled
    exact settled

theorem outlet_fetch {session : Session} {transcoder after : Transcoder} {pipeline : Pipeline}
    (going : session.isOver = false) (running : session.emitted = none)
    (mode : session.emitter = .transcoding transcoder)
    (moved : transcoder.Fetches emitterHandle session.pipeline after pipeline) :
    session.outlet.Move [] [] (session.afterLeg after pipeline).outlet := by
  have before := outlet_transcoding going running mode
  cases moved with
  | refused status calling => exact outlet_finishFetcher going running mode (by simp [calling, Fetcher.outcome?]) _ _
  | broken typed status rest reading =>
    exact outlet_finishFetcher going running mode (by simp [reading, Fetcher.outcome?]) _ _
  | finish typed reading => exact outlet_finishFetcher going running mode (by simp [reading, Fetcher.outcome?]) _ _
  | unwritten fault writing =>
    exact outlet_finishFetcher going running mode (by simp [writing, Fetcher.outcome?]) _ _
  | answered calling =>
    rw [before, outlet_afterLeg going running]
    simp only [Transcoder.writer?, calling, Fetcher.outcome?, Transcoder.outcome?]
    exact .rest
  | skip typed reply rest reading =>
    rw [before, outlet_afterLeg going running]
    simp only [Transcoder.writer?, Transcoder.withReplies, reading, Fetcher.outcome?, Transcoder.outcome?]
    exact .rest
  | receive typed reply rest datagram reading =>
    -- The type is set with the first datagram and only then; whether it can still be set the sink decides.
    obtain ⟨headers, sink, settable⟩ : exists headers,
        (if typed then session.sink else (session.sink.setHeader contentType transcodedType).2) =
          { session.sink with headers } /\ (headers = session.sink.headers \/ session.sink.commit = .pending) := by
      cases typed with
      | true => exact ⟨session.sink.headers, rfl, .inl rfl⟩
      | false => exact session.sink.setHeader_settable contentType transcodedType
    rw [before, outlet_afterLeg going running, show session.pipeline.sink = session.sink from rfl, sink]
    simp only [Transcoder.writer?, reading, Fetcher.outcome?, Transcoder.outcome?]
    exact .begin datagram.payload headers rfl rfl settable
  | write writer later sink writing moved =>
    rw [before, outlet_afterLeg going running]
    simp only [Transcoder.writer?, writing, Fetcher.outcome?, Transcoder.outcome?]
    exact .write writer later sink rfl rfl moved
  | wrote writing =>
    rw [before, outlet_afterLeg going running]
    simp only [Transcoder.writer?, writing, Fetcher.outcome?, Transcoder.outcome?]
    exact .wrote rfl

theorem outlet_stores {session next : Session} {emitter : Passthrough} (coherent : session.Coherent)
    (going : session.isOver = false) (mode : session.emitter = .passthrough emitter)
    (moved : session.Stores emitter next) : session.outlet.Move [] [] next.outlet := by
  have before := outlet_passthrough coherent going mode
  have after := moved.coherent mode coherent
  cases moved with
  | first chunk descriptor ready uncommitted =>
    rw [before, outlet_passthrough after going rfl]
    rw [descriptor.describe_eq uncommitted]
    exact .begin chunk _ rfl rfl (.inr (session.sink.isCommitted_eq_false_iff.1 uncommitted))
  | next written chunk =>
    rw [before, outlet_passthrough after going rfl]
    exact .begin chunk session.sink.headers rfl rfl (.inl rfl)
  | undescribed | unwritten =>
    rw [before, outlet_stored going]
    exact .settleFailed session.sink.body rfl rfl rfl rfl rfl
  | drain =>
    rw [before, outlet_stored going]
    exact .settle session.sink.body rfl rfl rfl rfl rfl
  | write written writer after sink moved =>
    rw [before, outlet_passthrough after going rfl]
    exact .write writer _ sink rfl rfl moved
  | wrote written =>
    rw [before, outlet_passthrough after going rfl]
    exact .wrote rfl

theorem outlet_abortEmitter {session : Session} {transcoder : Transcoder} (going : session.isOver = false)
    (running : session.emitted = none) (mode : session.emitter = .transcoding transcoder) :
    session.outlet.Move [] [] session.abortEmitter.outlet := by
  have before := outlet_transcoding going running mode
  have settled : session.abortEmitter.isEmitting = false := by simp [isEmitting, abortEmitter]
  have through : session.abortEmitter.isOver = false := session.dropEmitter_dropped.isOver.trans going
  have reader : session.abortEmitter.reader = session.reader := session.dropEmitter_dropped.reader
  have after : session.abortEmitter.outlet =
      { sink := session.dropEmitter.sink, writer := none, reader := session.reader
        emitting := false, isOver := false } := by
    simp only [outlet, settled, through, reader]
    rfl
  rw [after]
  cases fetched : transcoder.fetcher.outcome? with
  | none =>
    have emitting : session.outlet.emitting = true := by rw [before, fetched]; rfl
    have kept : session.sink.Released { session.sink with body := session.sink.body.withdraw emitterHandle } :=
      .withdraw emitterHandle
    have dropped : session.dropEmitter.sink =
        Sink.dropHandle { session.sink with body := session.sink.body.withdraw emitterHandle } := by
      by_cases fed : transcoder.feeder.outcome?.isSome = true <;>
        simp [dropEmitter, mode, Transcoder.drop, fed, fetched, Transcoder.releaseFeeder,
          Transcoder.releaseFetcher, sink]
    have settled := Outlet.Move.settle _ emitting going kept.place kept.receiving (Channel.withdraw_senders _ _)
    rw [dropped]
    simp only [before] at settled ⊢
    exact settled
  | some outcome =>
    -- The fetcher has let go of its handle before.
    have dropped : session.dropEmitter.sink = session.sink := by
      by_cases fed : transcoder.feeder.outcome?.isSome = true <;>
        simp [dropEmitter, mode, Transcoder.drop, fed, fetched, Transcoder.releaseFeeder, sink]
    have idle : transcoder.writer? = none := by
      unfold Transcoder.writer?
      split
      next writing => simp [writing, Fetcher.outcome?] at fetched
      next => rfl
    rw [before, dropped, idle, fetched]
    exact .rest

theorem outlet_cutShort {session : Session} (going : session.isOver = false)
    (closed : session.sink.body.receiving = false) :
    session.outlet.Move [] [] session.cutShort.outlet := by
  have through : session.cutShort.isOver = true := rfl
  have reader : session.cutShort.reader = session.reader :=
    session.cutShort_ended.reader.trans session.emptied_dropped.reader
  have left : session.outlet.Move _ _ _ := .leave session.cutShort.sink going closed
    session.cutShort_released
  simpa [outlet, isEmitting, through, reader] using left

theorem Step.outlet {session next : Session} {action : Action} (coherent : session.Coherent)
    (step : session.Step action next) :
    session.outlet.Move (headsReceived [action]) (framesTaken [action]) next.outlet := by
  cases step with
  | forward _ going moved =>
    cases moved with
    | refuse => exact .fail going
    | header | datagram | put | queue | abandon | finish => exact .rest
  | emit emitter _ going mode moved => exact outlet_stores coherent going mode moved
  | feed transcoder after pipeline going mode unaborted running moved => exact outlet_feed going running mode moved
  | fetch transcoder after pipeline going mode unaborted running moved =>
    exact outlet_fetch going running mode moved
  | abort transcoder going mode aborted running => exact outlet_abortEmitter going running mode
  | join going forwarded emitted =>
    have settled : session.isEmitting = false := by simp [isEmitting, Option.isSome_iff_ne_none.1 emitted]
    have closed : session.outlet.Move _ _ _ := .close going settled
    have after : session.finish.isEmitting = false := rfl
    simp only [Session.outlet, settled, after] at closed ⊢
    exact closed
  | leave going closed => exact outlet_cutShort going closed
  | deliver | endStream => exact .rest
  | onCall action transcoder call mode =>
    have same : session.outlet =
        Session.outlet { session with emitter := .transcoding { transcoder with call } } := by
      simp only [Session.outlet, isEmitting, writer?, mode, Transcoder.writer?]
      rfl
    rw [← same]
    exact .rest
  | receiveHead headers asked decided => exact .receiveHead headers asked decided
  | receiveFault status text asked decided => exact .receiveFault status text asked decided
  | takeChunk chunk streaming ready => exact .takeChunk chunk streaming ready
  | takeText text answered unread => exact .takeText text answered unread
  | disconnect present => exact .disconnect present

end Session

end VideoRelay
