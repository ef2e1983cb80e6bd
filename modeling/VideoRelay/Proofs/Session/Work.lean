import VideoRelay.Proofs.Session.Feeding

set_option autoImplicit false

namespace VideoRelay

open Wire

def Channel.load {A : Type} (channel : Channel A) : Nat :=
  channel.place.toList.length

def Source.load {A : Type} (weight : Nat) (source : Source A) : Nat :=
  weight * source.items.length + (!source.ended).toNat

def Writer.work : Writer -> Nat
  | starting _ => 5
  | offering _ => 4
  | waiting _ => 3
  | finished _ => 1

def ForwardPhase.work : ForwardPhase -> Nat
  | sending _ => 10
  | waiting _ => 9
  | reading => 1
  | finished _ => 0

def Passthrough.work : Passthrough -> Nat
  | receiving _ => 1
  | writing _ writer => writer.work + 1
  | finished _ => 0

def FeedPhase.work : FeedPhase -> Nat
  | sending _ (some _) => 7
  | waiting _ (some _) => 6
  | sending _ none => 4
  | waiting _ none => 3
  | reading => 1
  | finished _ => 0

def Fetcher.work : Fetcher -> Nat
  | calling => 2
  | reading _ => 1
  | writing writer => writer.work + 1
  | finished _ => 0

def Reader.work : Reader -> Nat
  | unasked | asked => 3
  | message (_ :: _) => 2
  | message [] | body => 1
  | gone => 0

def Call.work (call : EncodeCall) : Nat :=
  call.requests.load + call.requests.receiving.toNat + call.answer.isNone.toNat + call.replies.load 6

def Transcoder.work (transcoder : Transcoder) : Nat :=
  transcoder.feeder.phase.work + transcoder.fetcher.work + transcoder.call.work

def Emitter.work : Emitter -> Nat
  | passthrough emitter => emitter.work
  | transcoding transcoder => transcoder.work

def Pipeline.work (pipeline : Pipeline) : Nat :=
  pipeline.frames.load 10 + 7 * pipeline.chunks.load + pipeline.sink.body.load

theorem Channel.load_of_place {A : Type} {channel : Channel A} {item : A} (ready : channel.place = some item) :
    channel.load = 1 := by
  simp [load, ready]

theorem Channel.load_congr {A : Type} {before after : Channel A} (same : after.place = before.place) :
    after.load = before.load := by
  simp [load, same]

theorem Source.load_cons {A : Type} {source : Source A} {weight : Nat} {item : A} {rest : List A}
    (ready : source.items = item :: rest) :
    source.load weight = Source.load weight { source with items := rest } + weight := by
  simp only [load, ready, List.length_cons, Nat.mul_add]
  omega

theorem Writer.Move.spends {handle : Nat} {writer after : Writer} {sink next : Sink}
    (moved : writer.Move handle sink after next)
    (served : sink.body.receiving = true -> sink.body.Serves handle writer.isWaiting) :
    after.work + next.body.load + 1 <= writer.work + sink.body.load := by
  cases moved with
  | count chunk _ accepted =>
    rw [Sink.beginWrite_body accepted]
    simp only [work]
    omega
  | refuse => simp only [work]; omega
  | put _ chunk offered =>
    have full : Channel.load { sink.body with place := some chunk, promised := none } = 1 := rfl
    rcases offered with rfl | rfl <;> simp only [work, full] <;> omega
  | queue _ chunk offered unclosed unpromised _ fresh =>
    have unqueued := (served unclosed).unqueued unpromised fresh
    rcases offered with rfl | rfl
    next =>
      have same : Channel.load { sink.body with waiting := sink.body.waiting ++ [handle] } = sink.body.load := rfl
      simp only [work, same]
      omega
    next => cases unqueued
  | abandon _ chunk offered => rcases offered with rfl | rfl <;> simp only [work] <;> omega

namespace Call

theorem spends_of_act {call after : EncodeCall} {action : CallAction EncodeHeader}
    (acted : call.act action = some after) :
    after.work + 1 <= call.work + 7 * (Session.replied [.onCall action]).length := by
  have moved := move_of_act acted
  cases action with
  | answer answer =>
    have unanswered := unanswered_of_act acted
    cases moved
    simp [work, unanswered]
    omega
  | takeRequest request =>
    cases moved with
    | takeRequest _ ready =>
      have empty : call.requests.taken.load = 0 := rfl
      have still : call.requests.taken.receiving = call.requests.receiving := rfl
      simp only [work, empty, still, Channel.load_of_place ready]
      omega
  | closeRequests =>
    simp only [act] at acted
    split at acted
    next possible =>
      simp only [Bool.and_eq_true] at possible
      cases acted
      have empty : call.requests.close.load = 0 := rfl
      have closed : call.requests.close.receiving = false := rfl
      simp only [work, empty, closed, possible.2, Bool.toNat_true, Bool.toNat_false]
      omega
    next => cases acted
  | reply reply =>
    cases moved
    have more : (call.replies.push reply).load 6 = call.replies.load 6 + 6 := by
      simp only [Source.load, Source.push, List.length_append, List.length_singleton]
      omega
    have noted : (Session.replied [.onCall (.reply reply)]).length = 1 := rfl
    simp only [work, more, noted]
    omega
  | endReplies =>
    simp only [act] at acted
    split at acted
    next possible =>
      have unended : call.replies.ended = false := by
        simp only [canReply, isOver, Bool.and_eq_true, Bool.not_eq_true', Bool.or_eq_false_iff] at possible
        exact possible.2.1.2
      cases acted
      have through : call.replies.finish.load 6 + 1 = call.replies.load 6 := by
        simp [Source.load, Source.finish, unended]
      simp only [work]
      omega
    next => cases acted

end Call

namespace Transcoder

theorem finishFeeder_spends {transcoder : Transcoder} (pipeline : Pipeline) (outcome : Except Fault Unit)
    (unfinished : transcoder.feeder.outcome? = none) :
    (transcoder.finishFeeder pipeline outcome).1.work + (transcoder.finishFeeder pipeline outcome).2.work + 1 <=
      transcoder.work + pipeline.work := by
  have running : 1 <= transcoder.feeder.phase.work := by
    unfold FeedPhase.work
    split
    case h_6 => simp_all [Feeder.outcome?]
    all_goals omega
  have finished : (FeedPhase.finished outcome).work = 0 := rfl
  have closed : pipeline.chunks.close.load = 0 := rfl
  have same : transcoder.call.requests.dropSender.load = transcoder.call.requests.load := rfl
  have still : transcoder.call.requests.dropSender.receiving = transcoder.call.requests.receiving := rfl
  simp only [finishFeeder, releaseFeeder, Feeder.finish, work, Call.work, Pipeline.work, finished, closed, same, still]
  omega

theorem Feeds.spends {transcoder after : Transcoder} {before pipeline : Pipeline}
    (moved : transcoder.Feeds before after pipeline)
    (served : transcoder.call.requests.receiving = true ->
      transcoder.call.requests.Serves Feeder.requestSender transcoder.feeder.phase.isWaiting) :
    after.work + pipeline.work + 1 <= transcoder.work + before.work := by
  have unfinished := moved.unfinished
  have emptied : before.chunks.taken.load = 0 := rfl
  cases moved with
  | first chunk descriptor reading going ready =>
    simp only [work, withFeeder, Pipeline.work, FeedPhase.work, reading, emptied, Channel.load_of_place ready]
    omega
  | next chunk reading going ready =>
    simp only [work, withFeeder, Feeder.datagram, Pipeline.work, FeedPhase.work, reading, emptied,
      Channel.load_of_place ready]
    omega
  | undescribed | drain | stop => exact finishFeeder_spends before _ unfinished
  | put request pending offered =>
    have full : Channel.load { transcoder.call.requests with place := some request, promised := none } = 1 := rfl
    -- Behind a header the first chunk is still to be sent.
    cases pending <;> rcases offered with phase | phase <;>
      simp only [work, withRequests, withFeeder, Feeder.sent, Feeder.datagram, Call.work, FeedPhase.work, phase, full] <;>
      omega
  | queue request pending offered going unclosed unpromised _ fresh =>
    have unqueued := (served unclosed).unqueued unpromised fresh
    rcases offered with phase | phase
    next =>
      have same : Channel.load { transcoder.call.requests with
        waiting := transcoder.call.requests.waiting ++ [Feeder.requestSender] } = transcoder.call.requests.load := rfl
      cases pending <;> simp only [work, withRequests, withFeeder, Call.work, FeedPhase.work, phase, same] <;> omega
    next =>
      rw [phase] at unqueued
      cases unqueued

theorem finishFetcher_spends (handle : Nat) (transcoder : Transcoder) (pipeline : Pipeline) (outcome : Except Fault Unit)
    (unfinished : transcoder.fetcher.outcome? = none) :
    (transcoder.finishFetcher handle pipeline outcome).1.work +
      (transcoder.finishFetcher handle pipeline outcome).2.work + 1 <= transcoder.work + pipeline.work := by
  have running : 1 <= transcoder.fetcher.work := by
    cases fetcher : transcoder.fetcher with
    | finished => simp [fetcher, Fetcher.outcome?] at unfinished
    | calling | reading | writing => simp only [Fetcher.work]; omega
  have finished : (Fetcher.finished outcome).work = 0 := rfl
  have released : pipeline.sink.Released _ := (Sink.Released.withdraw handle).trans .dropHandle
  have load := Channel.load_congr released.place
  simp only [finishFetcher, releaseFetcher, work, Call.work, Pipeline.work, finished, load]
  omega

theorem Fetches.spends {handle : Nat} {transcoder after : Transcoder} {before pipeline : Pipeline}
    (moved : transcoder.Fetches handle before after pipeline)
    (served : forall writer, transcoder.fetcher = .writing writer -> before.sink.body.receiving = true ->
      before.sink.body.Serves handle writer.isWaiting) :
    after.work + pipeline.work + 1 <= transcoder.work + before.work := by
  cases moved with
  | answered calling => simp only [work, Fetcher.work, calling]; omega
  | refused status calling => exact finishFetcher_spends handle transcoder before _ (by rw [calling]; rfl)
  | finish typed reading => exact finishFetcher_spends handle transcoder before _ (by rw [reading]; rfl)
  | unwritten fault writing => exact finishFetcher_spends handle transcoder before _ (by rw [writing]; rfl)
  | skip typed reply rest reading ready =>
    simp only [work, withReplies, Call.work, Source.load_cons ready]
    omega
  | receive typed reply rest datagram reading ready =>
    have body : Sink.body (if typed then before.sink else (before.sink.setHeader contentType transcodedType).2) =
        before.sink.body := by
      obtain ⟨headers, same, -⟩ := before.sink.setHeader_settable contentType transcodedType
      cases typed <;> simp [same]
    simp only [work, withReplies, Call.work, Fetcher.work, Writer.work, Pipeline.work, reading, Source.load_cons ready,
      body]
    omega
  | broken typed status rest reading ready =>
    have finished := finishFetcher_spends handle (transcoder.withReplies rest) before
      (.error (.streamTransport status)) (by rw [withReplies, reading]; rfl)
    have read : (transcoder.withReplies rest).work + 6 = transcoder.work := by
      simp only [work, withReplies, Call.work, Source.load_cons ready]
      omega
    omega
  | write writer later sink writing wrote =>
    have spent := wrote.spends (served writer writing)
    simp only [work, Fetcher.work, Pipeline.work, writing]
    omega
  | wrote writing => simp only [work, Fetcher.work, Writer.work, writing]; omega

theorem drop_work (handle : Nat) (transcoder : Transcoder) (pipeline : Pipeline) :
    (transcoder.drop handle pipeline).1.work = transcoder.work := by
  unfold drop
  by_cases fed : transcoder.feeder.outcome?.isSome = true <;>
    by_cases fetched : transcoder.fetcher.outcome?.isSome = true <;>
    simp [fed, fetched, releaseFeeder, releaseFetcher, work, Call.work, Channel.load, Channel.dropSender]

end Transcoder

namespace Session

def work (session : Session) : Nat :=
  session.forwarder.phase.work + session.emitter.work + session.pipeline.work + session.reader.work +
    session.emitted.isNone.toNat + (!session.isOver).toNat

variable {session next : Session} {action : Action} {transcoder : Transcoder} {emitter : Emitter}
  {actions : List Action} {messages : List StorageMessage} {put written : List Bytes} {heads : List ResponseHead}
  {frames : List Bytes}

theorem withSink_work {sink : Sink} (same : sink.body.place = session.sink.body.place) :
    (session.withSink sink).work = session.work := by
  have load : sink.body.load = session.pipeline.sink.body.load := Channel.load_congr same
  simp only [work, withSink, Pipeline.work, load]

theorem failInternal_work (session : Session) : (session.withSink session.sink.failInternal.2).work = session.work :=
  withSink_work (by simp)

theorem ended_spends (session : Session) (outcome : Except Fault UInt64) (unfinished : session.forwarded? = none) :
    (session.ended (session.forwarder.finish outcome)).work + 1 <= session.work := by
  have running : 1 <= session.forwarder.phase.work := by
    cases phase : session.forwarder.phase with
    | finished => simp [forwarded?, Forwarder.outcome?, phase] at unfinished
    | reading | sending | waiting => simp only [ForwardPhase.work]; omega
  have finished : (ForwardPhase.finished outcome).work = 0 := rfl
  have same : session.pipeline.chunks.dropSender.load = session.pipeline.chunks.load := rfl
  simp only [work, ended, Forwarder.finish, Pipeline.work, Source.load, List.length_nil, finished, same]
  omega

theorem Forwards.spends (moved : session.Forwards next)
    (served : session.pipeline.chunks.receiving = true ->
      session.pipeline.chunks.Serves Forwarder.chunkSender session.forwarder.phase.isWaiting) :
    next.work + 1 <= session.work := by
  have unfinished := moved.unfinished
  cases moved with
  | header video rest reading unclosed ready =>
    simp only [work, Pipeline.work, Source.load_cons ready]
    omega
  | datagram datagram rest reading unclosed ready =>
    simp only [work, Pipeline.work, ForwardPhase.work, reading, Source.load_cons ready]
    omega
  | refuse message rest fault =>
    have told := session.failInternal_work
    have spent := ended_spends (session.withSink session.sink.failInternal.2) (.error fault) unfinished
    rw [told] at spent
    exact spent
  | put payload held =>
    have full : Channel.load { session.pipeline.chunks with place := some payload, promised := none } = 1 := rfl
    unfold ForwardPhase.held at held
    split at held
    next phase => simp only [work, Pipeline.work, ForwardPhase.work, phase, full]; omega
    next phase => simp only [work, Pipeline.work, ForwardPhase.work, phase, full]; omega
    next => cases held
    next => cases held
  | queue payload held unclosed unpromised _ fresh =>
    have unqueued := (served unclosed).unqueued unpromised fresh
    have same : Channel.load { session.pipeline.chunks with
      waiting := session.pipeline.chunks.waiting ++ [Forwarder.chunkSender] } = session.pipeline.chunks.load := rfl
    unfold ForwardPhase.held at held
    split at held
    next phase => simp only [work, Pipeline.work, ForwardPhase.work, phase, same]; omega
    next phase => rw [phase] at unqueued; cases unqueued
    next => cases held
    next => cases held
  | abandon | finish => exact ended_spends session _ unfinished

theorem endEmitting_work (session : Session) (outcome : Except Fault Unit) :
    (session.endEmitting outcome).work <= session.work := by
  have returned : Session.work { session with emitted := some outcome } <= session.work := by
    simp only [work, Option.isNone_some, Bool.toNat_false]
    omega
  cases outcome with
  | ok _ => exact returned
  | error fault => simpa only [endEmitting, failInternal_work] using returned

theorem afterLeg_work (after : Transcoder) (pipeline : Pipeline) (mode : session.emitter = .transcoding transcoder) :
    (session.afterLeg after pipeline).work + transcoder.work + session.pipeline.work <=
      session.work + after.work + pipeline.work := by
  have moved : Session.work { session with emitter := .transcoding after, pipeline } + transcoder.work +
      session.pipeline.work = session.work + after.work + pipeline.work := by
    simp only [work, Emitter.work, mode]
    omega
  rw [← moved]
  unfold afterLeg
  split
  next => exact Nat.le_refl _
  next outcome _ => exact Nat.add_le_add_right (Nat.add_le_add_right (endEmitting_work _ outcome) _) _

theorem stored_spends {stored : Passthrough} (outcome : Except Fault Unit)
    (mode : session.emitter = .passthrough stored) (unfinished : stored.outcome? = none) :
    (session.stored outcome).work + 1 <= session.work := by
  have running : 1 <= stored.work := by
    cases stored with
    | finished => cases unfinished
    | receiving | writing => simp only [Passthrough.work]; omega
  have finished : (Passthrough.finished outcome).work = 0 := rfl
  have closed : session.pipeline.chunks.close.load = 0 := rfl
  have released : session.pipeline.sink.Released session.pipeline.sink.dropHandle := .dropHandle
  have load := Channel.load_congr released.place
  refine Nat.lt_of_le_of_lt (endEmitting_work _ outcome) ?_
  simp only [work, Emitter.work, Pipeline.work, mode, finished, closed, load]
  omega

theorem Stores.spends {stored : Passthrough} (moved : session.Stores stored next)
    (mode : session.emitter = .passthrough stored)
    (served : forall written writer, stored = .writing written writer -> session.sink.body.receiving = true ->
      session.sink.body.Serves emitterHandle writer.isWaiting) : next.work + 1 <= session.work := by
  have unfinished := moved.unfinished
  have emptied : session.pipeline.chunks.taken.load = 0 := rfl
  cases moved with
  | first chunk descriptor ready uncommitted =>
    have body : (descriptor.describe session.sink).body = session.pipeline.sink.body := by
      rw [descriptor.describe_eq uncommitted]
      rfl
    simp only [work, Emitter.work, Passthrough.work, Writer.work, Pipeline.work, mode, emptied, body,
      Channel.load_of_place ready]
    omega
  | next written chunk ready =>
    simp only [work, Emitter.work, Passthrough.work, Writer.work, Pipeline.work, mode, emptied,
      Channel.load_of_place ready]
    omega
  | undescribed | drain | unwritten => exact stored_spends _ mode unfinished
  | write written writer after sink wrote =>
    have spent := wrote.spends (served written writer rfl)
    have same : session.sink.body.load = session.pipeline.sink.body.load := rfl
    simp only [work, Emitter.work, Passthrough.work, Pipeline.work, mode]
    omega
  | wrote => simp only [work, Emitter.work, Passthrough.work, Writer.work, mode]; omega

theorem dropEmitter_work (session : Session) : session.dropEmitter.work <= session.work := by
  have dropped := session.dropEmitter_dropped
  have emitter : session.dropEmitter.emitter.work = session.emitter.work := by
    cases mode : session.emitter with
    | passthrough stored => rw [dropEmitter_passthrough mode]
    | transcoding transcoder =>
      rw [dropEmitter_transcoder mode]
      exact transcoder.drop_work emitterHandle session.pipeline
  have chunks : session.dropEmitter.pipeline.chunks.load <= session.pipeline.chunks.load := by
    rcases dropped.chunks with same | closed
    next => exact Nat.le_of_eq (congrArg Channel.load same)
    next => rw [closed]; exact Nat.zero_le _
  have body : session.dropEmitter.pipeline.sink.body.load = session.pipeline.sink.body.load :=
    Channel.load_congr dropped.sink.place
  simp only [work, Pipeline.work, emitter, body, dropped.forwarder, dropped.reader, dropped.emitted, dropped.isOver,
    dropped.frames]
  omega

theorem finish_spends (going : session.isOver = false) : session.finish.work + 1 <= session.work := by
  have told : (session.withSink session.sink.dropHandle).work = session.work :=
    withSink_work Sink.Released.dropHandle.place
  simp only [work, finish, withSink, going, Bool.not_true, Bool.not_false, Bool.toNat_true, Bool.toNat_false] at told ⊢
  omega

theorem cutShort_spends (going : session.isOver = false) : session.cutShort.work + 1 <= session.work := by
  have emptied : session.emptied.work <= session.work := by
    unfold Session.emptied
    split
    next => exact Nat.le_refl _
    next => exact session.dropEmitter_work
  have still : session.emptied.isOver = false := session.emptied_dropped.isOver.trans going
  unfold cutShort
  rw [← Session.emptied]
  generalize session.emptied = left at emptied still
  dsimp only
  split
  next => exact Nat.le_trans (finish_spends still) emptied
  next =>
    refine Nat.le_trans (finish_spends still) ?_
    have same : left.pipeline.chunks.dropSender.load = left.pipeline.chunks.load := rfl
    simp only [work, Pipeline.work, Source.load, List.length_nil, same] at emptied ⊢
    omega

theorem served_of_writing (answered : session.outlet.Answered written heads frames)
    (emitting : session.isEmitting = true) {writer : Writer} (writing : session.writer? = some writer)
    (unclosed : session.sink.body.receiving = true) : session.sink.body.Serves emitterHandle writer.isWaiting := by
  have served := answered.served unclosed emitting
  simpa [Session.outlet, Outlet.isWaiting, emitting, writing] using served

theorem Step.spends (step : session.Step action next) (coherent : session.Coherent)
    (answered : session.outlet.Answered written heads frames) (forwarded : Forwarded messages put session)
    (feeding : forall transcoder, session.emitter = .transcoding transcoder -> Feeding session transcoder) :
    next.work + 1 <= session.work + 11 * (delivered [action]).length + 7 * (replied [action]).length := by
  cases step with
  | forward _ _ moved => exact moved.spends forwarded.served
  | emit stored _ going mode moved =>
    refine moved.spends mode fun total writer same unclosed => ?_
    have running := (coherent stored mode).trans moved.unfinished
    exact served_of_writing answered (by simp [isEmitting, going, running, mode])
      (by simp [writer?, mode, same, Passthrough.writer?]) unclosed
  | feed transcoder after pipeline _ mode _ _ moved =>
    have spent := moved.spends fun unclosed => (feeding transcoder mode).served unclosed moved.unfinished
    have left := afterLeg_work after pipeline mode
    show _ <= session.work
    omega
  | fetch transcoder after pipeline going mode _ running moved =>
    have spent := moved.spends fun writer writing unclosed =>
      served_of_writing answered (by simp [isEmitting, going, running, mode, writing, Fetcher.outcome?])
        (by simp [writer?, mode, Transcoder.writer?, writing]) unclosed
    have left := afterLeg_work after pipeline mode
    show _ <= session.work
    omega
  | abort _ _ _ _ running =>
    have left := session.dropEmitter_work
    have still : session.dropEmitter.emitted = none := session.dropEmitter_dropped.emitted.trans running
    show session.abortEmitter.work + 1 <= session.work
    simp only [work, abortEmitter, still, Option.isNone_some, Option.isNone_none, Bool.toNat_true, Bool.toNat_false]
      at left ⊢
    omega
  | join going => exact finish_spends going
  | leave going => exact cutShort_spends going
  | deliver message =>
    have noted : (delivered [Action.deliver message]).length = 1 := rfl
    have more : (session.pipeline.frames.push message).load 10 = session.pipeline.frames.load 10 + 10 := by
      simp only [Source.load, Source.push, List.length_append, List.length_singleton]
      omega
    simp only [work, Pipeline.work, noted, more]
    omega
  | endStream _ unended =>
    have through : session.pipeline.frames.finish.load 10 + 1 = session.pipeline.frames.load 10 := by
      simp [Source.load, Source.finish, unended]
    simp only [work, Pipeline.work]
    omega
  | onCall move transcoder call mode acted =>
    have spent := Call.spends_of_act acted
    simp only [work, Emitter.work, Transcoder.work, mode]
    omega
  | receiveHead headers asked =>
    simp only [work, Reader.work, asked]
    omega
  | receiveFault status text asked =>
    have closed : session.sink.dropBody.body.load = 0 := rfl
    have read (rest : Bytes) : (Reader.message rest).work <= 2 := by cases rest <;> simp [Reader.work]
    have left := read (Text.utf8Bytes text)
    have awaited : Reader.asked.work = 3 := rfl
    simp only [work, withSink, Pipeline.work, asked, awaited, closed]
    omega
  | takeChunk chunk streaming ready =>
    have emptied : session.sink.body.taken.load = 0 := rfl
    have full : session.pipeline.sink.body.load = 1 := Channel.load_of_place ready
    simp only [work, withSink, Pipeline.work, streaming, emptied, full]
    omega
  | takeText text answered unread =>
    obtain ⟨first, rest, rfl⟩ := List.exists_cons_of_ne_nil unread
    simp only [work, Reader.work, answered]
    omega
  | disconnect present =>
    have closed : session.sink.dropBody.body.load = 0 := rfl
    have reading : 1 <= session.reader.work := by
      cases reader : session.reader with
      | gone => exact absurd reader present
      | message rest => cases rest <;> simp [Reader.work]
      | unasked | asked | body => simp [Reader.work]
    have gone : Reader.gone.work = 0 := rfl
    simp only [work, withSink, Pipeline.work, gone, closed]
    omega

theorem spends_of_run (fresh : emitter.Fresh) (run : Run (start emitter) actions session)
    (possible : session.act action = some next) :
    next.work + 1 <= session.work + 11 * (delivered [action]).length + 7 * (replied [action]).length := by
  obtain ⟨coherent, answered⟩ := answered_of_run fresh run
  exact (step_of_act possible).spends coherent answered (forwarded_of_run run)
    fun _ mode => feeding_of_fresh fresh run mode

theorem work_of_run (fresh : emitter.Fresh) (run : Run (start emitter) actions session) :
    actions.length + session.work <= 13 + 11 * (delivered actions).length + 7 * (replied actions).length := by
  refine run.keeps (fun done session =>
    done.length + session.work <= 13 + 11 * (delivered done).length + 7 * (replied done).length) ?_ ?_
  next =>
    cases fresh with
    | passthrough => decide
    | transcoding preset => exact Nat.le_refl 13
  next =>
    intro actions session action next run before possible
    have spent := spends_of_run fresh run possible
    simp only [delivered_append, replied_append, List.length_append, List.length_singleton]
    omega

end Session

end VideoRelay
