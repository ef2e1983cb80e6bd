import VideoRelay.Proofs.Masking
import VideoRelay.Session

set_option autoImplicit false

namespace VideoRelay

open Wire

def ForwardPhase.masked : ForwardPhase -> ForwardPhase
  | finished outcome => finished (maskFault outcome)
  | reading => reading
  | sending payload => sending payload
  | waiting payload => waiting payload

def Writer.masked : Writer -> Writer
  | finished outcome => finished (maskFault outcome)
  | starting chunk => starting chunk
  | offering chunk => offering chunk
  | waiting chunk => waiting chunk

def Passthrough.masked : Passthrough -> Passthrough
  | receiving written => receiving written
  | writing written writer => writing written writer.masked
  | finished outcome => finished (maskFault outcome)

def FeedPhase.masked : FeedPhase -> FeedPhase
  | finished outcome => finished (maskFault outcome)
  | reading => reading
  | sending request pending => sending request pending
  | waiting request pending => waiting request pending

def Fetcher.masked : Fetcher -> Fetcher
  | calling => calling
  | reading typed => reading typed
  | writing writer => writing writer.masked
  | finished outcome => finished (maskFault outcome)

def Forwarder.masked (forwarder : Forwarder) : Forwarder :=
  { forwarder with phase := forwarder.phase.masked }

def Feeder.masked (feeder : Feeder) : Feeder :=
  { feeder with phase := feeder.phase.masked }

def Transcoder.masked (transcoder : Transcoder) : Transcoder :=
  { transcoder with
    feeder := transcoder.feeder.masked, fetcher := transcoder.fetcher.masked, call := transcoder.call.masked }

def Pipeline.masked (pipeline : Pipeline) : Pipeline :=
  { pipeline with frames := pipeline.frames.masked }

def Emitter.masked : Emitter -> Emitter
  | passthrough emitter => passthrough emitter.masked
  | transcoding transcoder => transcoding transcoder.masked

@[simp]
theorem ForwardPhase.masked_masked (phase : ForwardPhase) : phase.masked.masked = phase.masked := by
  cases phase <;> simp [masked]

@[simp]
theorem Writer.masked_masked (writer : Writer) : writer.masked.masked = writer.masked := by
  cases writer <;> simp [masked]

@[simp]
theorem Passthrough.masked_masked (emitter : Passthrough) : emitter.masked.masked = emitter.masked := by
  cases emitter <;> simp [masked]

@[simp]
theorem FeedPhase.masked_masked (phase : FeedPhase) : phase.masked.masked = phase.masked := by
  cases phase <;> simp [masked]

@[simp]
theorem Fetcher.masked_masked (fetcher : Fetcher) : fetcher.masked.masked = fetcher.masked := by
  cases fetcher <;> simp [masked]

@[simp]
theorem Forwarder.masked_masked (forwarder : Forwarder) : forwarder.masked.masked = forwarder.masked := by
  simp [masked]

@[simp]
theorem Feeder.masked_masked (feeder : Feeder) : feeder.masked.masked = feeder.masked := by
  simp [masked]

@[simp]
theorem Transcoder.masked_masked (transcoder : Transcoder) : transcoder.masked.masked = transcoder.masked := by
  simp [masked]

@[simp]
theorem Pipeline.masked_masked (pipeline : Pipeline) : pipeline.masked.masked = pipeline.masked := by
  simp [masked]

@[simp]
theorem Emitter.masked_masked (emitter : Emitter) : emitter.masked.masked = emitter.masked := by
  cases emitter <;> simp [masked]

@[simp]
theorem Forwarder.outcome?_masked (forwarder : Forwarder) :
    forwarder.masked.outcome? = forwarder.outcome?.map maskFault := by
  obtain ⟨order, forwarded, phase⟩ := forwarder
  cases phase <;> rfl

@[simp]
theorem Passthrough.outcome?_masked (emitter : Passthrough) :
    emitter.masked.outcome? = emitter.outcome?.map maskFault := by
  cases emitter <;> rfl

@[simp]
theorem Feeder.outcome?_masked (feeder : Feeder) : feeder.masked.outcome? = feeder.outcome?.map maskFault := by
  obtain ⟨offsets, headerSent, phase⟩ := feeder
  cases phase <;> rfl

@[simp]
theorem Fetcher.outcome?_masked (fetcher : Fetcher) : fetcher.masked.outcome? = fetcher.outcome?.map maskFault := by
  cases fetcher <;> rfl

@[simp]
theorem Transcoder.outcome?_masked (transcoder : Transcoder) :
    transcoder.masked.outcome? = transcoder.outcome?.map maskFault := by
  simp only [outcome?, masked, Fetcher.outcome?_masked, Feeder.outcome?_masked]
  cases transcoder.fetcher.outcome? with
  | none => rfl
  | some received =>
    cases transcoder.feeder.outcome? with
    | none => rfl
    | some sent => cases received <;> rfl

namespace Forwarder

def maskMove (move : Forwarder × Pipeline) : Forwarder × Pipeline :=
  (move.1.masked, move.2.masked)

theorem receive_masked (forwarder : Forwarder) (pipeline : Pipeline) (message : StorageMessage) :
    maskFault (forwarder.masked.receive pipeline.masked (maskStatus message)) =
      maskFault ((forwarder.receive pipeline message).map maskMove) := by
  cases message with
  | error status => rfl
  | ok response =>
    obtain ⟨⟨headerSeen⟩, forwarded, phase⟩ := forwarder
    obtain ⟨frames, slot, chunks, sink⟩ := pipeline
    cases response with
    | empty => rfl
    | header video => cases headerSeen <;> cases slot <;> rfl
    | datagram datagram => cases headerSeen <;> rfl

theorem offer_masked (forwarder : Forwarder) (pipeline : Pipeline) (payload : Bytes) :
    forwarder.masked.offer pipeline.masked payload = (forwarder.offer pipeline payload).map maskMove := by
  simp only [offer, show pipeline.masked.chunks = pipeline.chunks from rfl]
  split <;> rfl

@[simp]
theorem maskMove_maskMove (move : Forwarder × Pipeline) : maskMove (maskMove move) = maskMove move := by
  simp [maskMove]

theorem step_masked (forwarder : Forwarder) (pipeline : Pipeline) :
    (forwarder.masked.step pipeline.masked).map maskMove = (forwarder.step pipeline).map maskMove := by
  obtain ⟨order, forwarded, phase⟩ := forwarder
  have offers (payload : Bytes) (phase : ForwardPhase) :
      (offer (masked ⟨order, forwarded, phase⟩) pipeline.masked payload).map maskMove =
        (offer ⟨order, forwarded, phase⟩ pipeline payload).map maskMove := by
    simp [offer_masked, Function.comp_def]
  cases phase with
  | finished outcome => rfl
  | sending payload => exact offers payload (.sending payload)
  | waiting payload => exact offers payload (.waiting payload)
  | reading =>
    obtain ⟨⟨items, ended⟩, slot, chunks, sink⟩ := pipeline
    cases receiving : chunks.receiving with
    | false => simp [step, masked, ForwardPhase.masked, Pipeline.masked, receiving, maskMove]
    | true =>
      cases items with
      | nil =>
        cases ended <;>
          simp [step, masked, ForwardPhase.masked, Pipeline.masked, Source.masked, Source.next, receiving, maskMove]
      | cons message rest =>
        have received := receive_masked ⟨order, forwarded, .reading⟩ ⟨⟨rest, ended⟩, slot, chunks, sink⟩ message
        simp only [step, masked, ForwardPhase.masked, Pipeline.masked, Source.masked, Source.next, receiving,
          List.map_cons, Bool.not_true, Bool.false_eq_true, ↓reduceIte] at received ⊢
        -- A message is taken in the same way, or both forwarders fail.
        cases result : receive ⟨order, forwarded, .reading⟩ ⟨⟨rest, ended⟩, slot, chunks, sink⟩ message with
        | ok moved =>
          rw [result] at received
          rcases eq_or_faults received with ⟨_, taken, same⟩ | ⟨_, _, _, failed, _⟩
          next => cases same; rw [taken]; simp
          next => cases failed
        | error fault =>
          rw [result] at received
          rcases eq_or_faults received with ⟨_, _, same⟩ | ⟨later, _, refused, failed, alike⟩
          next => cases same
          next =>
            cases failed
            rw [refused]
            simp [maskMove, finish, masked, ForwardPhase.masked, Pipeline.masked, Source.masked, alike,
              Function.comp_def]

end Forwarder

namespace Passthrough

def maskMove (move : Passthrough × Pipeline) : Passthrough × Pipeline :=
  (move.1.masked, move.2.masked)

theorem describe_masked (written : UInt64) (pipeline : Pipeline) :
    describe written pipeline.masked = (describe written pipeline).map Pipeline.masked := by
  obtain ⟨frames, slot, chunks, sink⟩ := pipeline
  cases described : (decide (written = 0) && !sink.isCommitted) with
  | false => simp [describe, Pipeline.masked, described, Except.map]
  | true => cases slot <;> simp only [describe, Pipeline.masked, described, ↓reduceIte] <;> rfl

@[simp]
theorem maskMove_maskMove (move : Passthrough × Pipeline) : maskMove (maskMove move) = maskMove move := by
  simp [maskMove]

theorem step_masked (handle : Nat) (emitter : Passthrough) (pipeline : Pipeline) :
    (emitter.masked.step handle pipeline.masked).map maskMove = (emitter.step handle pipeline).map maskMove := by
  cases emitter with
  | finished outcome => rfl
  | receiving written =>
    simp only [step, masked, show pipeline.masked.chunks = pipeline.chunks from rfl]
    split
    next chunk chunks taken =>
      have described : describe written { pipeline.masked with chunks } =
          (describe written { pipeline with chunks }).map Pipeline.masked :=
        describe_masked written { pipeline with chunks }
      rw [described]
      cases describe written { pipeline with chunks } <;> simp [Except.map, maskMove, Pipeline.masked]
    next => simp [maskMove]
    next => rfl
  | writing written writer =>
    cases writer with
    | finished outcome => cases outcome <;> simp [step, masked, Writer.masked, Writer.outcome?, maskMove]
    | starting chunk | offering chunk | waiting chunk =>
      simp only [step, masked, Writer.masked, Writer.outcome?, Option.map_map,
        show pipeline.masked.sink = pipeline.sink from rfl]
      congr 1
      funext move
      simp [maskMove, masked, Pipeline.masked]

end Passthrough

theorem Feeder.receive_masked (feeder : Feeder) (preset : Preset) (pipeline : Pipeline) (chunk : Bytes) :
    feeder.masked.receive preset pipeline.masked chunk = (feeder.receive preset pipeline chunk).map masked := by
  obtain ⟨offsets, headerSent, phase⟩ := feeder
  obtain ⟨frames, slot, chunks, sink⟩ := pipeline
  cases headerSent <;> cases slot <;> rfl

namespace Transcoder

def maskMove (move : Transcoder × Pipeline) : Transcoder × Pipeline :=
  (move.1.masked, move.2.masked)

@[simp]
theorem maskMove_maskMove (move : Transcoder × Pipeline) : maskMove (maskMove move) = maskMove move := by
  simp [maskMove]

theorem maskMove_finishFeeder (transcoder : Transcoder) (pipeline : Pipeline) (outcome : Except Fault Unit) :
    maskMove (transcoder.finishFeeder pipeline outcome) =
      transcoder.masked.finishFeeder pipeline.masked (maskFault outcome) := rfl

theorem maskMove_finishFetcher (handle : Nat) (transcoder : Transcoder) (pipeline : Pipeline)
    (outcome : Except Fault Unit) : maskMove (transcoder.finishFetcher handle pipeline outcome) =
      transcoder.masked.finishFetcher handle pipeline.masked (maskFault outcome) := rfl

theorem finishFeeder_masked (transcoder : Transcoder) (pipeline : Pipeline) (outcome : Except Fault Unit) :
    maskMove (transcoder.masked.finishFeeder pipeline.masked outcome) =
      maskMove (transcoder.finishFeeder pipeline outcome) := by
  simp [maskMove_finishFeeder]

theorem finishFetcher_masked (handle : Nat) (transcoder : Transcoder) (pipeline : Pipeline)
    {outcome other : Except Fault Unit} (same : maskFault outcome = maskFault other) :
    maskMove (transcoder.masked.finishFetcher handle pipeline.masked outcome) =
      maskMove (transcoder.finishFetcher handle pipeline other) := by
  simp [maskMove_finishFetcher, same]

theorem offerRequest_masked (transcoder : Transcoder) (pipeline : Pipeline) (request : EncodeVideoRequest)
    (pending : Option Bytes) :
    transcoder.masked.offerRequest pipeline.masked request pending =
      (transcoder.offerRequest pipeline request pending).map maskMove := by
  simp only [offerRequest, show transcoder.masked.call.requests = transcoder.call.requests from rfl]
  split
  next => cases pending <;> rfl
  next => rfl
  next => rfl
  next => rfl

theorem feed_masked (transcoder : Transcoder) (pipeline : Pipeline) :
    (transcoder.masked.feed pipeline.masked).map maskMove = (transcoder.feed pipeline).map maskMove := by
  obtain ⟨preset, ⟨offsets, headerSent, phase⟩, fetcher, call⟩ := transcoder
  -- The faults of the feeder are its own, and are the same on both sides.
  have finishes (pipeline : Pipeline) :=
    finishFeeder_masked ⟨preset, ⟨offsets, headerSent, phase⟩, fetcher, call⟩ pipeline
  have offers := offerRequest_masked ⟨preset, ⟨offsets, headerSent, phase⟩, fetcher, call⟩ pipeline
  have through : call.masked.done = call.done := rfl
  have waiting : pipeline.masked.chunks = pipeline.chunks := rfl
  cases phase with
  | finished outcome => rfl
  | sending request pending | waiting request pending =>
    simp only [feed, masked, Feeder.masked, FeedPhase.masked, through] at finishes offers ⊢
    split
    next => exact congrArg some (finishes pipeline _)
    next => simp [offers, Function.comp_def]
  | reading =>
    simp only [feed, masked, Feeder.masked, FeedPhase.masked, through, waiting] at finishes ⊢
    split
    next => exact congrArg some (finishes pipeline _)
    next =>
      split
      next chunk chunks taken =>
        have received : Feeder.receive ⟨offsets, headerSent, .reading⟩ preset { pipeline.masked with chunks } chunk =
            (Feeder.receive ⟨offsets, headerSent, .reading⟩ preset { pipeline with chunks } chunk).map Feeder.masked :=
          Feeder.receive_masked ⟨offsets, headerSent, .reading⟩ preset { pipeline with chunks } chunk
        rw [received]
        cases Feeder.receive ⟨offsets, headerSent, .reading⟩ preset { pipeline with chunks } chunk with
        | ok feeder => simp [Except.map, maskMove, masked, Pipeline.masked]
        | error violation => exact congrArg some (finishes { pipeline with chunks } _)
      next => exact congrArg some (finishes pipeline _)
      next => rfl

theorem fetch_masked (handle : Nat) (transcoder : Transcoder) (pipeline : Pipeline) :
    (transcoder.masked.fetch handle pipeline.masked).map maskMove =
      (transcoder.fetch handle pipeline).map maskMove := by
  obtain ⟨preset, feeder, fetcher, call⟩ := transcoder
  -- A status ends the fetcher on both sides, and nothing but its text differs.
  have finishes (call : EncodeCall) {outcome other : Except Fault Unit} (same : maskFault outcome = maskFault other) :
      maskMove (finishFetcher handle (masked ⟨preset, feeder, fetcher, call⟩) pipeline.masked outcome) =
        maskMove (finishFetcher handle ⟨preset, feeder, fetcher, call⟩ pipeline other) :=
    finishFetcher_masked handle _ pipeline same
  cases fetcher with
  | finished outcome => rfl
  | calling =>
    obtain ⟨requests, answer, replies, done, held⟩ := call
    rcases answer with - | status | -
    next => rfl
    next => exact congrArg some (finishes _ rfl)
    next => simp [fetch, masked, Fetcher.masked, Call.masked, maskMove]
  | reading typed =>
    obtain ⟨requests, answer, ⟨items, ended⟩, done, held⟩ := call
    rcases items with - | ⟨status | reply, rest⟩
    next =>
      cases ended with
      | true => exact congrArg some (finishes _ rfl)
      | false => rfl
    next => exact congrArg some (finishes ⟨requests, answer, ⟨rest, ended⟩, done, held⟩ rfl)
    next =>
      have received : fetch handle (masked ⟨preset, feeder, .reading typed,
            ⟨requests, answer, ⟨.ok reply :: rest, ended⟩, done, held⟩⟩) pipeline.masked =
          (fetch handle ⟨preset, feeder, .reading typed, ⟨requests, answer, ⟨.ok reply :: rest, ended⟩, done, held⟩⟩
            pipeline).map maskMove := by
        cases carried : reply.datagram <;>
          simp only [fetch, masked, Fetcher.masked, Call.masked, Source.masked, List.map_cons, maskStatus_ok,
            Source.next, receiveReply, carried] <;> rfl
      simp [received, Function.comp_def]
  | writing writer =>
    cases writer with
    | finished outcome =>
      cases outcome with
      | ok _ => simp [fetch, masked, Fetcher.masked, Writer.masked, Writer.outcome?, maskMove]
      | error fault => exact congrArg some (finishes call (maskFault_maskFault (.error fault)))
    | starting chunk | offering chunk | waiting chunk =>
      simp only [fetch, masked, Fetcher.masked, Writer.masked, Writer.outcome?, Option.map_map,
        show pipeline.masked.sink = pipeline.sink from rfl]
      congr 1
      funext move
      simp [maskMove, masked, Fetcher.masked, Pipeline.masked]

theorem drop_masked (handle : Nat) (transcoder : Transcoder) (pipeline : Pipeline) :
    transcoder.masked.drop handle pipeline.masked = maskMove (transcoder.drop handle pipeline) := by
  have fed : transcoder.masked.feeder.outcome?.isSome = transcoder.feeder.outcome?.isSome := by
    simp [masked]
  have fetched : transcoder.masked.fetcher.outcome?.isSome = transcoder.fetcher.outcome?.isSome := by
    simp [masked]
  unfold drop
  by_cases through : transcoder.feeder.outcome?.isSome = true <;>
    by_cases closed : transcoder.fetcher.outcome?.isSome = true <;>
    simp only [fed, through, fetched, closed, releaseFeeder, Bool.false_eq_true, ↓reduceIte] <;> rfl

end Transcoder

end VideoRelay
