import VideoRelay.Proofs.Session.Moves.Writer
import VideoRelay.Session

set_option autoImplicit false

namespace VideoRelay

open Wire

namespace Feeder

variable (feeder : Feeder) (preset : Preset) (pipeline : Pipeline) (chunk : Bytes)

theorem receive_first {descriptor : Descriptor} (unsent : feeder.headerSent = false)
    (slotted : pipeline.slot = some descriptor) :
    feeder.receive preset pipeline chunk = .ok { feeder with
      phase := .sending (uploadHeader descriptor.totalLength preset.id) (some chunk) } := by
  simp [receive, unsent, Pipeline.descriptor, slotted, Except.map]

theorem receive_next (sent : feeder.headerSent = true) :
    feeder.receive preset pipeline chunk = .ok (feeder.datagram chunk) := by
  simp [receive, sent]

theorem receive_unslotted (unsent : feeder.headerSent = false) (unslotted : pipeline.slot = none) :
    feeder.receive preset pipeline chunk = .error .chunkBeforeDescriptor := by
  simp [receive, unsent, Pipeline.descriptor, unslotted, Except.map]

end Feeder

namespace Transcoder

def withFeeder (transcoder : Transcoder) (feeder : Feeder) : Transcoder :=
  { transcoder with feeder }

def withRequests (transcoder : Transcoder) (requests : Channel EncodeVideoRequest) : Transcoder :=
  { transcoder with call := { transcoder.call with requests } }

def withReplies (transcoder : Transcoder) (replies : List (Except Status EncodeVideoResponse)) : Transcoder :=
  { transcoder with call := { transcoder.call with replies := { transcoder.call.replies with items := replies } } }

inductive Feeds (transcoder : Transcoder) (pipeline : Pipeline) : Transcoder -> Pipeline -> Prop
  | first (chunk : Bytes) (descriptor : Descriptor) (reading : transcoder.feeder.phase = .reading)
      (going : transcoder.call.done = false) (ready : pipeline.chunks.place = some chunk)
      (unsent : transcoder.feeder.headerSent = false) (slotted : pipeline.slot = some descriptor) :
      Feeds transcoder pipeline
        (transcoder.withFeeder { transcoder.feeder with
          phase := .sending (uploadHeader descriptor.totalLength transcoder.preset.id) (some chunk) })
        { pipeline with chunks := pipeline.chunks.taken }
  | next (chunk : Bytes) (reading : transcoder.feeder.phase = .reading)
      (going : transcoder.call.done = false) (ready : pipeline.chunks.place = some chunk)
      (sent : transcoder.feeder.headerSent = true) :
      Feeds transcoder pipeline (transcoder.withFeeder (transcoder.feeder.datagram chunk))
        { pipeline with chunks := pipeline.chunks.taken }
  | undescribed (chunk : Bytes) (reading : transcoder.feeder.phase = .reading)
      (going : transcoder.call.done = false) (ready : pipeline.chunks.place = some chunk)
      (unsent : transcoder.feeder.headerSent = false) (unslotted : pipeline.slot = none) :
      Feeds transcoder pipeline
        (transcoder.finishFeeder pipeline (.error (.ofViolation .chunkBeforeDescriptor))).1
        (transcoder.finishFeeder pipeline (.error (.ofViolation .chunkBeforeDescriptor))).2
  | put (request : EncodeVideoRequest) (pending : Option Bytes)
      (offered : transcoder.feeder.phase = .sending request pending \/
        transcoder.feeder.phase = .waiting request pending)
      (going : transcoder.call.done = false) (unclosed : transcoder.call.requests.receiving = true)
      (granted : transcoder.call.requests.promised = some Feeder.requestSender \/
        transcoder.call.requests.isFree = true) :
      Feeds transcoder pipeline
        ((transcoder.withFeeder (transcoder.feeder.sent pending)).withRequests
          { transcoder.call.requests with place := some request, promised := none }) pipeline
  | queue (request : EncodeVideoRequest) (pending : Option Bytes)
      (offered : transcoder.feeder.phase = .sending request pending \/
        transcoder.feeder.phase = .waiting request pending)
      (going : transcoder.call.done = false) (unclosed : transcoder.call.requests.receiving = true)
      (unpromised : transcoder.call.requests.promised ≠ some Feeder.requestSender)
      (taken : transcoder.call.requests.isFree = false)
      (fresh : Feeder.requestSender ∉ transcoder.call.requests.waiting) :
      Feeds transcoder pipeline
        ((transcoder.withFeeder { transcoder.feeder with phase := .waiting request pending }).withRequests
          { transcoder.call.requests with
            waiting := transcoder.call.requests.waiting ++ [Feeder.requestSender] }) pipeline
  | drain (reading : transcoder.feeder.phase = .reading) (going : transcoder.call.done = false)
      (drained : pipeline.chunks.place = none) (through : pipeline.chunks.senders = 0) :
      Feeds transcoder pipeline (transcoder.finishFeeder pipeline (.ok ())).1
        (transcoder.finishFeeder pipeline (.ok ())).2
  | stop (unfinished : transcoder.feeder.outcome? = none)
      (through : transcoder.call.done = true \/ transcoder.call.requests.receiving = false) :
      Feeds transcoder pipeline (transcoder.finishFeeder pipeline (.ok ())).1
        (transcoder.finishFeeder pipeline (.ok ())).2

theorem feeds_of_feed {transcoder after : Transcoder} {pipeline next : Pipeline}
    (moved : transcoder.feed pipeline = some (after, next)) : transcoder.Feeds pipeline after next := by
  have offers (request : EncodeVideoRequest) (pending : Option Bytes)
      (offered : transcoder.feeder.phase = .sending request pending \/
        transcoder.feeder.phase = .waiting request pending)
      (going : transcoder.call.done = false)
      (moved : transcoder.offerRequest pipeline request pending = some (after, next)) :
      transcoder.Feeds pipeline after next := by
    unfold offerRequest at moved
    split at moved
    next requests taken =>
      obtain ⟨unclosed, granted, rfl⟩ := Channel.offer_eq_taken_iff.1 taken
      cases moved
      exact .put request pending offered going unclosed granted
    next requests queued =>
      obtain ⟨unclosed, unpromised, taken, fresh, rfl⟩ := Channel.offer_eq_queued_iff.1 queued
      cases moved
      exact .queue request pending offered going unclosed unpromised taken fresh
    next closed =>
      cases moved
      refine .stop ?_ (.inr (Channel.offer_eq_closed_iff.1 closed))
      rcases offered with sending | waiting
      next => simp [Feeder.outcome?, sending]
      next => simp [Feeder.outcome?, waiting]
    next => cases moved
  -- The end of the call is looked for before everything else, so that a feeder stops in any phase.
  cases going : transcoder.call.done with
  | true =>
    unfold feed at moved
    split at moved
    next => cases moved
    next unfinished =>
      simp only [going, ↓reduceIte, Option.some.injEq] at moved
      cases moved
      exact .stop (by unfold Feeder.outcome?; split <;> simp_all) (.inl going)
  | false =>
    cases phase : transcoder.feeder.phase with
    | reading =>
      simp only [feed, phase, going, Bool.false_eq_true, ↓reduceIte] at moved
      split at moved
      next chunk chunks taken =>
        obtain ⟨ready, rfl⟩ := Channel.take_eq_item_iff.1 taken
        let emptied := { pipeline with chunks := pipeline.chunks.taken }
        cases sent : transcoder.feeder.headerSent with
        | true =>
          rw [Feeder.receive_next _ _ emptied _ sent] at moved
          obtain ⟨rfl, rfl⟩ := Prod.mk.inj (Option.some.inj moved)
          exact .next chunk phase going ready sent
        | false =>
          cases slot : pipeline.slot with
          | none =>
            rw [Feeder.receive_unslotted _ _ emptied _ sent slot] at moved
            obtain ⟨rfl, rfl⟩ := Prod.mk.inj (Option.some.inj moved)
            exact .undescribed chunk phase going ready sent slot
          | some descriptor =>
            rw [Feeder.receive_first _ _ emptied _ sent slot] at moved
            obtain ⟨rfl, rfl⟩ := Prod.mk.inj (Option.some.inj moved)
            exact .first chunk descriptor phase going ready sent slot
      next finished =>
        obtain ⟨drained, through⟩ := Channel.take_eq_finished_iff.1 finished
        cases moved
        exact .drain phase going drained through
      next => cases moved
    | sending request pending =>
      simp only [feed, phase, going, Bool.false_eq_true, ↓reduceIte] at moved
      exact offers request pending (.inl phase) going moved
    | waiting request pending =>
      simp only [feed, phase, going, Bool.false_eq_true, ↓reduceIte] at moved
      exact offers request pending (.inr phase) going moved
    | finished outcome => simp [feed, phase] at moved

theorem feed_stuck {transcoder : Transcoder} {pipeline : Pipeline} (going : transcoder.call.done = false)
    (stuck : transcoder.feed pipeline = none) :
    transcoder.feeder.outcome?.isSome = true \/
      transcoder.feeder.phase = .reading /\ pipeline.chunks.place = none /\ pipeline.chunks.senders ≠ 0 \/
      exists request, transcoder.call.requests.offer Feeder.requestSender request = .blocked := by
  have offers (request : EncodeVideoRequest) (pending : Option Bytes)
      (stays : transcoder.offerRequest pipeline request pending = none) :
      transcoder.call.requests.offer Feeder.requestSender request = .blocked := by
    unfold offerRequest at stays
    split at stays
    next => cases stays
    next => cases stays
    next => cases stays
    next blocked => exact blocked
  cases phase : transcoder.feeder.phase with
  | finished outcome => exact .inl (by simp [Feeder.outcome?, phase])
  | sending request pending | waiting request pending =>
    simp only [feed, phase, going, Bool.false_eq_true, ↓reduceIte] at stuck
    exact .inr (.inr ⟨request, offers request pending stuck⟩)
  | reading =>
    simp only [feed, phase, going, Bool.false_eq_true, ↓reduceIte] at stuck
    refine .inr (.inl ⟨rfl, ?_⟩)
    split at stuck
    next => split at stuck <;> cases stuck
    next => cases stuck
    next nothing => exact Channel.take_eq_nothing_iff.1 nothing

inductive Fetches (handle : Nat) (transcoder : Transcoder) (pipeline : Pipeline) :
    Transcoder -> Pipeline -> Prop
  | answered (calling : transcoder.fetcher = .calling) (accepted : transcoder.call.answer = some (.ok ())) :
      Fetches handle transcoder pipeline { transcoder with fetcher := .reading false } pipeline
  | refused (status : Status) (calling : transcoder.fetcher = .calling)
      (refusal : transcoder.call.answer = some (.error status)) :
      Fetches handle transcoder pipeline
        (transcoder.finishFetcher handle pipeline (.error (.streamTransport status))).1
        (transcoder.finishFetcher handle pipeline (.error (.streamTransport status))).2
  | skip (typed : Bool) (reply : EncodeVideoResponse) (rest : List (Except Status EncodeVideoResponse))
      (reading : transcoder.fetcher = .reading typed)
      (ready : transcoder.call.replies.items = .ok reply :: rest) (bare : reply.datagram = none) :
      Fetches handle transcoder pipeline (transcoder.withReplies rest) pipeline
  | receive (typed : Bool) (reply : EncodeVideoResponse) (rest : List (Except Status EncodeVideoResponse))
      (datagram : Datagram) (reading : transcoder.fetcher = .reading typed)
      (ready : transcoder.call.replies.items = .ok reply :: rest) (carried : reply.datagram = some datagram) :
      Fetches handle transcoder pipeline
        { transcoder.withReplies rest with fetcher := .writing (.starting datagram.payload) }
        { pipeline with
          sink := if typed then pipeline.sink else (pipeline.sink.setHeader contentType transcodedType).2 }
  | broken (typed : Bool) (status : Status) (rest : List (Except Status EncodeVideoResponse))
      (reading : transcoder.fetcher = .reading typed)
      (ready : transcoder.call.replies.items = .error status :: rest) :
      Fetches handle transcoder pipeline
        ((transcoder.withReplies rest).finishFetcher handle pipeline (.error (.streamTransport status))).1
        ((transcoder.withReplies rest).finishFetcher handle pipeline (.error (.streamTransport status))).2
  | finish (typed : Bool) (reading : transcoder.fetcher = .reading typed)
      (drained : transcoder.call.replies.items = []) (through : transcoder.call.replies.ended = true) :
      Fetches handle transcoder pipeline (transcoder.finishFetcher handle pipeline (.ok ())).1
        (transcoder.finishFetcher handle pipeline (.ok ())).2
  | write (writer after : Writer) (sink : Sink) (writing : transcoder.fetcher = .writing writer)
      (moved : writer.Move handle pipeline.sink after sink) :
      Fetches handle transcoder pipeline { transcoder with fetcher := .writing after } { pipeline with sink }
  | wrote (writing : transcoder.fetcher = .writing (.finished (.ok ()))) :
      Fetches handle transcoder pipeline { transcoder with fetcher := .reading true } pipeline
  | unwritten (fault : Fault) (writing : transcoder.fetcher = .writing (.finished (.error fault))) :
      Fetches handle transcoder pipeline (transcoder.finishFetcher handle pipeline (.error fault)).1
        (transcoder.finishFetcher handle pipeline (.error fault)).2

theorem fetches_of_fetch {handle : Nat} {transcoder after : Transcoder} {pipeline next : Pipeline}
    (moved : transcoder.fetch handle pipeline = some (after, next)) :
    transcoder.Fetches handle pipeline after next := by
  cases fetcher : transcoder.fetcher with
  | calling =>
    simp only [fetch, fetcher, Option.map_eq_some_iff] at moved
    obtain ⟨answer, given, same⟩ := moved
    cases answer with
    | ok _ => cases same; exact .answered fetcher given
    | error status => cases same; exact .refused status fetcher given
  | reading typed =>
    simp only [fetch, fetcher] at moved
    cases ready : transcoder.call.replies.items with
    | nil =>
      cases through : transcoder.call.replies.ended with
      | false => simp [Source.next, ready, through] at moved
      | true =>
        simp only [Source.next, ready, through, ↓reduceIte] at moved
        cases moved
        exact .finish typed fetcher ready through
    | cons reply rest =>
      simp only [Source.next, ready] at moved
      cases reply with
      | error status => cases moved; exact .broken typed status rest fetcher ready
      | ok reply =>
        cases carried : reply.datagram with
        | none =>
          have same : after = transcoder.withReplies rest /\ next = pipeline := by
            simp only [receiveReply, carried, ← fetcher] at moved
            obtain ⟨rfl, rfl⟩ := Prod.mk.inj (Option.some.inj moved)
            exact ⟨rfl, rfl⟩
          rw [same.1, same.2]
          exact .skip typed reply rest fetcher ready carried
        | some datagram =>
          simp only [receiveReply, carried] at moved
          cases moved
          exact .receive typed reply rest datagram fetcher ready carried
  | writing writer =>
    simp only [fetch, fetcher] at moved
    cases through : writer.outcome? with
    | none =>
      simp only [through, Option.map_eq_some_iff] at moved
      obtain ⟨⟨later, sink⟩, wrote, same⟩ := moved
      cases same
      exact .write writer later sink fetcher (Writer.move_of_step wrote)
    | some outcome =>
      cases writer with
      | finished result =>
        cases through
        cases outcome with
        | ok _ => cases moved; exact .wrote fetcher
        | error fault => cases moved; exact .unwritten fault fetcher
      | _ => cases through
  | finished outcome => simp [fetch, fetcher] at moved

end Transcoder

end VideoRelay
