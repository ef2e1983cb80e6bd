import VideoRelay.Call
import VideoRelay.Session.Pipeline
import VideoRelay.Upload

set_option autoImplicit false

namespace VideoRelay

open Wire

abbrev EncodeCall := Call EncodeHeader

inductive FeedPhase where
  | reading
  | sending (request : EncodeVideoRequest) (pending : Option Bytes)
  | waiting (request : EncodeVideoRequest) (pending : Option Bytes)
  | finished (outcome : Except Fault Unit)

structure Feeder where
  offsets : RunningOffset := {}
  headerSent : Bool := false
  phase : FeedPhase := .reading

inductive Fetcher where
  | calling
  | reading (typed : Bool)
  | writing (writer : Writer)
  | finished (outcome : Except Fault Unit)

structure Transcoder where
  preset : Preset
  feeder : Feeder := {}
  fetcher : Fetcher := .calling
  call : EncodeCall := {}

def transcodedType : String := "video/mp4"

namespace Feeder

def requestSender : Nat := 0

def outcome? (feeder : Feeder) : Option (Except Fault Unit) :=
  match feeder.phase with
  | .finished outcome => some outcome
  | _ => none

def finish (feeder : Feeder) (outcome : Except Fault Unit) : Feeder :=
  { feeder with phase := .finished outcome }

def datagram (feeder : Feeder) (chunk : Bytes) : Feeder :=
  let (offset, offsets) := feeder.offsets.advance chunk.length
  { feeder with offsets, headerSent := true, phase := .sending (uploadDatagram offset chunk) none }

/-- The header goes out with the first chunk, in front of it. -/
def receive (feeder : Feeder) (preset : Preset) (pipeline : Pipeline) (chunk : Bytes) :
    Except Violation Feeder :=
  if feeder.headerSent then .ok (feeder.datagram chunk)
  else pipeline.descriptor.map fun descriptor =>
    { feeder with phase := .sending (uploadHeader descriptor.totalLength preset.id) (some chunk) }

def sent (feeder : Feeder) : Option Bytes -> Feeder
  | some chunk => feeder.datagram chunk
  | none => { feeder with phase := .reading }

end Feeder

namespace Fetcher

def outcome? : Fetcher -> Option (Except Fault Unit)
  | finished outcome => some outcome
  | _ => none

end Fetcher

namespace Transcoder

def releaseFeeder (transcoder : Transcoder) (pipeline : Pipeline) : Transcoder × Pipeline :=
  let requests := transcoder.call.requests.dropSender
  ({ transcoder with call := { transcoder.call with requests } },
    { pipeline with chunks := pipeline.chunks.close })

def releaseFetcher (handle : Nat) (transcoder : Transcoder) (pipeline : Pipeline) :
    Transcoder × Pipeline :=
  let sink := { pipeline.sink with body := pipeline.sink.body.withdraw handle }
  ({ transcoder with call := { transcoder.call with done := true, held := false } },
    { pipeline with sink := sink.dropHandle })

def finishFeeder (transcoder : Transcoder) (pipeline : Pipeline) (outcome : Except Fault Unit) :
    Transcoder × Pipeline :=
  { transcoder with feeder := transcoder.feeder.finish outcome }.releaseFeeder pipeline

def finishFetcher (handle : Nat) (transcoder : Transcoder) (pipeline : Pipeline)
    (outcome : Except Fault Unit) : Transcoder × Pipeline :=
  { transcoder with fetcher := .finished outcome }.releaseFetcher handle pipeline

def offerRequest (transcoder : Transcoder) (pipeline : Pipeline) (request : EncodeVideoRequest)
    (pending : Option Bytes) : Option (Transcoder × Pipeline) :=
  match transcoder.call.requests.offer Feeder.requestSender request with
  | .taken requests =>
    some ({ transcoder with
      feeder := transcoder.feeder.sent pending, call := { transcoder.call with requests } }, pipeline)
  | .queued requests =>
    some ({ transcoder with
      feeder := { transcoder.feeder with phase := .waiting request pending }
      call := { transcoder.call with requests } }, pipeline)
  | .closed => some (transcoder.finishFeeder pipeline (.ok ()))
  | .blocked => none

/-- The next step of the feeder. Before anything else it looks whether the call is over. -/
def feed (transcoder : Transcoder) (pipeline : Pipeline) : Option (Transcoder × Pipeline) :=
  match transcoder.feeder.phase with
  | .finished _ => none
  | phase =>
    if transcoder.call.done then some (transcoder.finishFeeder pipeline (.ok ()))
    else match phase with
      | .sending request pending | .waiting request pending =>
        transcoder.offerRequest pipeline request pending
      | _ =>
        match pipeline.chunks.take with
        | .item chunk chunks =>
          let pipeline := { pipeline with chunks }
          match transcoder.feeder.receive transcoder.preset pipeline chunk with
          | .ok feeder => some ({ transcoder with feeder }, pipeline)
          | .error violation =>
            some (transcoder.finishFeeder pipeline (.error (.ofViolation violation)))
        | .finished => some (transcoder.finishFeeder pipeline (.ok ()))
        | .nothing => none

def receiveReply (typed : Bool) (reply : EncodeVideoResponse) (sink : Sink) : Fetcher × Sink :=
  match reply.datagram with
  | none => (.reading typed, sink)
  | some datagram =>
    let sink := if typed then sink else (sink.setHeader contentType transcodedType).2
    (.writing (.starting datagram.payload), sink)

def fetch (handle : Nat) (transcoder : Transcoder) (pipeline : Pipeline) :
    Option (Transcoder × Pipeline) :=
  match transcoder.fetcher with
  | .calling =>
    transcoder.call.answer.map fun answer =>
      match answer with
      | .ok () => ({ transcoder with fetcher := .reading false }, pipeline)
      | .error status =>
        transcoder.finishFetcher handle pipeline (.error (.streamTransport status))
  | .reading typed =>
    match transcoder.call.replies.next with
    | .item (.error status) replies =>
      let transcoder := { transcoder with call := { transcoder.call with replies } }
      some (transcoder.finishFetcher handle pipeline (.error (.streamTransport status)))
    | .item (.ok reply) replies =>
      let (fetcher, sink) := receiveReply typed reply pipeline.sink
      some ({ transcoder with fetcher, call := { transcoder.call with replies } },
        { pipeline with sink })
    | .finished => some (transcoder.finishFetcher handle pipeline (.ok ()))
    | .nothing => none
  | .writing writer =>
    match writer.outcome? with
    | some (.ok ()) => some ({ transcoder with fetcher := .reading true }, pipeline)
    | some (.error fault) => some (transcoder.finishFetcher handle pipeline (.error fault))
    | none =>
      (writer.step handle pipeline.sink).map fun (writer, sink) =>
        ({ transcoder with fetcher := .writing writer }, { pipeline with sink })
  | .finished _ => none

/-- What both legs came to: the fetcher's fault goes before the feeder's. -/
def outcome? (transcoder : Transcoder) : Option (Except Fault Unit) :=
  match transcoder.fetcher.outcome?, transcoder.feeder.outcome? with
  | some received, some sent => some (received.bind fun _ => sent)
  | _, _ => none

def drop (handle : Nat) (transcoder : Transcoder) (pipeline : Pipeline) : Transcoder × Pipeline :=
  let (transcoder, pipeline) :=
    if transcoder.feeder.outcome?.isSome then (transcoder, pipeline)
    else transcoder.releaseFeeder pipeline
  if transcoder.fetcher.outcome?.isSome then (transcoder, pipeline)
  else transcoder.releaseFetcher handle pipeline

end Transcoder

end VideoRelay
