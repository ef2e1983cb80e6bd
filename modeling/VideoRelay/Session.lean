import VideoRelay.Session.Passthrough
import VideoRelay.StreamRequest
import VideoRelay.Session.Transcoder

/-!
Relay sessions. One task holds the forwarder and the emitter and runs them side by side; storage, encoder and
client act from outside. Each action is one atomic move, and a run of a session is any sequence of them.
-/

set_option autoImplicit false

namespace VideoRelay

open Wire

inductive Emitter where
  | passthrough (emitter : Passthrough)
  | transcoding (transcoder : Transcoder)

structure Session where
  pipeline : Pipeline
  forwarder : Forwarder := {}
  emitter : Emitter
  emitted : Option (Except Fault Unit) := none
  /-- Raised when the storage read has failed, before the chunk channel ends. -/
  abort : Bool := false
  reader : Reader := .asked
  isOver : Bool := false

namespace Session

/-- The emitter's handle on the sink; the session keeps one of its own. -/
def emitterHandle : Nat := 0

def start (emitter : Emitter) : Session :=
  { emitter, pipeline := { sink := { body := { senders := 2 } } } }

def passthrough : Session :=
  start (.passthrough .start)

def transcoding (preset : Preset) : Session :=
  start (.transcoding { preset })

def sink (session : Session) : Sink :=
  session.pipeline.sink

def withSink (session : Session) (sink : Sink) : Session :=
  { session with pipeline := { session.pipeline with sink } }

def forwarded? (session : Session) : Option (Except Fault UInt64) :=
  session.forwarder.outcome?

def call? (session : Session) : Option EncodeCall :=
  match session.emitter with
  | .passthrough _ => none
  | .transcoding transcoder => some transcoder.call

def withCall (session : Session) (call : EncodeCall) : Session :=
  match session.emitter with
  | .passthrough _ => session
  | .transcoding transcoder => { session with emitter := .transcoding { transcoder with call } }

/-- After the forwarder is over: a failure is announced and reported first, then the chunk channel ends. -/
def endForwarding (session : Session) : Session :=
  let session := match session.forwarded? with
    | some (.error _) => { session with abort := true }.withSink session.sink.failInternal.2
    | _ => session
  { session with pipeline := { session.pipeline with
      chunks := session.pipeline.chunks.dropSender
      frames := { session.pipeline.frames with items := [] } } }

def forward (session : Session) : Option Session :=
  (session.forwarder.step session.pipeline).map fun (forwarder, pipeline) =>
    let session := { session with forwarder, pipeline }
    if forwarder.outcome?.isSome then session.endForwarding else session

def endEmitting (session : Session) (outcome : Except Fault Unit) : Session :=
  let session := { session with emitted := some outcome }
  match outcome with
  | .ok _ => session
  | .error _ => session.withSink session.sink.failInternal.2

def emitStored (session : Session) (emitter : Passthrough) : Option Session :=
  (emitter.step emitterHandle session.pipeline).map fun (emitter, pipeline) =>
    match emitter.outcome? with
    | none => { session with emitter := .passthrough emitter, pipeline }
    | some outcome =>
      let pipeline := { pipeline with chunks := pipeline.chunks.close, sink := pipeline.sink.dropHandle }
      { session with emitter := .passthrough emitter, pipeline }.endEmitting outcome

def afterLeg (session : Session) (transcoder : Transcoder) (pipeline : Pipeline) : Session :=
  let session := { session with emitter := .transcoding transcoder, pipeline }
  match transcoder.outcome? with
  | none => session
  | some outcome => session.endEmitting outcome

def dropEmitter (session : Session) : Session :=
  match session.emitter with
  | .passthrough _ =>
    let body := session.sink.body.withdraw emitterHandle
    { session with pipeline := { session.pipeline with
        chunks := session.pipeline.chunks.close
        sink := { session.sink with body }.dropHandle } }
  | .transcoding transcoder =>
    let (transcoder, pipeline) := transcoder.drop emitterHandle session.pipeline
    { session with emitter := .transcoding transcoder, pipeline }

def abortEmitter (session : Session) : Session :=
  { session.dropEmitter with emitted := some (.ok ()) }

def finish (session : Session) : Session :=
  { session.withSink session.sink.dropHandle with isOver := true }

/-- The client is gone: whatever still runs is dropped. -/
def cutShort (session : Session) : Session :=
  let session := if session.emitted.isSome then session else session.dropEmitter
  let session := if session.forwarded?.isSome then session else
    { session with pipeline := { session.pipeline with
        frames := { session.pipeline.frames with items := [] }
        chunks := session.pipeline.chunks.dropSender } }
  session.finish

inductive Action where
  | forward | emit | feed | fetch | abort | join | leave
  | deliver (message : StorageMessage)
  | endStream
  | onCall (action : CallAction EncodeHeader)
  | receiveHead (head : ResponseHead)
  | takeFrame (frame : Bytes)
  | disconnect

def Action.isOwn : Action -> Bool
  | forward | emit | feed | fetch | abort | join | leave => true
  | _ => false

def isReading (session : Session) : Bool :=
  !session.isOver && session.forwarded?.isNone

def own (session : Session) (action : Action) : Option Session :=
  if session.isOver then none
  else match action, session.emitter with
    | .forward, _ => session.forward
    | .emit, .passthrough emitter => session.emitStored emitter
    | .feed, .transcoding transcoder =>
      if session.abort || session.emitted.isSome then none
      else (transcoder.feed session.pipeline).map fun (transcoder, pipeline) =>
        session.afterLeg transcoder pipeline
    | .fetch, .transcoding transcoder =>
      if session.abort || session.emitted.isSome then none
      else (transcoder.fetch emitterHandle session.pipeline).map fun (transcoder, pipeline) =>
        session.afterLeg transcoder pipeline
    | .abort, .transcoding _ =>
      if session.abort && session.emitted.isNone then some session.abortEmitter else none
    | .join, _ =>
      if session.forwarded?.isSome && session.emitted.isSome then some session.finish else none
    | .leave, _ => if session.sink.isClosed then some session.cutShort else none
    | _, _ => none

def deliver (session : Session) (message : StorageMessage) : Option Session :=
  if session.isReading && !session.pipeline.frames.ended then
    some { session with pipeline := { session.pipeline with
      frames := session.pipeline.frames.push message } }
  else none

def endStream (session : Session) : Option Session :=
  if session.isReading && !session.pipeline.frames.ended then
    some { session with pipeline := { session.pipeline with frames := session.pipeline.frames.finish } }
  else none

def onClient (session : Session) : Action -> Option Session
  | .receiveHead head =>
    match session.reader.receiveHead session.sink with
    | some (decided, reader, sink) =>
      if decided = head then some ({ session with reader }.withSink sink) else none
    | none => none
  | .takeFrame frame =>
    match session.reader.read session.sink with
    | some (.frame first reader sink) =>
      if first = frame then some ({ session with reader }.withSink sink) else none
    | _ => none
  | .disconnect =>
    match session.reader with
    | .gone => none
    | _ => some ({ session with reader := .gone }.withSink session.sink.dropBody)
  | _ => none

def act (session : Session) (action : Action) : Option Session :=
  match action with
  | .deliver message => session.deliver message
  | .endStream => session.endStream
  | .receiveHead _ | .takeFrame _ | .disconnect => session.onClient action
  | .onCall action => session.call?.bind fun call => (call.act action).map session.withCall
  | _ => session.own action

inductive Run : Session -> List Action -> Session -> Prop
  | done (session : Session) : Run session [] session
  | act {first next last : Session} {action : Action} {rest : List Action}
      (possible : first.act action = some next) (run : Run next rest last) :
      Run first (action :: rest) last

def Reachable (initial session : Session) : Prop :=
  exists actions, Run initial actions session

theorem Run.append {first middle last : Session} {before after : List Action}
    (left : Run first before middle) (right : Run middle after last) :
    Run first (before ++ after) last := by
  induction left with
  | done => exact right
  | act possible _ ih => exact .act possible (ih right)

end Session

end VideoRelay
