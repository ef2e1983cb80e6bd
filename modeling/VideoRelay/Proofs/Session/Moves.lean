import VideoRelay.Proofs.Session.Moves.Forwarder
import VideoRelay.Proofs.Session.Moves.Passthrough
import VideoRelay.Proofs.Session.Moves.Transcoder

set_option autoImplicit false

namespace VideoRelay

open Wire

namespace Session

inductive Step (session : Session) : Action -> Session -> Prop
  | forward (next : Session) (going : session.isOver = false) (moved : session.Forwards next) :
      Step session .forward next
  | emit (emitter : Passthrough) (next : Session) (going : session.isOver = false)
      (mode : session.emitter = .passthrough emitter) (moved : session.Stores emitter next) :
      Step session .emit next
  | feed (transcoder after : Transcoder) (pipeline : Pipeline) (going : session.isOver = false)
      (mode : session.emitter = .transcoding transcoder) (unaborted : session.abort = false)
      (running : session.emitted = none) (moved : transcoder.Feeds session.pipeline after pipeline) :
      Step session .feed (session.afterLeg after pipeline)
  | fetch (transcoder after : Transcoder) (pipeline : Pipeline) (going : session.isOver = false)
      (mode : session.emitter = .transcoding transcoder) (unaborted : session.abort = false)
      (running : session.emitted = none)
      (moved : transcoder.Fetches emitterHandle session.pipeline after pipeline) :
      Step session .fetch (session.afterLeg after pipeline)
  | abort (transcoder : Transcoder) (going : session.isOver = false)
      (mode : session.emitter = .transcoding transcoder) (aborted : session.abort = true)
      (running : session.emitted = none) : Step session .abort session.abortEmitter
  | join (going : session.isOver = false) (forwarded : session.forwarded?.isSome = true)
      (emitted : session.emitted.isSome = true) : Step session .join session.finish
  | leave (going : session.isOver = false) (closed : session.sink.body.receiving = false) :
      Step session .leave session.cutShort
  | deliver (message : StorageMessage) (reading : session.isReading = true)
      (unended : session.pipeline.frames.ended = false) :
      Step session (.deliver message) { session with pipeline := { session.pipeline with
        frames := session.pipeline.frames.push message } }
  | endStream (reading : session.isReading = true) (unended : session.pipeline.frames.ended = false) :
      Step session .endStream { session with pipeline := { session.pipeline with
        frames := session.pipeline.frames.finish } }
  | onCall (action : CallAction EncodeHeader) (transcoder : Transcoder) (call : EncodeCall)
      (mode : session.emitter = .transcoding transcoder) (acted : transcoder.call.act action = some call) :
      Step session (.onCall action) { session with emitter := .transcoding { transcoder with call } }
  | receiveHead (headers : Headers) (asked : session.reader = .asked)
      (decided : session.sink.head = some (.stream headers)) :
      Step session (.receiveHead { status := 200, headers }) { session with reader := .body }
  | receiveFault (status : Nat) (text : String) (asked : session.reader = .asked)
      (decided : session.sink.head = some (.failed status text)) :
      Step session (.receiveHead (.plain status))
        ({ session with reader := .message (Text.utf8Bytes text) }.withSink session.sink.dropBody)
  | takeChunk (chunk : Bytes) (streaming : session.reader = .body)
      (ready : session.sink.body.place = some chunk) :
      Step session (.takeFrame chunk)
        ({ session with reader := .body }.withSink { session.sink with body := session.sink.body.taken })
  | takeText (text : Bytes) (answered : session.reader = .message text) (unread : text ≠ []) :
      Step session (.takeFrame text) { session with reader := .message [] }
  | disconnect (present : session.reader ≠ .gone) :
      Step session .disconnect ({ session with reader := .gone }.withSink session.sink.dropBody)

theorem step_own {session next : Session} {action : Action} (moved : session.own action = some next) :
    session.Step action next := by
  unfold own at moved
  split at moved
  next => cases moved
  next going =>
    simp only [Bool.not_eq_true] at going
    split at moved
    next => exact .forward next going (forwards_of_forward moved)
    next emitter mode => exact .emit emitter next going mode (stores_of_emitStored moved)
    next transcoder mode =>
      split at moved
      next => cases moved
      next free =>
        simp only [Bool.or_eq_true, not_or, Bool.not_eq_true, Option.isSome_eq_false_iff,
          Option.isNone_iff_eq_none] at free
        obtain ⟨⟨after, pipeline⟩, fed, rfl⟩ := Option.map_eq_some_iff.1 moved
        exact .feed transcoder after pipeline going mode free.1 free.2 (Transcoder.feeds_of_feed fed)
    next transcoder mode =>
      split at moved
      next => cases moved
      next free =>
        simp only [Bool.or_eq_true, not_or, Bool.not_eq_true, Option.isSome_eq_false_iff,
          Option.isNone_iff_eq_none] at free
        obtain ⟨⟨after, pipeline⟩, fetched, rfl⟩ := Option.map_eq_some_iff.1 moved
        exact .fetch transcoder after pipeline going mode free.1 free.2 (Transcoder.fetches_of_fetch fetched)
    next transcoder mode =>
      split at moved
      next raised =>
        simp only [Bool.and_eq_true, Option.isNone_iff_eq_none] at raised
        cases moved
        exact .abort transcoder going mode raised.1 raised.2
      next => cases moved
    next =>
      split at moved
      next both =>
        simp only [Bool.and_eq_true] at both
        cases moved
        exact .join going both.1 both.2
      next => cases moved
    next =>
      split at moved
      next closed =>
        cases moved
        exact .leave going (by simpa [Sink.isClosed] using closed)
      next => cases moved
    next => cases moved

theorem step_client {session next : Session} {action : Action} (moved : session.onClient action = some next) :
    session.Step action next := by
  unfold onClient at moved
  split at moved
  next head =>
    split at moved
    next decided reader sink received =>
      split at moved
      next same =>
        subst same
        unfold Reader.receiveHead at received
        split at received
        next asked known =>
          split at received
          next headers =>
            cases received
            cases moved
            exact .receiveHead headers asked known
          next status text =>
            cases received
            cases moved
            exact .receiveFault status text asked known
        next => cases received
      next => cases moved
    next => cases moved
  next frame =>
    split at moved
    next first reader sink taken =>
      split at moved
      next same =>
        subst same
        unfold Reader.read at taken
        split at taken
        next streaming =>
          split at taken
          next chunk channel item =>
            obtain ⟨ready, rfl⟩ := Channel.take_eq_item_iff.1 item
            cases taken
            cases moved
            exact .takeChunk _ streaming ready
          next => cases taken
          next => cases taken
        next text answered =>
          split at taken
          next => cases taken
          next unread =>
            cases taken
            cases moved
            exact .takeText _ answered (by simpa using unread)
        next => cases taken
      next => cases moved
    next => cases moved
  next =>
    split at moved
    next => cases moved
    next present =>
      cases moved
      exact .disconnect present
  next => cases moved

theorem step_of_act {session next : Session} {action : Action} (moved : session.act action = some next) :
    session.Step action next := by
  unfold act at moved
  split at moved
  next message =>
    unfold Session.deliver at moved
    split at moved
    next possible =>
      simp only [Bool.and_eq_true, Bool.not_eq_true'] at possible
      cases moved
      exact .deliver message possible.1 possible.2
    next => cases moved
  next =>
    unfold Session.endStream at moved
    split at moved
    next possible =>
      simp only [Bool.and_eq_true, Bool.not_eq_true'] at possible
      cases moved
      exact .endStream possible.1 possible.2
    next => cases moved
  next head => exact step_client moved
  next frame => exact step_client moved
  next => exact step_client moved
  next action =>
    unfold call? at moved
    split at moved
    next => cases moved
    next transcoder mode =>
      obtain ⟨call, acted, rfl⟩ := Option.map_eq_some_iff.1 moved
      have step := Step.onCall action transcoder call mode acted
      simpa [withCall, mode] using step
  next => exact step_own moved

end Session

end VideoRelay
