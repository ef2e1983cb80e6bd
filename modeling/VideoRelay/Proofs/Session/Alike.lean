import VideoRelay.Proofs.Session.History
import VideoRelay.Proofs.Session.Masking

set_option autoImplicit false

namespace VideoRelay

namespace Session

def masked (session : Session) : Session :=
  { session with
    pipeline := session.pipeline.masked
    forwarder := session.forwarder.masked
    emitter := session.emitter.masked
    emitted := session.emitted.map maskFault }

def Action.masked : Action -> Action
  | deliver message => deliver (maskStatus message)
  | onCall action => onCall action.masked
  | action => action

@[simp]
theorem Action.masked_masked (action : Action) : action.masked.masked = action.masked := by
  cases action <;> simp [masked]

theorem headsReceived_masked (actions : List Action) :
    headsReceived (actions.map Action.masked) = headsReceived actions := by
  rw [headsReceived, List.filterMap_map]
  congr 1
  funext action
  cases action <;> rfl

theorem framesTaken_masked (actions : List Action) :
    framesTaken (actions.map Action.masked) = framesTaken actions := by
  rw [framesTaken, List.filterMap_map]
  congr 1
  funext action
  cases action <;> rfl

variable (session : Session)

@[simp]
theorem masked_masked : session.masked.masked = session.masked := by
  simp [masked, Function.comp_def]

theorem endForwarding_masked : session.masked.endForwarding = session.endForwarding.masked := by
  have returned : session.masked.forwarded? = session.forwarded?.map maskFault :=
    session.forwarder.outcome?_masked
  unfold endForwarding
  rw [returned]
  cases session.forwarded? with
  | none => rfl
  | some outcome => cases outcome <;> rfl

theorem endEmitting_masked (outcome : Except Fault Unit) :
    session.masked.endEmitting (maskFault outcome) = (session.endEmitting outcome).masked := by
  cases outcome <;> rfl

theorem afterLeg_masked (transcoder : Transcoder) (pipeline : Pipeline) :
    session.masked.afterLeg transcoder.masked pipeline.masked = (session.afterLeg transcoder pipeline).masked := by
  unfold afterLeg
  rw [Transcoder.outcome?_masked]
  cases transcoder.outcome? with
  | none => rfl
  | some outcome => exact endEmitting_masked { session with emitter := .transcoding transcoder, pipeline } outcome

theorem dropEmitter_masked : session.masked.dropEmitter = session.dropEmitter.masked := by
  obtain ⟨pipeline, forwarder, emitter, emitted, abort, reader, isOver⟩ := session
  cases emitter with
  | passthrough emitter => rfl
  | transcoding transcoder =>
    simp only [dropEmitter, masked, Emitter.masked, Transcoder.drop_masked, Transcoder.maskMove]

theorem abortEmitter_masked : session.masked.abortEmitter = session.abortEmitter.masked := by
  rw [abortEmitter, dropEmitter_masked]
  rfl

theorem finish_masked : session.masked.finish = session.finish.masked := rfl

theorem cutShort_masked : session.masked.cutShort = session.cutShort.masked := by
  have returned : session.masked.emitted.isSome = session.emitted.isSome := Option.isSome_map
  -- What the second step looks at comes from the session as the first step leaves it.
  have ends (session : Session) : Session.finish (if session.masked.forwarded?.isSome then session.masked
      else { session.masked with pipeline := { session.masked.pipeline with
        frames := { session.masked.pipeline.frames with items := [] }
        chunks := session.masked.pipeline.chunks.dropSender } }) =
      masked (Session.finish (if session.forwarded?.isSome then session
        else { session with pipeline := { session.pipeline with
          frames := { session.pipeline.frames with items := [] }
          chunks := session.pipeline.chunks.dropSender } })) := by
    have through : session.masked.forwarded?.isSome = session.forwarded?.isSome := by
      simp [forwarded?, masked]
    rw [through]
    split <;> rfl
  unfold cutShort
  rw [returned, dropEmitter_masked]
  split
  next => exact ends session
  next => exact ends session.dropEmitter

theorem goOn_masked {M : Type} {mask : M -> M} {first second : Option M} (goOn : Session -> M -> Session)
    (carries : forall session move, goOn session.masked (mask move) = (goOn session move).masked)
    (alike : first.map mask = second.map mask) :
    (first.map (goOn session.masked)).map masked = (second.map (goOn session)).map masked := by
  cases first with
  | none =>
    cases second with
    | none => rfl
    | some other => cases alike
  | some move =>
    cases second with
    | none => cases alike
    | some other =>
      have same : mask move = mask other := Option.some.inj alike
      have again : (goOn session.masked move).masked = goOn session.masked (mask move) := by
        simp [← carries]
      simp only [Option.map_some, again, same, carries]

def afterForwarding (session : Session) (move : Forwarder × Pipeline) : Session :=
  let session := { session with forwarder := move.1, pipeline := move.2 }
  if move.1.outcome?.isSome then session.endForwarding else session

def afterEmitting (session : Session) (move : Passthrough × Pipeline) : Session :=
  match move.1.outcome? with
  | none => { session with emitter := .passthrough move.1, pipeline := move.2 }
  | some outcome =>
    let pipeline := { move.2 with chunks := move.2.chunks.close, sink := move.2.sink.dropHandle }
    { session with emitter := .passthrough move.1, pipeline }.endEmitting outcome

theorem forward_masked : session.masked.forward.map masked = session.forward.map masked := by
  refine goOn_masked session afterForwarding (fun session move => ?_) (session.forwarder.step_masked session.pipeline)
  unfold afterForwarding Forwarder.maskMove
  rw [Forwarder.outcome?_masked, Option.isSome_map]
  split
  next => exact endForwarding_masked { session with forwarder := move.1, pipeline := move.2 }
  next => rfl

theorem emitStored_masked (emitter : Passthrough) :
    (session.masked.emitStored emitter.masked).map masked = (session.emitStored emitter).map masked := by
  refine goOn_masked session afterEmitting (fun session move => ?_) (emitter.step_masked emitterHandle session.pipeline)
  unfold afterEmitting Passthrough.maskMove
  rw [Passthrough.outcome?_masked]
  cases move.1.outcome? with
  | none => rfl
  | some outcome => exact endEmitting_masked { session with
      emitter := .passthrough move.1
      pipeline := { move.2 with chunks := move.2.chunks.close, sink := move.2.sink.dropHandle } } outcome

theorem legs_masked {first second : Option (Transcoder × Pipeline)}
    (alike : first.map Transcoder.maskMove = second.map Transcoder.maskMove) :
    (first.map fun move => session.masked.afterLeg move.1 move.2).map masked =
      (second.map fun move => session.afterLeg move.1 move.2).map masked :=
  goOn_masked session (fun session move => session.afterLeg move.1 move.2)
    (fun session move => afterLeg_masked session move.1 move.2) alike

theorem own_masked (action : Action) : (session.masked.own action).map masked = (session.own action).map masked := by
  have going : session.masked.isOver = session.isOver := rfl
  have aborted : session.masked.abort = session.abort := rfl
  have emitted : session.masked.emitted.isSome = session.emitted.isSome := Option.isSome_map
  have unemitted : session.masked.emitted.isNone = session.emitted.isNone := Option.isNone_map
  have forwarded : session.masked.forwarded?.isSome = session.forwarded?.isSome := by
    simp [forwarded?, masked]
  unfold own
  rw [going]
  split
  next => rfl
  next =>
    cases action with
    | forward => exact session.forward_masked
    | join =>
      simp only [forwarded, emitted, finish_masked]
      split <;> simp
    | leave =>
      simp only [show session.masked.sink.isClosed = session.sink.isClosed from rfl, cutShort_masked]
      split <;> simp
    | emit =>
      rw [show session.masked.emitter = session.emitter.masked from rfl]
      cases session.emitter with
      | passthrough emitter => exact session.emitStored_masked emitter
      | transcoding transcoder => rfl
    | feed =>
      rw [show session.masked.emitter = session.emitter.masked from rfl]
      cases session.emitter with
      | passthrough emitter => rfl
      | transcoding transcoder =>
        simp only [Emitter.masked, aborted, emitted]
        split
        next => rfl
        next => exact session.legs_masked (transcoder.feed_masked session.pipeline)
    | fetch =>
      rw [show session.masked.emitter = session.emitter.masked from rfl]
      cases session.emitter with
      | passthrough emitter => rfl
      | transcoding transcoder =>
        simp only [Emitter.masked, aborted, emitted]
        split
        next => rfl
        next => exact session.legs_masked (transcoder.fetch_masked emitterHandle session.pipeline)
    | abort =>
      rw [show session.masked.emitter = session.emitter.masked from rfl]
      cases session.emitter with
      | passthrough emitter => rfl
      | transcoding transcoder =>
        simp only [Emitter.masked, aborted, unemitted, abortEmitter_masked]
        split <;> simp
    | _ => rfl

theorem onClient_masked (action : Action) :
    session.masked.onClient action = (session.onClient action).map masked := by
  cases action with
  | receiveHead head =>
    simp only [onClient, show session.masked.reader.receiveHead session.masked.sink =
      session.reader.receiveHead session.sink from rfl]
    split
    next => split <;> rfl
    next => rfl
  | takeFrame frame =>
    simp only [onClient, show session.masked.reader.read session.masked.sink =
      session.reader.read session.sink from rfl]
    split
    next => split <;> rfl
    next => rfl
  | disconnect =>
    simp only [onClient, show session.masked.reader = session.reader from rfl]
    split <;> rfl
  | _ => rfl

theorem act_masked (action : Action) :
    (session.masked.act action.masked).map masked = (session.act action).map masked := by
  have reading : session.masked.isReading = session.isReading := by
    simp [isReading, forwarded?, masked]
  have open_ : session.masked.pipeline.frames.ended = session.pipeline.frames.ended := rfl
  cases action with
  | deliver message =>
    simp only [act, Action.masked, deliver, reading, open_]
    split
    next => simp [masked, Pipeline.masked, Source.push_masked, Function.comp_def]
    next => rfl
  | endStream =>
    simp only [act, Action.masked, endStream, reading, open_]
    split
    next => simp [masked, Pipeline.masked, Source.finish_masked, Function.comp_def]
    next => rfl
  | onCall action =>
    obtain ⟨pipeline, forwarder, emitter, emitted, abort, reader, isOver⟩ := session
    cases emitter with
    | passthrough emitter => rfl
    | transcoding transcoder =>
      have acted : transcoder.masked.call.act action.masked = (transcoder.call.act action).map Call.masked :=
        transcoder.call.act_masked action
      simp only [act, Action.masked, call?, masked, Emitter.masked, Option.bind_some, acted, Option.map_map]
      congr 1
      funext call
      simp [withCall, masked, Emitter.masked, Transcoder.masked, Function.comp_def]
  | receiveHead _ | takeFrame _ | disconnect =>
    simp [act, Action.masked, onClient_masked, Function.comp_def]
  | forward => exact session.own_masked .forward
  | emit => exact session.own_masked .emit
  | feed => exact session.own_masked .feed
  | fetch => exact session.own_masked .fetch
  | abort => exact session.own_masked .abort
  | join => exact session.own_masked .join
  | leave => exact session.own_masked .leave

end Session

end VideoRelay
