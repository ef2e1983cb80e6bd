import VideoRelay.Proofs.Session.Moves
import VideoRelay.Proofs.Sink

set_option autoImplicit false

namespace VideoRelay

namespace Session

structure Dropped (before after : Session) : Prop where
  forwarder : after.forwarder = before.forwarder
  emitted : after.emitted = before.emitted
  abort : after.abort = before.abort
  reader : after.reader = before.reader
  isOver : after.isOver = before.isOver
  slot : after.pipeline.slot = before.pipeline.slot
  frames : after.pipeline.frames = before.pipeline.frames
  chunks : after.pipeline.chunks = before.pipeline.chunks \/ after.pipeline.chunks = before.pipeline.chunks.close
  sink : before.sink.Released after.sink

theorem Dropped.refl (session : Session) : session.Dropped session :=
  ⟨rfl, rfl, rfl, rfl, rfl, rfl, rfl, .inl rfl, .refl⟩

theorem dropEmitter_dropped (session : Session) : session.Dropped session.dropEmitter := by
  have let_go : session.sink.Released
      { session.sink with body := session.sink.body.withdraw emitterHandle }.dropHandle :=
    (Sink.Released.withdraw emitterHandle).trans .dropHandle
  unfold dropEmitter
  split
  next => exact ⟨rfl, rfl, rfl, rfl, rfl, rfl, rfl, .inr rfl, let_go⟩
  next transcoder _ =>
    -- Each leg that is not through lets go of its own half: the feeder of the chunks, the fetcher of the sink.
    unfold Transcoder.drop
    by_cases fed : transcoder.feeder.outcome?.isSome = true <;>
      by_cases fetched : transcoder.fetcher.outcome?.isSome = true <;>
      simp only [fed, fetched, Transcoder.releaseFeeder, Bool.false_eq_true, ↓reduceIte]
    next => exact ⟨rfl, rfl, rfl, rfl, rfl, rfl, rfl, .inl rfl, .refl⟩
    next => exact ⟨rfl, rfl, rfl, rfl, rfl, rfl, rfl, .inl rfl, let_go⟩
    next => exact ⟨rfl, rfl, rfl, rfl, rfl, rfl, rfl, .inr rfl, .refl⟩
    next => exact ⟨rfl, rfl, rfl, rfl, rfl, rfl, rfl, .inr rfl, let_go⟩

theorem dropEmitter_passthrough {session : Session} {emitter : Passthrough}
    (mode : session.emitter = .passthrough emitter) : session.dropEmitter.emitter = .passthrough emitter := by
  simp only [dropEmitter, mode]

theorem dropEmitter_transcoder {session : Session} {transcoder : Transcoder}
    (mode : session.emitter = .transcoding transcoder) :
    session.dropEmitter.emitter = .transcoding (transcoder.drop emitterHandle session.pipeline).1 := by
  simp only [dropEmitter, mode]

def emptied (session : Session) : Session :=
  if session.emitted.isSome then session else session.dropEmitter

theorem emptied_dropped (session : Session) : session.Dropped session.emptied := by
  unfold emptied
  split
  next => exact .refl session
  next => exact session.dropEmitter_dropped

structure Ended (before after : Session) : Prop where
  forwarder : after.forwarder = before.forwarder
  emitter : after.emitter = before.emitter
  emitted : after.emitted = before.emitted
  abort : after.abort = before.abort
  reader : after.reader = before.reader
  isOver : after.isOver = true
  slot : after.pipeline.slot = before.pipeline.slot
  ended : after.pipeline.frames.ended = before.pipeline.frames.ended
  chunks : exists senders, after.pipeline.chunks = { before.pipeline.chunks with senders }
  sink : after.sink = before.sink.dropHandle

theorem cutShort_ended (session : Session) : session.emptied.Ended session.cutShort := by
  unfold cutShort
  rw [← emptied]
  generalize session.emptied = emptied
  by_cases finished : emptied.forwarded?.isSome = true
  next =>
    simp only [finished, ↓reduceIte]
    exact ⟨rfl, rfl, rfl, rfl, rfl, rfl, rfl, rfl, ⟨_, rfl⟩, rfl⟩
  next =>
    simp only [finished, Bool.false_eq_true, ↓reduceIte]
    exact ⟨rfl, rfl, rfl, rfl, rfl, rfl, rfl, rfl, ⟨_, rfl⟩, rfl⟩

theorem cutShort_released (session : Session) : session.sink.Released session.cutShort.sink := by
  rw [session.cutShort_ended.sink]
  exact session.emptied_dropped.sink.trans .dropHandle

theorem cutShort_passthrough {session : Session} {emitter : Passthrough}
    (mode : session.emitter = .passthrough emitter) : session.cutShort.emitter = .passthrough emitter := by
  rw [session.cutShort_ended.emitter, emptied]
  split
  next => exact mode
  next => exact dropEmitter_passthrough mode

theorem cutShort_transcoder {session : Session} {transcoder : Transcoder}
    (mode : session.emitter = .transcoding transcoder) :
    session.cutShort.emitter =
      if session.emitted.isSome then .transcoding transcoder
      else .transcoding (transcoder.drop emitterHandle session.pipeline).1 := by
  rw [session.cutShort_ended.emitter, emptied]
  split
  next => exact mode
  next => exact dropEmitter_transcoder mode

theorem Dropped.unclosed {before after : Session} (dropped : before.Dropped after)
    (unclosed : after.pipeline.chunks.receiving = true) :
    before.pipeline.chunks.receiving = true /\ after.pipeline.chunks.place = before.pipeline.chunks.place := by
  rcases dropped.chunks with same | closed
  next => rw [same] at unclosed ⊢; exact ⟨unclosed, rfl⟩
  next => rw [closed] at unclosed; cases unclosed

theorem cutShort_unclosed {session : Session} (unclosed : session.cutShort.pipeline.chunks.receiving = true) :
    session.pipeline.chunks.receiving = true /\
      session.cutShort.pipeline.chunks.place = session.pipeline.chunks.place := by
  obtain ⟨senders, same⟩ := session.cutShort_ended.chunks
  rw [same] at unclosed ⊢
  exact session.emptied_dropped.unclosed unclosed

end Session

end VideoRelay
