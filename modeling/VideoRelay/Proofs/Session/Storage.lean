import VideoRelay.Proofs.Forwarder
import VideoRelay.Proofs.Session.Dropping
import VideoRelay.Proofs.Session.History

set_option autoImplicit false

namespace VideoRelay

namespace Session

structure KeepsStorage (before after : Session) : Prop where
  forwarder : after.forwarder = before.forwarder
  slot : after.pipeline.slot = before.pipeline.slot
  reading : after.isReading = true ->
    before.isReading = true /\ after.pipeline.frames.items = before.pipeline.frames.items
  ended : after.pipeline.frames.ended = before.pipeline.frames.ended
  chunks : before.pipeline.chunks.Drained after.pipeline.chunks
  going : after.isOver = false -> before.isOver = false /\
    after.pipeline.chunks.senders = before.pipeline.chunks.senders

namespace KeepsStorage

variable {before after : Session}

theorem of_drained (forwarder : after.forwarder = before.forwarder)
    (slot : after.pipeline.slot = before.pipeline.slot) (frames : after.pipeline.frames = before.pipeline.frames)
    (through : after.isOver = before.isOver)
    (senders : after.pipeline.chunks.senders = before.pipeline.chunks.senders)
    (chunks : before.pipeline.chunks.Drained after.pipeline.chunks) : before.KeepsStorage after := by
  have forwarded : after.forwarded? = before.forwarded? := congrArg Forwarder.outcome? forwarder
  refine ⟨forwarder, slot, ?_, congrArg _ frames, chunks, fun going => ⟨through ▸ going, senders⟩⟩
  intro reading
  exact ⟨by simpa [isReading, through, forwarded] using reading, congrArg _ frames⟩

theorem chunkArrival (kept : before.KeepsStorage after) : before.chunkArrival after = [] :=
  kept.chunks.arrival

end KeepsStorage

theorem stored_keepsStorage (session : Session) (outcome : Except Fault Unit) :
    session.KeepsStorage (session.stored outcome) := by
  cases outcome with
  | ok _ => exact .of_drained rfl rfl rfl rfl rfl (.closed rfl rfl)
  | error fault => exact .of_drained rfl rfl rfl rfl rfl (.closed rfl rfl)

theorem Stores.keepsStorage {session next : Session} {emitter : Passthrough}
    (moved : session.Stores emitter next) : session.KeepsStorage next := by
  cases moved with
  | first chunk descriptor ready | next written chunk ready =>
    exact .of_drained rfl rfl rfl rfl rfl (.taken _ (by simp [ready]))
  | undescribed | drain | unwritten => exact stored_keepsStorage session _
  | write | wrote => exact .of_drained rfl rfl rfl rfl rfl (.same _)

theorem afterLeg_keepsStorage (session : Session) (transcoder : Transcoder) (pipeline : Pipeline)
    (slot : pipeline.slot = session.pipeline.slot) (frames : pipeline.frames = session.pipeline.frames)
    (senders : pipeline.chunks.senders = session.pipeline.chunks.senders)
    (chunks : session.pipeline.chunks.Drained pipeline.chunks) :
    session.KeepsStorage (session.afterLeg transcoder pipeline) := by
  unfold afterLeg
  split
  next => exact .of_drained rfl slot frames rfl senders chunks
  next outcome _ =>
    cases outcome with
    | ok _ => exact .of_drained rfl slot frames rfl senders chunks
    | error fault =>
      exact .of_drained rfl slot frames rfl senders chunks

theorem feed_keepsStorage {session : Session} {transcoder after : Transcoder} {pipeline : Pipeline}
    (moved : transcoder.Feeds session.pipeline after pipeline) :
    session.KeepsStorage (session.afterLeg after pipeline) := by
  cases moved with
  | first chunk descriptor reading going ready | next chunk reading going ready =>
    exact afterLeg_keepsStorage session _ _ rfl rfl rfl (.taken _ (by simp [ready]))
  | undescribed | drain | stop =>
    exact afterLeg_keepsStorage session _ _ rfl rfl rfl (.closed rfl rfl)
  | put | queue => exact afterLeg_keepsStorage session _ _ rfl rfl rfl (.same _)

theorem fetch_keepsStorage {handle : Nat} {session : Session} {transcoder after : Transcoder}
    {pipeline : Pipeline} (moved : transcoder.Fetches handle session.pipeline after pipeline) :
    session.KeepsStorage (session.afterLeg after pipeline) := by
  cases moved <;> exact afterLeg_keepsStorage session _ _ rfl rfl rfl (.same _)

theorem Dropped.keepsStorage {before after : Session} (dropped : before.Dropped after) :
    before.KeepsStorage after := by
  rcases dropped.chunks with same | closed
  next =>
    exact .of_drained dropped.forwarder dropped.slot dropped.frames dropped.isOver (by rw [same])
      (by rw [same]; exact .same _)
  next =>
    exact .of_drained dropped.forwarder dropped.slot dropped.frames dropped.isOver (by rw [closed]; rfl)
      (by rw [closed]; exact .closed rfl rfl)

theorem cutShort_keepsStorage (session : Session) : session.KeepsStorage session.cutShort := by
  obtain ⟨forwarder, slot, -, ended, chunks, -⟩ := session.emptied_dropped.keepsStorage
  have left := session.cutShort_ended
  refine ⟨left.forwarder.trans forwarder, left.slot.trans slot, fun reading => ?_, left.ended.trans ended, ?_,
    fun going => ?_⟩
  -- The session is over, so that nothing reads from storage any more.
  next => simp [isReading, left.isOver] at reading
  next =>
    obtain ⟨senders, same⟩ := left.chunks
    rw [same]
    exact chunks.withSenders senders
  next => cases left.isOver.symm.trans going

theorem Step.keepsStorage {session next : Session} {action : Action} (step : session.Step action next)
    (foreign : action ≠ .forward /\ action ≠ .endStream /\ forall message, action ≠ .deliver message) :
    session.KeepsStorage next := by
  cases step with
  | forward => exact absurd rfl foreign.1
  | deliver message => exact absurd rfl (foreign.2.2 message)
  | endStream => exact absurd rfl foreign.2.1
  | emit emitter next going mode moved => exact moved.keepsStorage
  | feed transcoder after pipeline going mode unaborted running moved => exact feed_keepsStorage moved
  | fetch transcoder after pipeline going mode unaborted running moved => exact fetch_keepsStorage moved
  | abort =>
    obtain ⟨forwarder, slot, reading, ended, chunks, going⟩ := session.dropEmitter_dropped.keepsStorage
    exact ⟨forwarder, slot, reading, ended, chunks, going⟩
  | join => exact ⟨rfl, rfl, fun reading => (by cases reading), rfl, .same _, fun going => (by cases going)⟩
  | leave => exact cutShort_keepsStorage session
  | onCall | receiveHead | receiveFault | takeChunk | takeText | disconnect =>
    exact .of_drained rfl rfl rfl rfl rfl (.same _)

/-- How far forwarding has come after these messages, of which these payloads were put on the chunk channel. -/
structure Forwarded (messages : List StorageMessage) (put : List Bytes) (session : Session) : Prop
    extends session.forwarder.Passed messages put session.pipeline where
  senders : session.isOver = false ->
    session.pipeline.chunks.senders = if session.forwarded?.isSome then 0 else 1
  ahead : session.isReading = true -> session.forwarder.Ahead messages put session.pipeline

theorem Forwarded.start (emitter : Emitter) : Forwarded [] [] (start emitter) := by
  refine ⟨Forwarder.Passed.start.drain rfl id (.same 1), fun _ => rfl, fun _ => ?_⟩
  have ahead := Forwarder.Ahead.start
  exact ⟨ahead.fresh, ahead.intact, ahead.clean⟩

theorem Forwarded.keep {messages : List StorageMessage} {put : List Bytes} {session next : Session}
    (before : Forwarded messages put session) (kept : session.KeepsStorage next) :
    Forwarded messages put next := by
  obtain ⟨forwarder, slot, reading, ended, chunks, going⟩ := kept
  have forwarded : next.forwarded? = session.forwarded? := congrArg Forwarder.outcome? forwarder
  constructor
  case toPassed =>
    rw [forwarder]
    exact before.toPassed.drain slot (fun through => ended.trans through) chunks
  case senders =>
    intro still
    rw [(going still).2, forwarded]
    exact before.senders (going still).1
  case ahead =>
    intro still
    obtain ⟨still, items⟩ := reading still
    have ahead := before.ahead still
    rw [forwarder]
    exact ⟨fun first => (ahead.fresh first).trans items.symm, by rw [items]; exact ahead.intact,
      by rw [items]; exact ahead.clean⟩

theorem Forwarded.isSome_of_senders {messages : List StorageMessage} {put : List Bytes} {session : Session}
    (forwarded : Forwarded messages put session) (going : session.isOver = false)
    (gone : session.pipeline.chunks.senders = 0) : session.forwarded?.isSome = true := by
  have senders := forwarded.senders going
  rw [gone] at senders
  split at senders
  next finished => exact finished
  next => cases senders

theorem Forwarded.unfailed {messages more : List StorageMessage} {put : List Bytes} {session : Session}
    (forwarded : Forwarded messages put session) (clean : Framing.offence? false (messages ++ more) = none)
    (fault : Fault) : session.forwarded? ≠ some (.error fault) := by
  intro failed
  have offends := (forwarded.failed fault failed).1
  rw [Framing.offence?_of_append clean] at offends
  cases offends

theorem Forwarded.descriptor_of_follows {messages stream : List StorageMessage} {put : List Bytes} {session : Session}
    (forwarded : Forwarded messages put session) (beginning : messages <+: stream) :
    exists descriptor, (Framing.intact false stream ≠ [] -> Framing.descriptor? stream = some descriptor) /\
      forall known, session.pipeline.slot = some known -> known = descriptor := by
  obtain ⟨rest, rfl⟩ := beginning
  have same (known : Descriptor) (slot : session.pipeline.slot = some known) :=
    Framing.descriptor?_append (forwarded.described known slot) rest
  cases header : Framing.descriptor? (messages ++ rest) with
  | some descriptor =>
    exact ⟨descriptor, fun _ => rfl, fun known slot => Option.some.inj ((same known slot).symm.trans header)⟩
  | none =>
    refine ⟨{ id := "", totalLength := 0, mimeType := "", fileName := "" }, fun something => ?_, fun known slot => ?_⟩
    next => exact absurd (Framing.intact_of_undescribed header) something
    next =>
      rw [same known slot] at header
      cases header

theorem Forwarded.unput {messages : List StorageMessage} {put : List Bytes} {session next : Session}
    (same : next.pipeline.chunks.place = session.pipeline.chunks.place)
    (after : Forwarded messages put next) : Forwarded messages (put ++ session.chunkArrival next) next := by
  rw [chunkArrival, Channel.arrival_of_same same, List.append_nil]
  exact after

theorem isReading_of_reading {session : Session} (going : session.isOver = false)
    (reading : session.forwarder.phase = .reading) : session.isReading = true := by
  simp [isReading, forwarded?, Forwarder.outcome?, going, reading]

theorem unfinished_of_isReading {session : Session} (reading : session.isReading = true) :
    session.forwarded? = none := by
  simp only [isReading, Bool.and_eq_true, Option.isNone_iff_eq_none] at reading
  exact reading.2

theorem Forwards.unfinished {session next : Session} (moved : session.Forwards next) : session.forwarded? = none := by
  obtain ⟨pipeline, moves, -⟩ := moved.moves
  exact moves.unfinished

theorem Step.keepsForwarded {session next : Session} {action : Action} (step : session.Step action next)
    (returned : session.forwarded?.isSome = true) : next.forwarded? = session.forwarded? := by
  have kept := step.keepsStorage
  cases step with
  | forward _ _ moved => simp [moved.unfinished] at returned
  | deliver | endStream => rfl
  | _ => exact congrArg Forwarder.outcome? (kept (by simp)).forwarder

theorem Forwarded.forward {messages : List StorageMessage} {put : List Bytes} {session next : Session}
    (before : Forwarded messages put session) (going : session.isOver = false)
    (moved : session.Forwards next) :
    Forwarded messages (put ++ session.chunkArrival next) next := by
  obtain ⟨pipeline, moves, slot, -, ended, frames, chunks⟩ := moved.moves
  have unfinished : session.forwarded? = none := moves.unfinished
  have ahead := before.ahead (by simp [isReading, going, unfinished])
  have arrival : session.chunkArrival next = session.pipeline.chunks.arrival pipeline.chunks := by
    rw [chunkArrival, chunks]
    rfl
  rw [arrival]
  constructor
  case toPassed =>
    refine (before.toPassed.move ahead moves).drain slot (fun through => ended.trans through) ?_
    rw [chunks]
    exact .same _
  case senders =>
    intro _
    rw [chunks, before.senders going, unfinished]
    cases next.forwarded?.isSome <;> rfl
  case ahead =>
    intro reading
    have still := unfinished_of_isReading reading
    obtain ⟨fresh, intact, clean⟩ := ahead.move before.toPassed moves still
    rw [<- frames still] at fresh intact clean
    exact ⟨fresh, intact, clean⟩

theorem Forwarded.deliver {messages : List StorageMessage} {put : List Bytes} {session : Session}
    (message : StorageMessage) (before : Forwarded messages put session)
    (reading : session.isReading = true) :
    Forwarded (messages ++ [message]) put { session with pipeline := { session.pipeline with
      frames := session.pipeline.frames.push message } } :=
  ⟨before.toPassed.deliver (unfinished_of_isReading reading) message, before.senders,
    fun _ => (before.ahead reading).deliver message⟩

theorem Forwarded.endStream {messages : List StorageMessage} {put : List Bytes} {session : Session}
    (before : Forwarded messages put session) :
    Forwarded messages put { session with pipeline := { session.pipeline with
      frames := session.pipeline.frames.finish } } := by
  refine ⟨before.toPassed.drain rfl (fun _ => rfl) (.same _), before.senders, fun reading => ?_⟩
  have ahead := before.ahead reading
  exact ⟨ahead.fresh, ahead.intact, ahead.clean⟩

theorem Forwarded.act {messages : List StorageMessage} {put : List Bytes} {session next : Session}
    {action : Action} (before : Forwarded messages put session) (step : session.Step action next) :
    Forwarded (messages ++ delivered [action]) (put ++ session.chunkArrival next) next := by
  have foreign (foreign : action ≠ .forward /\ action ≠ .endStream /\ forall message, action ≠ .deliver message) :
      Forwarded (messages ++ delivered [action]) (put ++ session.chunkArrival next) next := by
    have kept := step.keepsStorage foreign
    have silent : delivered [action] = [] := by
      cases action <;> simp_all [delivered]
    rw [silent, kept.chunkArrival, List.append_nil, List.append_nil]
    exact before.keep kept
  cases step with
  | forward _ going moved =>
    rw [show delivered [Action.forward] = [] from rfl, List.append_nil]
    exact before.forward going moved
  | deliver message reading => exact .unput rfl (before.deliver message reading)
  | endStream =>
    rw [show delivered [Action.endStream] = [] from rfl, List.append_nil]
    exact .unput rfl before.endStream
  | _ => exact foreign ⟨by simp, by simp, by simp⟩

theorem forwarded_of_run {emitter : Emitter} {session : Session} {actions : List Action}
    (run : Run (start emitter) actions session) :
    Forwarded (delivered actions) (chunksForwarded (start emitter) actions) session := by
  refine run.keeps (fun done => Forwarded (delivered done) (chunksForwarded (start emitter) done))
    (.start emitter) ?_
  intro actions session action next run before possible
  have after := before.act (step_of_act possible)
  rw [delivered_append, chunksForwarded, trace_snoc chunkArrival run.reached possible]
  exact after

theorem Step.keepsEnded {session next : Session} {action : Action} (step : session.Step action next)
    (unfinished : action ≠ .endStream) : next.pipeline.frames.ended = session.pipeline.frames.ended := by
  have foreign (foreign : action ≠ .forward /\ action ≠ .endStream /\ forall message, action ≠ .deliver message) :
      next.pipeline.frames.ended = session.pipeline.frames.ended := (step.keepsStorage foreign).ended
  cases step with
  | forward _ _ moved => cases moved <;> rfl
  | deliver => rfl
  | endStream => exact absurd rfl unfinished
  | _ => exact foreign ⟨by simp, by simp, by simp⟩

theorem ended_of_run {emitter : Emitter} {session : Session} {actions : List Action}
    (run : Run (start emitter) actions session) :
    session.pipeline.frames.ended = true <-> Action.endStream ∈ actions := by
  refine run.keeps (fun done session => session.pipeline.frames.ended = true <-> .endStream ∈ done)
    ⟨fun ended => (by cases ended), fun never => (by cases never)⟩ ?_
  intro actions session action next run before possible
  have step := step_of_act possible
  rw [List.mem_append, List.mem_singleton]
  by_cases ending : .endStream = action
  next =>
    subst ending
    cases step
    exact ⟨fun _ => .inr rfl, fun _ => rfl⟩
  next =>
    rw [step.keepsEnded (Ne.symm ending), before]
    simp [ending]

end Session

end VideoRelay
