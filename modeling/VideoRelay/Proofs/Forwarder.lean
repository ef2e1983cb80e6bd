import VideoRelay.Proofs.Session.Moves.Forwarder
import VideoRelay.Proofs.Upload

set_option autoImplicit false

namespace VideoRelay

namespace Forwarder

open Framing

structure Whole (messages : List StorageMessage) (put : List Bytes) (pipeline : Pipeline) : Prop where
  put : put = intact false messages
  slot : pipeline.slot = descriptor? messages

/-- A forwarder that was given these messages and has put these payloads on the channel. -/
structure Passed (messages : List StorageMessage) (put : List Bytes) (forwarder : Forwarder)
    (pipeline : Pipeline) : Prop where
  served : pipeline.chunks.receiving = true -> pipeline.chunks.Serves chunkSender forwarder.phase.isWaiting
  lost : pipeline.chunks.receiving = false -> pipeline.chunks.place = none
  filled : pipeline.chunks.place.isSome = true -> pipeline.slot.isSome = true
  counted : forwarder.forwarded = .ofNat (byteCount put)
  slotted : pipeline.slot.isSome = forwarder.order.headerSeen
  described : forall descriptor, pipeline.slot = some descriptor -> descriptor? messages = some descriptor
  seen : put ++ forwarder.phase.held ≠ [] -> forwarder.order.headerSeen = true
  accepted : put <+: intact false messages
  failed : forall fault, forwarder.outcome? = some (.error fault) ->
    offence? false messages = some fault /\ Whole messages put pipeline
  stopped : forall total, forwarder.outcome? = some (.ok total) -> total = .ofNat (byteCount put) /\
    (pipeline.chunks.receiving = false \/
      pipeline.frames.ended = true /\ offence? false messages = none /\ Whole messages put pipeline)

structure Ahead (messages : List StorageMessage) (put : List Bytes) (forwarder : Forwarder)
    (pipeline : Pipeline) : Prop where
  fresh : forwarder.order.headerSeen = false -> messages = pipeline.frames.items
  intact : forall more, Framing.intact false (messages ++ more) =
    put ++ forwarder.phase.held ++ Framing.intact forwarder.order.headerSeen (pipeline.frames.items ++ more)
  clean : forall more, offence? false (messages ++ more) =
    offence? forwarder.order.headerSeen (pipeline.frames.items ++ more)

variable {messages : List StorageMessage} {put : List Bytes} {forwarder next : Forwarder} {pipeline after : Pipeline}

theorem outcome?_of_held {payload : Bytes} (held : forwarder.phase.held = [payload]) : forwarder.outcome? = none := by
  unfold ForwardPhase.held at held
  split at held <;> simp_all [outcome?]

theorem Moves.unfinished (moved : forwarder.Moves pipeline next after) : forwarder.outcome? = none := by
  cases moved with
  | abandon unfinished => exact unfinished
  | header _ _ reading | datagram _ _ reading | refuse _ _ _ reading | finish reading => simp [outcome?, reading]
  | put payload held | queue payload held => exact outcome?_of_held held

theorem Moves.slot (moved : forwarder.Moves pipeline next after) :
    after.slot = pipeline.slot \/ pipeline.slot = none := by
  cases moved with
  | header _ _ _ _ _ _ unset => exact .inr unset
  | datagram | refuse | put | queue | abandon | finish => exact .inl rfl

namespace Ahead

theorem start : Ahead [] [] {} {} := by
  constructor <;> simp [ForwardPhase.held]

theorem unput (same : after.chunks.place = pipeline.chunks.place) (ahead : Ahead messages put next after) :
    Ahead messages (put ++ pipeline.chunks.arrival after.chunks) next after := by
  rw [Channel.arrival_of_same same, List.append_nil]
  exact ahead

theorem deliver (ahead : Ahead messages put forwarder pipeline) (message : StorageMessage) :
    Ahead (messages ++ [message]) put forwarder { pipeline with frames := pipeline.frames.push message } := by
  constructor
  case fresh => intro unseen; simp only [Source.push, ahead.fresh unseen]
  case intact => intro more; simpa [Source.push] using ahead.intact (message :: more)
  case clean => intro more; simpa [Source.push] using ahead.clean (message :: more)

theorem header {video : Wire.Video} {rest : List StorageMessage} (ahead : Ahead messages put forwarder pipeline)
    (reading : forwarder.phase = .reading) (ready : pipeline.frames.items = .ok (.header video) :: rest)
    (first : forwarder.order.headerSeen = false) : messages = .ok (.header video) :: rest /\ put = [] := by
  have unread := (ahead.fresh first).trans ready
  have whole := ahead.intact []
  refine ⟨unread, ?_⟩
  simpa [reading, ForwardPhase.held, first, unread, ready] using whole

theorem move (ahead : Ahead messages put forwarder pipeline) (passed : Passed messages put forwarder pipeline)
    (moved : forwarder.Moves pipeline next after) (unfinished : next.outcome? = none) :
    Ahead messages (put ++ pipeline.chunks.arrival after.chunks) next after := by
  cases moved with
  | header video rest reading unclosed ready first =>
    obtain ⟨rfl, rfl⟩ := ahead.header reading ready first
    refine .unput rfl ?_
    constructor
    case fresh => intro unseen; cases unseen
    case intact => intro more; simp [ForwardPhase.held, reading, Framing.intact]
    case clean => intro more; simp [offence?]
  | datagram datagram rest reading unclosed ready later =>
    refine .unput rfl ?_
    constructor
    case fresh => intro unseen; exact absurd (later.symm.trans unseen) (by simp)
    case intact =>
      intro more
      rw [ahead.intact more, reading, ready, later]
      simp [ForwardPhase.held, Framing.intact]
    case clean =>
      intro more
      rw [ahead.clean more, ready, later]
      simp [offence?]
  | put payload held unclosed granted =>
    have empty := (passed.served unclosed).place_of_granted granted
    rw [Channel.arrival_of_put empty]
    constructor
    case fresh => exact ahead.fresh
    case intact =>
      intro more
      have whole := ahead.intact more
      rw [held] at whole
      simpa [ForwardPhase.held] using whole
    case clean => exact ahead.clean
  | queue payload held =>
    refine .unput rfl ?_
    constructor
    case fresh => exact ahead.fresh
    case intact => intro more; rw [ahead.intact more, held]; rfl
    case clean => exact ahead.clean
  | refuse | abandon | finish => cases unfinished

end Ahead

namespace Passed

theorem start : Passed [] [] {} {} := by
  constructor
  case served => exact fun _ => ⟨fun _ => ⟨rfl, rfl⟩, fun waits => by cases waits⟩
  all_goals simp [byteCount, ForwardPhase.held, outcome?]

theorem unput (same : after.chunks.place = pipeline.chunks.place) (passed : Passed messages put next after) :
    Passed messages (put ++ pipeline.chunks.arrival after.chunks) next after := by
  rw [Channel.arrival_of_same same, List.append_nil]
  exact passed

theorem drain (before : Passed messages put forwarder pipeline) (slot : after.slot = pipeline.slot)
    (ended : pipeline.frames.ended = true -> after.frames.ended = true)
    (drained : pipeline.chunks.Drained after.chunks) : Passed messages put forwarder after := by
  have whole (kept : Whole messages put pipeline) : Whole messages put after := ⟨kept.put, slot.trans kept.slot⟩
  constructor
  case served => exact fun unclosed => drained.serves unclosed before.served
  case lost => exact drained.lost before.lost
  case filled => rw [slot]; exact fun ready => before.filled (drained.place ready)
  case counted => exact before.counted
  case slotted => rw [slot]; exact before.slotted
  case described => rw [slot]; exact before.described
  case seen => exact before.seen
  case accepted => exact before.accepted
  case failed => exact fun fault returned => (before.failed fault returned).imp_right whole
  case stopped =>
    intro total returned
    refine (before.stopped total returned).imp_right (.imp drained.receiving ?_)
    exact fun ⟨complete, clean, kept⟩ => ⟨ended complete, clean, whole kept⟩

theorem deliver (before : Passed messages put forwarder pipeline) (unfinished : forwarder.outcome? = none)
    (message : StorageMessage) :
    Passed (messages ++ [message]) put forwarder { pipeline with frames := pipeline.frames.push message } :=
  { before with
    described := fun descriptor same => descriptor?_append (before.described descriptor same) _
    accepted := before.accepted.trans (intact_mono _ _ _)
    failed := fun _ returned => absurd (unfinished.symm.trans returned) (by simp)
    stopped := fun _ returned => absurd (unfinished.symm.trans returned) (by simp) }

theorem whole (before : Passed messages put forwarder pipeline) (ahead : Ahead messages put forwarder pipeline)
    (reading : forwarder.phase = .reading)
    (bare : forwarder.order.headerSeen = false -> descriptor? pipeline.frames.items = none)
    (stops : intact forwarder.order.headerSeen pipeline.frames.items = []) : Whole messages put pipeline := by
  constructor
  case put =>
    have all := ahead.intact []
    simpa [reading, ForwardPhase.held, stops, eq_comm] using all
  case slot =>
    cases slot : pipeline.slot with
    | some descriptor => exact (before.described descriptor slot).symm
    | none =>
      have unseen : forwarder.order.headerSeen = false := by rw [<- before.slotted, slot]; rfl
      rw [ahead.fresh unseen, bare unseen]

theorem finish {outcome : Except Fault UInt64} (before : Passed messages put forwarder pipeline)
    (free : pipeline.chunks.receiving = true -> forwarder.phase = .reading)
    (failed : forall fault, outcome = .error fault ->
      offence? false messages = some fault /\ Whole messages put pipeline)
    (stopped : forall total, outcome = .ok total -> total = forwarder.forwarded /\
      (pipeline.chunks.receiving = false \/
        pipeline.frames.ended = true /\ offence? false messages = none /\ Whole messages put pipeline))
    (rest : List StorageMessage) :
    Passed messages put (forwarder.finish outcome)
      { pipeline with frames := { pipeline.frames with items := rest } } := by
  have returns {result : Except Fault UInt64} (returned : (forwarder.finish outcome).outcome? = some result) :
      outcome = result := Option.some.inj returned
  have served (unclosed : pipeline.chunks.receiving = true) : pipeline.chunks.Serves chunkSender false := by
    have serves := before.served unclosed
    rwa [free unclosed] at serves
  have seen (something : put ++ [] ≠ []) : forwarder.order.headerSeen = true := by
    refine before.seen fun nothing => something ?_
    simp [(List.append_eq_nil_iff.1 nothing).1]
  exact { before with
    served
    seen
    failed := fun fault returned => (failed fault (returns returned)).imp_right fun kept => ⟨kept.put, kept.slot⟩
    stopped := fun total returned => (stopped total (returns returned)).imp (fun counts => counts.trans before.counted)
      (.imp_right fun ⟨complete, clean, kept⟩ => ⟨complete, clean, ⟨kept.put, kept.slot⟩⟩) }

theorem move (before : Passed messages put forwarder pipeline)
    (ahead : Ahead messages put forwarder pipeline) (moved : forwarder.Moves pipeline next after) :
    Passed messages (put ++ pipeline.chunks.arrival after.chunks) next after := by
  cases moved with
  | header video rest reading unclosed ready first =>
    obtain ⟨rfl, rfl⟩ := ahead.header reading ready first
    refine .unput rfl ?_
    exact { before with
      filled := fun _ => rfl
      slotted := rfl
      described := fun _ same => same
      seen := fun _ => rfl
      failed := by simp [outcome?, reading]
      stopped := by simp [outcome?, reading] }
  | datagram datagram rest reading unclosed ready later =>
    have served := before.served
    rw [reading] at served
    refine .unput rfl ?_
    exact { before with
      served
      seen := fun _ => later
      failed := by simp [outcome?]
      stopped := by simp [outcome?] }
  | refuse message rest fault reading unclosed ready refused =>
    -- The offending message is the first one left, so that its fault is that of the whole stream.
    have offends := receive_error forwarder { pipeline with frames := { pipeline.frames with items := rest } }
      before.slotted refused
    obtain ⟨found, stops⟩ := offence?_append offends rest
    have clean := ahead.clean []
    simp only [List.append_nil] at clean
    have bare (unseen : forwarder.order.headerSeen = false) : descriptor? pipeline.frames.items = none := by
      rw [unseen] at offends
      rw [ready]
      cases message with
      | error status => rfl
      | ok response =>
        cases response with
        | header video => cases offends
        | datagram datagram => rfl
        | empty => rfl
    have whole := before.whole ahead reading bare (by rw [ready]; exact stops.trans (intact_of_offence offends))
    refine .unput rfl ?_
    refine before.finish (fun _ => reading) ?_ (by simp) rest
    rintro _ ⟨⟩
    exact ⟨by rw [clean, ready]; exact found, whole⟩
  | put payload held unclosed granted =>
    have serves := before.served unclosed
    have empty := serves.place_of_granted granted
    have later : forwarder.order.headerSeen = true := before.seen (by simp [held])
    have all := ahead.intact []
    simp only [List.append_nil, held] at all
    rw [Channel.arrival_of_put empty]
    exact { before with
      served := fun _ => serves.put granted
      lost := fun closed => absurd (unclosed.symm.trans closed) (by simp)
      filled := fun _ => before.slotted.trans later
      counted := by simp [before.counted]
      seen := fun _ => later
      accepted := by rw [all]; exact List.prefix_append _ _
      failed := by simp [outcome?]
      stopped := by simp [outcome?] }
  | queue payload held unclosed unpromised taken fresh =>
    have later : forwarder.order.headerSeen = true := before.seen (by simp [held])
    refine .unput rfl ?_
    exact { before with
      served := fun _ => (before.served unclosed).queue unpromised taken fresh
      seen := fun _ => later
      failed := by simp [outcome?]
      stopped := by simp [outcome?] }
  | abandon unfinished closed =>
    refine .unput rfl ?_
    refine before.finish (fun unclosed => absurd (closed.symm.trans unclosed) (by simp)) (by simp) ?_ _
    rintro _ ⟨⟩
    exact ⟨rfl, .inl closed⟩
  | finish reading unclosed drained through =>
    have clean := ahead.clean []
    simp only [drained, List.append_nil, offence?_nil] at clean
    have whole := before.whole ahead reading (fun _ => by rw [drained]; rfl) (by rw [drained, intact_nil])
    refine .unput rfl ?_
    refine before.finish (fun _ => reading) (by simp) ?_ _
    rintro _ ⟨⟩
    exact ⟨rfl, .inr ⟨through, clean, whole⟩⟩

end Passed

end Forwarder

end VideoRelay
