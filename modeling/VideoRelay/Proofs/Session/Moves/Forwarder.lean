import VideoRelay.Proofs.Channel
import VideoRelay.Proofs.Framing
import VideoRelay.Session

set_option autoImplicit false

namespace VideoRelay

def ForwardPhase.held : ForwardPhase -> List Bytes
  | sending payload | waiting payload => [payload]
  | reading | finished _ => []

def ForwardPhase.isWaiting : ForwardPhase -> Bool
  | waiting _ => true
  | reading | sending _ | finished _ => false

namespace Forwarder

inductive Moves (forwarder : Forwarder) (pipeline : Pipeline) : Forwarder -> Pipeline -> Prop
  | header (video : Wire.Video) (rest : List StorageMessage) (reading : forwarder.phase = .reading)
      (unclosed : pipeline.chunks.receiving = true) (ready : pipeline.frames.items = .ok (.header video) :: rest)
      (first : forwarder.order.headerSeen = false) (unset : pipeline.slot = none) :
      Moves forwarder pipeline { forwarder with order := { headerSeen := true } }
        { pipeline with frames := { pipeline.frames with items := rest }, slot := some video.descriptor }
  | datagram (datagram : Datagram) (rest : List StorageMessage) (reading : forwarder.phase = .reading)
      (unclosed : pipeline.chunks.receiving = true) (ready : pipeline.frames.items = .ok (.datagram datagram) :: rest)
      (later : forwarder.order.headerSeen = true) :
      Moves forwarder pipeline { forwarder with phase := .sending datagram.payload }
        { pipeline with frames := { pipeline.frames with items := rest } }
  | refuse (message : StorageMessage) (rest : List StorageMessage) (fault : Fault)
      (reading : forwarder.phase = .reading) (unclosed : pipeline.chunks.receiving = true)
      (ready : pipeline.frames.items = message :: rest)
      (refused : forwarder.receive { pipeline with frames := { pipeline.frames with items := rest } } message =
        .error fault) :
      Moves forwarder pipeline (forwarder.finish (.error fault))
        { pipeline with frames := { pipeline.frames with items := rest } }
  | put (payload : Bytes) (held : forwarder.phase.held = [payload]) (unclosed : pipeline.chunks.receiving = true)
      (granted : pipeline.chunks.promised = some chunkSender \/ pipeline.chunks.isFree = true) :
      Moves forwarder pipeline
        { forwarder with forwarded := forwarder.forwarded + .ofNat payload.length, phase := .reading }
        { pipeline with chunks := { pipeline.chunks with place := some payload, promised := none } }
  | queue (payload : Bytes) (held : forwarder.phase.held = [payload]) (unclosed : pipeline.chunks.receiving = true)
      (unpromised : pipeline.chunks.promised ≠ some chunkSender) (taken : pipeline.chunks.isFree = false)
      (fresh : chunkSender ∉ pipeline.chunks.waiting) :
      Moves forwarder pipeline { forwarder with phase := .waiting payload }
        { pipeline with chunks := { pipeline.chunks with waiting := pipeline.chunks.waiting ++ [chunkSender] } }
  | abandon (unfinished : forwarder.outcome? = none) (closed : pipeline.chunks.receiving = false) :
      Moves forwarder pipeline forwarder.stop pipeline
  | finish (reading : forwarder.phase = .reading) (unclosed : pipeline.chunks.receiving = true)
      (drained : pipeline.frames.items = []) (through : pipeline.frames.ended = true) :
      Moves forwarder pipeline forwarder.stop pipeline

variable {forwarder next : Forwarder} {pipeline after : Pipeline} {payload : Bytes}

theorem moves_of_offer (held : forwarder.phase.held = [payload])
    (stepped : forwarder.offer pipeline payload = some (next, after)) : forwarder.Moves pipeline next after := by
  have unfinished : forwarder.outcome? = none := by
    unfold ForwardPhase.held at held
    split at held <;> simp_all [outcome?]
  unfold offer at stepped
  split at stepped
  next chunks taken =>
    obtain ⟨unclosed, granted, rfl⟩ := Channel.offer_eq_taken_iff.1 taken
    cases stepped
    exact .put payload held unclosed granted
  next chunks queued =>
    obtain ⟨unclosed, unpromised, taken, fresh, rfl⟩ := Channel.offer_eq_queued_iff.1 queued
    cases stepped
    exact .queue payload held unclosed unpromised taken fresh
  next closed =>
    cases stepped
    exact .abandon unfinished (Channel.offer_eq_closed_iff.1 closed)
  next => cases stepped

theorem moves_of_step (stepped : forwarder.step pipeline = some (next, after)) :
    forwarder.Moves pipeline next after := by
  unfold step at stepped
  split at stepped
  next reading =>
    split at stepped
    -- A forwarder that reads looks first whether the chunks are still taken.
    next closed =>
      cases stepped
      exact .abandon (by simp [outcome?, reading]) (by simpa using closed)
    next unclosed =>
      replace unclosed : pipeline.chunks.receiving = true := by simpa using unclosed
      unfold Source.next at stepped
      cases ready : pipeline.frames.items with
      | nil =>
        cases through : pipeline.frames.ended with
        | false => simp [ready, through] at stepped
        | true =>
          simp only [ready, through, ↓reduceIte, Option.some.injEq, Prod.mk.injEq] at stepped
          obtain ⟨rfl, rfl⟩ := stepped
          exact .finish reading unclosed ready through
      | cons message rest =>
        simp only [ready] at stepped
        split at stepped
        next result received =>
          cases stepped
          rcases receive_ok _ _ received with ⟨video, rfl, first, unset, same⟩ | ⟨datagram, rfl, later, same⟩
          next => cases same; exact .header video rest reading unclosed ready first unset
          next => cases same; exact .datagram datagram rest reading unclosed ready later
        next fault refused =>
          cases stepped
          exact .refuse message rest fault reading unclosed ready refused
  next payload sending => exact moves_of_offer (by rw [sending]; rfl) stepped
  next payload waiting => exact moves_of_offer (by rw [waiting]; rfl) stepped
  next => cases stepped

theorem Moves.keeps (moved : forwarder.Moves pipeline next after) :
    after.frames.ended = pipeline.frames.ended /\ after.chunks.receiving = pipeline.chunks.receiving := by
  cases moved <;> exact ⟨rfl, rfl⟩

theorem step_closed (closed : pipeline.chunks.receiving = false) (unfinished : forwarder.outcome? = none) :
    forwarder.step pipeline = some (forwarder.stop, pipeline) := by
  cases phase : forwarder.phase with
  | finished outcome => simp [outcome?, phase] at unfinished
  | reading => simp [step, phase, closed]
  | sending payload | waiting payload => simp [step, phase, offer, Channel.offer_closed, closed]

theorem stuck_of_step (stuck : forwarder.step pipeline = none) :
    forwarder.outcome?.isSome = true \/
      forwarder.phase = .reading /\ pipeline.frames.items = [] /\ pipeline.frames.ended = false \/
      exists payload, forwarder.phase.held = [payload] /\ pipeline.chunks.offer chunkSender payload = .blocked := by
  have offers (payload : Bytes) (stays : forwarder.offer pipeline payload = none) :
      pipeline.chunks.offer chunkSender payload = .blocked := by
    unfold offer at stays
    split at stays
    next => cases stays
    next => cases stays
    next => cases stays
    next blocked => exact blocked
  cases phase : forwarder.phase with
  | finished outcome => exact .inl (by simp [outcome?, phase])
  | sending payload | waiting payload =>
    exact .inr (.inr ⟨payload, rfl, offers payload (by simpa [step, phase] using stuck)⟩)
  | reading =>
    refine .inr (.inl ⟨rfl, ?_⟩)
    simp only [step, phase] at stuck
    split at stuck
    next => cases stuck
    next =>
      unfold Source.next at stuck
      cases items : pipeline.frames.items with
      | nil =>
        cases ended : pipeline.frames.ended with
        | false => exact ⟨rfl, rfl⟩
        | true => simp [items, ended] at stuck
      | cons message rest =>
        simp only [items] at stuck
        split at stuck <;> cases stuck

end Forwarder

namespace Session

def ended (session : Session) (forwarder : Forwarder) : Session :=
  { session with
    forwarder
    pipeline := { session.pipeline with
      chunks := session.pipeline.chunks.dropSender
      frames := { session.pipeline.frames with items := [] } } }

inductive Forwards (session : Session) : Session -> Prop
  | header (video : Wire.Video) (rest : List StorageMessage)
      (reading : session.forwarder.phase = .reading) (unclosed : session.pipeline.chunks.receiving = true)
      (ready : session.pipeline.frames.items = .ok (.header video) :: rest)
      (first : session.forwarder.order.headerSeen = false) (unset : session.pipeline.slot = none) :
      Forwards session { session with
        forwarder := { session.forwarder with order := { headerSeen := true } }
        pipeline := { session.pipeline with
          frames := { session.pipeline.frames with items := rest }, slot := some video.descriptor } }
  | datagram (datagram : Datagram) (rest : List StorageMessage)
      (reading : session.forwarder.phase = .reading) (unclosed : session.pipeline.chunks.receiving = true)
      (ready : session.pipeline.frames.items = .ok (.datagram datagram) :: rest)
      (later : session.forwarder.order.headerSeen = true) :
      Forwards session { session with
        forwarder := { session.forwarder with phase := .sending datagram.payload }
        pipeline := { session.pipeline with frames := { session.pipeline.frames with items := rest } } }
  | refuse (message : StorageMessage) (rest : List StorageMessage) (fault : Fault)
      (reading : session.forwarder.phase = .reading) (unclosed : session.pipeline.chunks.receiving = true)
      (ready : session.pipeline.frames.items = message :: rest)
      (refused : session.forwarder.receive { session.pipeline with
        frames := { session.pipeline.frames with items := rest } } message = .error fault) :
      Forwards session
        { (session.withSink session.sink.failInternal.2).ended (session.forwarder.finish (.error fault)) with
          abort := true }
  | put (payload : Bytes) (held : session.forwarder.phase.held = [payload])
      (unclosed : session.pipeline.chunks.receiving = true)
      (granted : session.pipeline.chunks.promised = some Forwarder.chunkSender \/
        session.pipeline.chunks.isFree = true) :
      Forwards session { session with
        forwarder := { session.forwarder with
          forwarded := session.forwarder.forwarded + .ofNat payload.length, phase := .reading }
        pipeline := { session.pipeline with
          chunks := { session.pipeline.chunks with place := some payload, promised := none } } }
  | queue (payload : Bytes) (held : session.forwarder.phase.held = [payload])
      (unclosed : session.pipeline.chunks.receiving = true)
      (unpromised : session.pipeline.chunks.promised ≠ some Forwarder.chunkSender)
      (taken : session.pipeline.chunks.isFree = false)
      (fresh : Forwarder.chunkSender ∉ session.pipeline.chunks.waiting) :
      Forwards session { session with
        forwarder := { session.forwarder with phase := .waiting payload }
        pipeline := { session.pipeline with chunks := { session.pipeline.chunks with
          waiting := session.pipeline.chunks.waiting ++ [Forwarder.chunkSender] } } }
  | abandon (unfinished : session.forwarded? = none)
      (closed : session.pipeline.chunks.receiving = false) :
      Forwards session (session.ended session.forwarder.stop)
  | finish (reading : session.forwarder.phase = .reading)
      (unclosed : session.pipeline.chunks.receiving = true)
      (drained : session.pipeline.frames.items = []) (through : session.pipeline.frames.ended = true) :
      Forwards session (session.ended session.forwarder.stop)

theorem forwards_of_forward {session next : Session} (moved : session.forward = some next) :
    session.Forwards next := by
  obtain ⟨⟨forwarder, pipeline⟩, stepped, rfl⟩ := Option.map_eq_some_iff.1 moved
  cases Forwarder.moves_of_step stepped with
  | header video rest reading unclosed ready first unset =>
    simpa [Forwarder.outcome?, reading] using Forwards.header video rest reading unclosed ready first unset
  | datagram datagram rest reading unclosed ready later => exact .datagram datagram rest reading unclosed ready later
  | refuse message rest fault reading unclosed ready refused =>
    exact .refuse message rest fault reading unclosed ready refused
  | put payload held unclosed granted => exact .put payload held unclosed granted
  | queue payload held unclosed unpromised taken fresh => exact .queue payload held unclosed unpromised taken fresh
  | abandon unfinished closed => exact .abandon unfinished closed
  | finish reading unclosed drained through => exact .finish reading unclosed drained through

theorem Forwards.moves {session next : Session} (moved : session.Forwards next) :
    exists pipeline, session.forwarder.Moves session.pipeline next.forwarder pipeline /\
      next.pipeline.slot = pipeline.slot /\ next.isOver = session.isOver /\
      next.pipeline.frames.ended = pipeline.frames.ended /\
      (next.forwarded? = none -> next.pipeline.frames = pipeline.frames) /\
      next.pipeline.chunks = { pipeline.chunks with
        senders := session.pipeline.chunks.senders - if next.forwarded?.isSome then 1 else 0 } := by
  cases moved with
  | header video rest reading unclosed ready first unset =>
    refine ⟨_, .header video rest reading unclosed ready first unset, rfl, rfl, rfl, fun _ => rfl, ?_⟩
    simp [forwarded?, Forwarder.outcome?, reading]
  | datagram datagram rest reading unclosed ready later =>
    exact ⟨_, .datagram datagram rest reading unclosed ready later, rfl, rfl, rfl, fun _ => rfl, rfl⟩
  | refuse message rest fault reading unclosed ready refused =>
    exact ⟨_, .refuse message rest fault reading unclosed ready refused, rfl, rfl, rfl, fun going => (by cases going),
      rfl⟩
  | put payload held unclosed granted =>
    exact ⟨_, .put payload held unclosed granted, rfl, rfl, rfl, fun _ => rfl, rfl⟩
  | queue payload held unclosed unpromised taken fresh =>
    exact ⟨_, .queue payload held unclosed unpromised taken fresh, rfl, rfl, rfl, fun _ => rfl, rfl⟩
  | abandon unfinished closed =>
    exact ⟨_, .abandon unfinished closed, rfl, rfl, rfl, fun going => (by cases going), rfl⟩
  | finish reading unclosed drained through =>
    exact ⟨_, .finish reading unclosed drained through, rfl, rfl, rfl, fun going => (by cases going), rfl⟩

theorem forward_stuck {session : Session} (stuck : session.forward = none) :
    session.forwarded?.isSome = true \/
      session.forwarder.phase = .reading /\ session.pipeline.frames.items = [] /\
        session.pipeline.frames.ended = false \/
      exists payload, session.forwarder.phase.held = [payload] /\
        session.pipeline.chunks.offer Forwarder.chunkSender payload = .blocked :=
  Forwarder.stuck_of_step (Option.map_eq_none_iff.1 stuck)

end Session

end VideoRelay
