import VideoRelay.Proofs.Framing
import VideoRelay.Proofs.Session.Moves.Writer
import VideoRelay.Session

set_option autoImplicit false

namespace VideoRelay

def Passthrough.held : Passthrough -> List Bytes
  | writing _ writer => writer.held
  | receiving _ | finished _ => []

namespace Descriptor

def describe (descriptor : Descriptor) (sink : Sink) : Sink :=
  descriptor.setDisposition (descriptor.setContentType sink)

def typed (descriptor : Descriptor) (headers : Headers) : Headers :=
  if descriptor.mimeType.isEmpty || !isHeaderText descriptor.mimeType then headers
  else headers.insert contentType descriptor.mimeType

def named (descriptor : Descriptor) (headers : Headers) : Headers :=
  if isHeaderText descriptor.disposition then headers.insert contentDisposition descriptor.disposition
  else headers

theorem setContentType_eq (descriptor : Descriptor) {sink : Sink} (uncommitted : sink.isCommitted = false) :
    descriptor.setContentType sink = { sink with headers := descriptor.typed sink.headers } := by
  unfold setContentType typed
  split
  next => rfl
  next => simp [Sink.setHeader, uncommitted]

theorem setDisposition_eq (descriptor : Descriptor) {sink : Sink} (uncommitted : sink.isCommitted = false) :
    descriptor.setDisposition sink = { sink with headers := descriptor.named sink.headers } := by
  unfold setDisposition named
  split
  next => simp [Sink.setHeader, uncommitted]
  next => rfl

theorem describe_eq (descriptor : Descriptor) {sink : Sink} (uncommitted : sink.isCommitted = false) :
    descriptor.describe sink =
      { sink with headers := descriptor.named (descriptor.typed sink.headers) } := by
  rw [describe, setContentType_eq descriptor uncommitted, setDisposition_eq]
  exact uncommitted

end Descriptor

namespace Passthrough

variable (pipeline : Pipeline)

theorem describe_first {descriptor : Descriptor} (uncommitted : pipeline.sink.isCommitted = false)
    (slotted : pipeline.slot = some descriptor) :
    describe 0 pipeline = .ok { pipeline with sink := descriptor.describe pipeline.sink } := by
  simp [describe, uncommitted, Pipeline.descriptor, slotted, Descriptor.describe, Except.map]

theorem describe_unslotted (uncommitted : pipeline.sink.isCommitted = false)
    (unslotted : pipeline.slot = none) :
    describe 0 pipeline = .error (.ofViolation .chunkBeforeDescriptor) := by
  simp [describe, uncommitted, Pipeline.descriptor, unslotted, Except.map]

theorem describe_next {written : UInt64} (described : written ≠ 0 \/ pipeline.sink.isCommitted = true) :
    describe written pipeline = .ok pipeline := by
  rcases described with begun | committed
  next => simp [describe, begun]
  next => simp [describe, committed]

end Passthrough

namespace Session

def stored (session : Session) (outcome : Except Fault Unit) : Session :=
  endEmitting { session with
    emitter := .passthrough (.finished outcome)
    pipeline := { session.pipeline with
      chunks := session.pipeline.chunks.close, sink := session.pipeline.sink.dropHandle } } outcome

inductive Stores (session : Session) : Passthrough -> Session -> Prop
  | first (chunk : Bytes) (descriptor : Descriptor) (ready : session.pipeline.chunks.place = some chunk)
      (uncommitted : session.sink.isCommitted = false) (slotted : session.pipeline.slot = some descriptor) :
      Stores session (.receiving 0) { session with
        emitter := .passthrough (.writing (.ofNat chunk.length) (.starting chunk))
        pipeline := { session.pipeline with
          chunks := session.pipeline.chunks.taken, sink := descriptor.describe session.sink } }
  | next (written : UInt64) (chunk : Bytes) (ready : session.pipeline.chunks.place = some chunk)
      (described : written ≠ 0 \/ session.sink.isCommitted = true) :
      Stores session (.receiving written) { session with
        emitter := .passthrough (.writing (written + .ofNat chunk.length) (.starting chunk))
        pipeline := { session.pipeline with chunks := session.pipeline.chunks.taken } }
  | undescribed (chunk : Bytes) (ready : session.pipeline.chunks.place = some chunk)
      (uncommitted : session.sink.isCommitted = false) (unslotted : session.pipeline.slot = none) :
      Stores session (.receiving 0) (session.stored (.error (.ofViolation .chunkBeforeDescriptor)))
  | drain (written : UInt64) (drained : session.pipeline.chunks.place = none)
      (through : session.pipeline.chunks.senders = 0) :
      Stores session (.receiving written) (session.stored (.ok ()))
  | write (written : UInt64) (writer after : Writer) (sink : Sink)
      (moved : writer.Move emitterHandle session.sink after sink) :
      Stores session (.writing written writer) { session with
        emitter := .passthrough (.writing written after), pipeline := { session.pipeline with sink } }
  | wrote (written : UInt64) :
      Stores session (.writing written (.finished (.ok ())))
        { session with emitter := .passthrough (.receiving written) }
  | unwritten (written : UInt64) (fault : Fault) :
      Stores session (.writing written (.finished (.error fault))) (session.stored (.error fault))

theorem Stores.unfinished {session next : Session} {emitter : Passthrough}
    (moved : session.Stores emitter next) : emitter.outcome? = none := by
  cases moved <;> rfl

theorem stores_of_emitStored {session next : Session} {emitter : Passthrough}
    (moved : session.emitStored emitter = some next) : session.Stores emitter next := by
  obtain ⟨⟨after, pipeline⟩, stepped, rfl⟩ := Option.map_eq_some_iff.1 moved
  cases emitter with
  | receiving written =>
    simp only [Passthrough.step] at stepped
    split at stepped
    next chunk chunks taken =>
      obtain ⟨ready, rfl⟩ := Channel.take_eq_item_iff.1 taken
      let emptied := { session.pipeline with chunks := session.pipeline.chunks.taken }
      by_cases described : written ≠ 0 \/ session.sink.isCommitted = true
      next =>
        rw [Passthrough.describe_next emptied described] at stepped
        obtain ⟨rfl, rfl⟩ := Prod.mk.inj (Option.some.inj stepped)
        exact .next written chunk ready described
      next =>
        simp only [ne_eq, not_or, Decidable.not_not, Bool.not_eq_true] at described
        obtain ⟨rfl, uncommitted⟩ := described
        cases slot : session.pipeline.slot with
        | none =>
          rw [Passthrough.describe_unslotted emptied uncommitted slot] at stepped
          obtain ⟨rfl, rfl⟩ := Prod.mk.inj (Option.some.inj stepped)
          exact .undescribed chunk ready uncommitted slot
        | some descriptor =>
          rw [Passthrough.describe_first emptied uncommitted slot] at stepped
          simp only [UInt64.zero_add] at stepped
          obtain ⟨rfl, rfl⟩ := Prod.mk.inj (Option.some.inj stepped)
          exact .first chunk descriptor ready uncommitted slot
    next finished =>
      obtain ⟨drained, through⟩ := Channel.take_eq_finished_iff.1 finished
      cases stepped
      exact .drain written drained through
    next => cases stepped
  | writing written writer =>
    simp only [Passthrough.step] at stepped
    cases through : writer.outcome? with
    | none =>
      simp only [through, Option.map_eq_some_iff] at stepped
      obtain ⟨⟨later, sink⟩, wrote, same⟩ := stepped
      cases same
      exact .write written writer later sink (Writer.move_of_step wrote)
    | some outcome =>
      cases writer with
      | finished result =>
        cases through
        cases outcome with
        | ok _ => cases stepped; exact .wrote written
        | error fault => cases stepped; exact .unwritten written fault
      | _ => cases through
  | finished outcome => cases stepped

end Session

end VideoRelay
