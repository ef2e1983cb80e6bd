import VideoRelay.Response.Sink
import VideoRelay.Wire.Storage

set_option autoImplicit false

namespace VideoRelay

abbrev StorageMessage := Except Status Wire.GetVideoResponse

structure Pipeline where
  frames : Source StorageMessage := {}
  slot : Option Descriptor := none
  chunks : Channel Bytes := {}
  sink : Sink := {}

namespace Pipeline

def configure (pipeline : Pipeline) (descriptor : Descriptor) : Except Violation Pipeline :=
  match pipeline.slot with
  | none => .ok { pipeline with slot := some descriptor }
  | some _ => .error .descriptorTwice

def descriptor (pipeline : Pipeline) : Except Violation Descriptor :=
  match pipeline.slot with
  | some descriptor => .ok descriptor
  | none => .error .chunkBeforeDescriptor

end Pipeline

inductive ForwardPhase where
  | reading
  | sending (payload : Bytes)
  | waiting (payload : Bytes)
  | finished (outcome : Except Fault UInt64)

structure Forwarder where
  order : FrameGate := {}
  forwarded : UInt64 := 0
  phase : ForwardPhase := .reading

namespace Forwarder

def chunkSender : Nat := 0

def outcome? (forwarder : Forwarder) : Option (Except Fault UInt64) :=
  match forwarder.phase with
  | .finished outcome => some outcome
  | _ => none

def finish (forwarder : Forwarder) (outcome : Except Fault UInt64) : Forwarder :=
  { forwarder with phase := .finished outcome }

/-- Nobody consumes the chunks any more: that is no failure of the storage read. -/
def stop (forwarder : Forwarder) : Forwarder :=
  forwarder.finish (.ok forwarder.forwarded)

def receive (forwarder : Forwarder) (pipeline : Pipeline) (message : StorageMessage) :
    Except Fault (Forwarder × Pipeline) := do
  let response <- message.mapError .streamTransport
  let frame <- response.frame.mapError .ofViolation
  let order <- (forwarder.order.accept frame).mapError .ofViolation
  match frame with
  | .header descriptor =>
    let pipeline <- (pipeline.configure descriptor).mapError .ofViolation
    return ({ forwarder with order }, pipeline)
  | .datagram datagram =>
    return ({ forwarder with order, phase := .sending datagram.payload }, pipeline)

def offer (forwarder : Forwarder) (pipeline : Pipeline) (payload : Bytes) :
    Option (Forwarder × Pipeline) :=
  match pipeline.chunks.offer chunkSender payload with
  | .taken chunks =>
    some ({ forwarder with forwarded := forwarder.forwarded + .ofNat payload.length, phase := .reading },
      { pipeline with chunks })
  | .queued chunks => some ({ forwarder with phase := .waiting payload }, { pipeline with chunks })
  | .closed => some (forwarder.stop, pipeline)
  | .blocked => none

/-- The next step, or nothing while the forwarder cannot move. Before each message it looks whether the chunks
are still consumed. -/
def step (forwarder : Forwarder) (pipeline : Pipeline) : Option (Forwarder × Pipeline) :=
  match forwarder.phase with
  | .reading =>
    if !pipeline.chunks.receiving then some (forwarder.stop, pipeline)
    else match pipeline.frames.next with
      | .item message frames =>
        let pipeline := { pipeline with frames }
        match forwarder.receive pipeline message with
        | .ok next => some next
        | .error fault => some (forwarder.finish (.error fault), pipeline)
      | .finished => some (forwarder.stop, pipeline)
      | .nothing => none
  | .sending payload | .waiting payload => forwarder.offer pipeline payload
  | .finished _ => none

end Forwarder

end VideoRelay
