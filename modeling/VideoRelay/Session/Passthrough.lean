import VideoRelay.Session.Pipeline

set_option autoImplicit false

namespace VideoRelay

namespace Descriptor

def disposition (descriptor : Descriptor) : String :=
  "attachment; filename=" ++ descriptor.fileName

def setContentType (descriptor : Descriptor) (sink : Sink) : Sink :=
  if descriptor.mimeType.isEmpty || !isHeaderText descriptor.mimeType then sink
  else (sink.setHeader contentType descriptor.mimeType).2

def setDisposition (descriptor : Descriptor) (sink : Sink) : Sink :=
  if isHeaderText descriptor.disposition then
    (sink.setHeader contentDisposition descriptor.disposition).2
  else sink

end Descriptor

inductive Passthrough where
  | receiving (written : UInt64)
  | writing (written : UInt64) (writer : Writer)
  | finished (outcome : Except Fault Unit)

namespace Passthrough

def start : Passthrough := receiving 0

def outcome? : Passthrough -> Option (Except Fault Unit)
  | finished outcome => some outcome
  | _ => none

def describe (written : UInt64) (pipeline : Pipeline) : Except Fault Pipeline :=
  if written = 0 && !pipeline.sink.isCommitted then
    (pipeline.descriptor.mapError .ofViolation).map fun descriptor =>
      { pipeline with sink := descriptor.setDisposition (descriptor.setContentType pipeline.sink) }
  else .ok pipeline

def step (handle : Nat) (emitter : Passthrough) (pipeline : Pipeline) :
    Option (Passthrough × Pipeline) :=
  match emitter with
  | receiving written =>
    match pipeline.chunks.take with
    | .item chunk chunks =>
      let pipeline := { pipeline with chunks }
      match describe written pipeline with
      | .ok pipeline => some (writing (written + .ofNat chunk.length) (.starting chunk), pipeline)
      | .error fault => some (finished (.error fault), pipeline)
    | .finished => some (finished (.ok ()), pipeline)
    | .nothing => none
  | writing written writer =>
    match writer.outcome? with
    | some (.ok ()) => some (receiving written, pipeline)
    | some (.error fault) => some (finished (.error fault), pipeline)
    | none =>
      (writer.step handle pipeline.sink).map fun (writer, sink) =>
        (writing written writer, { pipeline with sink })
  | finished _ => none

end Passthrough

end VideoRelay
