import VideoRelay.Session.Passthrough

set_option autoImplicit false

namespace VideoRelay.Rehearsal

inductive Work where
  | write (writer : Writer)
  | closed
  | emit (emitter : Passthrough)
  | forward (forwarder : Forwarder)

inductive Outcome where
  | ok
  | forwarded (count : Nat)
  | fault (fault : Fault)
deriving DecidableEq, Repr

def Outcome.ofUnit : Except Fault Unit -> Outcome
  | .ok _ => ok
  | .error cause => fault cause

def Outcome.ofCount : Except Fault UInt64 -> Outcome
  | .ok count => forwarded count.toNat
  | .error cause => fault cause

structure Job where
  number : Nat
  name : String
  work : Work

structure Bench where
  pipeline : Pipeline := {}
  hasSink : Bool := true
  hasSender : Bool := true
  hasReceiver : Bool := true
  framesOpen : Bool := true
  framesRead : Bool := true
  reader : Reader := .unasked
  jobs : List Job := []
  started : Nat := 0
  writes : Nat := 0
  forwardStarted : Bool := false

structure Shown where
  done : List (String × Outcome) := []
  head : Option ResponseHead := none

namespace Work

def outcome? : Work -> Pipeline -> Option Outcome
  | write writer, _ => writer.outcome?.map .ofUnit
  | closed, pipeline => if pipeline.sink.isClosed then some .ok else none
  | emit emitter, _ => emitter.outcome?.map .ofUnit
  | forward forwarder, _ => forwarder.outcome?.map .ofCount

def step (handle : Nat) (work : Work) (pipeline : Pipeline) : Option (Work × Pipeline) :=
  match work with
  | write writer => (writer.step handle pipeline.sink).map fun (writer, sink) =>
      (write writer, { pipeline with sink })
  | closed => none
  | emit emitter => (emitter.step handle pipeline).map fun (emitter, pipeline) =>
      (emit emitter, pipeline)
  | forward forwarder => (forwarder.step pipeline).map fun (forwarder, pipeline) =>
      (forward forwarder, pipeline)

def run (handle : Nat) : Nat -> Work -> Pipeline -> Work × Pipeline
  | 0, work, pipeline => (work, pipeline)
  | fuel + 1, work, pipeline =>
    match work.step handle pipeline with
    | none => (work, pipeline)
    | some (work, pipeline) => run handle fuel work pipeline

end Work

namespace Bench

def fuel (bench : Bench) : Nat :=
  16 * (bench.pipeline.frames.items.length + bench.jobs.length + 4)

def release (bench : Bench) (work : Work) : Bench :=
  match work with
  | .write _ | .closed =>
    { bench with pipeline := { bench.pipeline with sink := bench.pipeline.sink.dropHandle } }
  | .emit _ =>
    { bench with pipeline := { bench.pipeline with
        chunks := bench.pipeline.chunks.close, sink := bench.pipeline.sink.dropHandle } }
  | .forward _ =>
    { bench with
      framesRead := false
      pipeline := { bench.pipeline with
        frames := { bench.pipeline.frames with items := [] }
        chunks := bench.pipeline.chunks.dropSender } }

def poll (bench : Bench) (job : Job) : Bench × Option Outcome :=
  let (work, pipeline) := job.work.run job.number bench.fuel bench.pipeline
  let bench := { bench with pipeline }
  match work.outcome? pipeline with
  | some outcome =>
    let jobs := bench.jobs.filter fun other => other.number != job.number
    ({ bench with jobs }.release work, some outcome)
  | none =>
    let jobs := bench.jobs.map fun other =>
      if other.number = job.number then { other with work } else other
    ({ bench with jobs }, none)

def pollAll (bench : Bench) : List Job -> List (String × Outcome) -> Bench × List (String × Outcome)
  | [], done => (bench, done)
  | job :: rest, done =>
    match bench.poll job with
    | (bench, some outcome) => pollAll bench rest (done ++ [(job.name, outcome)])
    | (bench, none) => pollAll bench rest done

/-- Rounds over all jobs; the head is received as soon as it is decided. -/
def settleFor : Nat -> Bench -> Shown -> Bench × Shown
  | 0, bench, shown => (bench, shown)
  | rounds + 1, bench, shown =>
    let (bench, done) := bench.pollAll bench.jobs shown.done
    match bench.reader.receiveHead bench.pipeline.sink with
    | some (head, reader, sink) =>
      settleFor rounds { bench with reader, pipeline := { bench.pipeline with sink } }
        { done, head := some head }
    | none => settleFor rounds bench { shown with done }

def settle (bench : Bench) : Bench × Shown :=
  settleFor bench.fuel bench {}

def start (bench : Bench) (name : String) (work : Work) : Bench :=
  { bench with
    jobs := bench.jobs ++ [{ number := bench.started, name, work }], started := bench.started + 1 }

def withSink (bench : Bench) (sink : Sink) : Bench :=
  { bench with pipeline := { bench.pipeline with sink } }

def withChunks (bench : Bench) (chunks : Channel Bytes) : Bench :=
  { bench with pipeline := { bench.pipeline with chunks } }

end Bench

inductive Reply where
  | nothing
  | flag (value : Bool)
  | text (value : String)
  | bytes (value : Bytes)
  | fault (fault : Fault)
deriving DecidableEq, Repr

inductive Move where
  | setHeader (name value : String)
  | write (chunk : Bytes)
  | awaitClosed
  | fail (status : Nat) (message : String)
  | failInternal
  | dropSink
  | askHead
  | read
  | dropResponse
  | kind
  | configure (descriptor : Descriptor)
  | emit
  | chunk (chunk : Bytes)
  | endChunks
  | receive
  | dropChunks
  | forward
  | message (message : StorageMessage)
  | endMessages

namespace Bench

def sendMessage (bench : Bench) (message : StorageMessage) : Reply × Bench :=
  if !bench.framesOpen then (.nothing, bench)
  else if !bench.framesRead then (.text "closed", bench)
  else
    let frames := bench.pipeline.frames.push message
    (.text "ok", { bench with pipeline := { bench.pipeline with frames } })

def readBody (bench : Bench) : Reply × Bench :=
  match bench.reader.read bench.pipeline.sink with
  | none => (.nothing, bench)
  | some .nothing => (.text "pending", bench)
  | some .finished => (.text "end", bench)
  | some (.frame bytes reader sink) => (.bytes bytes, { bench with reader }.withSink sink)

def receiveChunk (bench : Bench) : Reply × Bench :=
  if !bench.hasReceiver then (.nothing, bench)
  else match bench.pipeline.chunks.take with
    | .item chunk chunks => (.bytes chunk, bench.withChunks chunks)
    | .nothing => (.text "pending", bench)
    | .finished => (.text "end", bench)

def sendChunk (bench : Bench) (chunk : Bytes) : Reply × Bench :=
  let chunks := bench.pipeline.chunks
  if !bench.hasSender then (.nothing, bench)
  else if !chunks.receiving then (.text "closed", bench)
  else if chunks.isFree then (.text "ok", bench.withChunks { chunks with place := some chunk })
  else (.text "full", bench)

/-- The effect of a move before anything else runs. -/
def act (bench : Bench) : Move -> Reply × Bench
  | .setHeader name value =>
    if !bench.hasSink then (.nothing, bench)
    else
      let (set, sink) := bench.pipeline.sink.setHeader name value
      (.flag set, bench.withSink sink)
  | .write chunk =>
    if !bench.hasSink then (.nothing, bench)
    else
      let name := "write" ++ toString bench.writes
      let bench := { bench with writes := bench.writes + 1 }.start name (.write (.starting chunk))
      (.text name, bench.withSink bench.pipeline.sink.addHandle)
  | .awaitClosed =>
    if !bench.hasSink then (.nothing, bench)
    else
      let bench := bench.start "closed" .closed
      (.text "closed", bench.withSink bench.pipeline.sink.addHandle)
  | .fail status message =>
    if !bench.hasSink then (.nothing, bench)
    else
      let (reached, sink) := bench.pipeline.sink.fail status message
      (.flag reached, bench.withSink sink)
  | .failInternal =>
    if !bench.hasSink then (.nothing, bench)
    else
      let (reached, sink) := bench.pipeline.sink.failInternal
      (.flag reached, bench.withSink sink)
  | .dropSink =>
    if !bench.hasSink then (.flag false, bench)
    else (.flag true, { bench with hasSink := false }.withSink bench.pipeline.sink.dropHandle)
  | .askHead => match bench.reader with
    | .unasked => (.text "asked", { bench with reader := .asked })
    | _ => (.nothing, bench)
  | .read => bench.readBody
  | .dropResponse => match bench.reader with
    | .gone => (.nothing, bench)
    | _ =>
      let (reader, sink) := Reader.drop bench.pipeline.sink
      (.text "dropped", { bench with reader }.withSink sink)
  | .kind => (.text "passthrough", bench)
  | .configure descriptor =>
    match bench.pipeline.configure descriptor with
    | .ok pipeline => (.text "ok", { bench with pipeline })
    | .error violation => (.fault (.ofViolation violation), bench)
  | .emit =>
    if !bench.hasReceiver || !bench.hasSink then (.nothing, bench)
    else
      let bench := { bench with hasReceiver := false }.start "emit" (.emit .start)
      (.text "started", bench.withSink bench.pipeline.sink.addHandle)
  | .chunk chunk => bench.sendChunk chunk
  | .endChunks =>
    if !bench.hasSender then (.flag false, bench)
    else (.flag true, { bench with hasSender := false }.withChunks bench.pipeline.chunks.dropSender)
  | .receive => bench.receiveChunk
  | .dropChunks =>
    if !bench.hasReceiver then (.flag false, bench)
    else (.flag true, { bench with hasReceiver := false }.withChunks bench.pipeline.chunks.close)
  | .forward =>
    if bench.forwardStarted || !bench.hasSender then (.nothing, bench)
    else
      let bench := { bench with forwardStarted := true }.start "forward" (.forward {})
      (.text "started", bench.withChunks bench.pipeline.chunks.addSender)
  | .message message => bench.sendMessage message
  | .endMessages =>
    if !bench.framesOpen then (.flag false, bench)
    else
      let frames := bench.pipeline.frames.finish
      (.flag true, { bench with framesOpen := false, pipeline := { bench.pipeline with frames } })

structure View where
  reply : Reply
  shown : Shown
  sink : Option (Bool × Nat)

def move (bench : Bench) (move : Move) : View × Bench :=
  let (reply, bench) := bench.act move
  let (bench, shown) := bench.settle
  let sink := bench.pipeline.sink
  ({ reply, shown, sink := if bench.hasSink then some (sink.isCommitted, sink.written.toNat) else none }, bench)

def moves (bench : Bench) : List Move -> List View
  | [] => []
  | first :: rest =>
    let (view, bench) := bench.move first
    view :: bench.moves rest

end Bench

end VideoRelay.Rehearsal
