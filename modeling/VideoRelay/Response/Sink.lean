import VideoRelay.Channel
import VideoRelay.Response

set_option autoImplicit false

namespace VideoRelay

inductive Commit where
  | pending | streaming | failed
deriving DecidableEq, Repr

inductive Head where
  | stream (headers : Headers)
  | failed (status : Nat) (message : String)
deriving DecidableEq, Repr

def Head.response : Head -> ResponseHead
  | stream headers => { status := 200, headers }
  | failed status _ => .plain status

/-- The senders of the body channel are the handles on the sink. -/
structure Sink where
  headers : Headers := {}
  head : Option Head := none
  commit : Commit := .pending
  written : UInt64 := 0
  body : Channel Bytes := {}
deriving Repr, DecidableEq

namespace Sink

def isCommitted (sink : Sink) : Bool :=
  sink.commit != .pending

def decideHead (sink : Sink) (head : Head) : Sink :=
  { sink with head := sink.head.or (some head) }

def setHeader (sink : Sink) (name value : String) : Bool × Sink :=
  if sink.isCommitted then (false, sink)
  else (true, { sink with headers := sink.headers.insert name value })

def alreadyFailed : Fault :=
  .streamTransport { code := .aborted, message := "response already failed" }

def clientGone : Fault :=
  .streamTransport { code := .cancelled, message := "HTTP client disconnected" }

/-- Counts a chunk before it obtains the body slot, and decides the head if it is the first one. -/
def beginWrite (sink : Sink) (chunk : Bytes) : Except Fault Sink :=
  let counted := { sink with written := sink.written + .ofNat chunk.length }
  match sink.commit with
  | .failed => .error alreadyFailed
  | .streaming => .ok counted
  | .pending =>
    .ok { counted.decideHead (.stream sink.headers) with commit := .streaming, headers := {} }

def fail (sink : Sink) (status : Nat) (message : String) : Bool × Sink :=
  match sink.commit with
  | .pending => (true, { sink.decideHead (.failed status message) with commit := .failed })
  | .streaming => (false, { sink with commit := .failed })
  | .failed => (false, sink)

def failInternal (sink : Sink) : Bool × Sink :=
  sink.fail 500 internalFaultText

def addHandle (sink : Sink) : Sink :=
  { sink with body := sink.body.addSender }

/-- When the last handle goes and nothing was written, the answer is an empty one with the fields set so far. -/
def dropHandle (sink : Sink) : Sink :=
  let sink := { sink with body := sink.body.dropSender }
  if sink.body.senders = 0 && !sink.isCommitted then sink.decideHead (.stream sink.headers) else sink

def dropBody (sink : Sink) : Sink :=
  { sink with body := sink.body.close }

def isClosed (sink : Sink) : Bool :=
  !sink.body.receiving

end Sink

/-- One write on its way: not begun, begun, in line for the body slot, or over. -/
inductive Writer where
  | starting (chunk : Bytes)
  | offering (chunk : Bytes)
  | waiting (chunk : Bytes)
  | finished (outcome : Except Fault Unit)

namespace Writer

def outcome? : Writer -> Option (Except Fault Unit)
  | finished outcome => some outcome
  | _ => none

def offerTo (sink : Sink) (handle : Nat) (chunk : Bytes) : Option (Writer × Sink) :=
  match sink.body.offer handle chunk with
  | .taken body => some (finished (.ok ()), { sink with body })
  | .queued body => some (waiting chunk, { sink with body })
  | .closed => some (finished (.error Sink.clientGone), sink)
  | .blocked => none

def step (handle : Nat) (writer : Writer) (sink : Sink) : Option (Writer × Sink) :=
  match writer with
  | starting chunk =>
    match sink.beginWrite chunk with
    | .ok sink => some (offering chunk, sink)
    | .error fault => some (finished (.error fault), sink)
  | offering chunk | waiting chunk => offerTo sink handle chunk
  | finished _ => none

end Writer

inductive Reader where
  | unasked
  | asked
  | body
  | message (rest : Bytes)
  | gone
deriving DecidableEq, Repr

namespace Reader

/-- The head, once it was asked for and is decided. An error head comes with a body of its own, so that the
body of the sink is given up. -/
def receiveHead (reader : Reader) (sink : Sink) : Option (ResponseHead × Reader × Sink) :=
  match reader, sink.head with
  | asked, some head =>
    match head with
    | .stream _ => some (head.response, body, sink)
    | .failed _ text => some (head.response, message (Text.utf8Bytes text), sink.dropBody)
  | _, _ => none

inductive Read where
  | frame (bytes : Bytes) (reader : Reader) (sink : Sink)
  | nothing
  | finished

def read (reader : Reader) (sink : Sink) : Option Read :=
  match reader with
  | body => match sink.body.take with
    | .item chunk channel => some (.frame chunk body { sink with body := channel })
    | .nothing => some .nothing
    | .finished => some .finished
  | message rest => some (if rest.isEmpty then .finished else .frame rest (.message []) sink)
  | _ => none

def drop (sink : Sink) : Reader × Sink :=
  (gone, sink.dropBody)

end Reader

end VideoRelay
