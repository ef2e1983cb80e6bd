import VideoRelay.Channel
import VideoRelay.Wire.Encoder

set_option autoImplicit false

namespace VideoRelay

open Wire

/-- A call whose requests start with a header of type `H`. `done` tells the sending side that the call is over,
`held` that its future or stream is still owned by the caller. -/
structure Call (H : Type) where
  requests : Channel (UploadRequest H) := {}
  answer : Option (Except Status Unit) := none
  replies : Source (Except Status DownloadResponse) := {}
  done : Bool := false
  held : Bool := true

inductive CallAction (H : Type) where
  | answer (answer : Except Status Unit)
  | takeRequest (request : UploadRequest H)
  | closeRequests
  | reply (reply : Except Status DownloadResponse)
  | endReplies

namespace Call

variable {H : Type}

def isRefused (call : Call H) : Bool :=
  match call.answer with
  | some (.error _) => true
  | _ => false

/-- Whether either side is through with the call, so that the transport lets go of its requests. -/
def isOver (call : Call H) : Bool :=
  !call.held || call.isRefused || call.replies.ended ||
    call.replies.items.any fun reply => match reply with
      | .error _ => true
      | .ok _ => false

/-- The sender is gone and every request was taken: the transport can end the request stream. -/
def isHalfClosed (call : Call H) : Bool :=
  call.held && call.requests.senders = 0 && call.requests.place.isNone

def canReply (call : Call H) : Bool :=
  call.held && call.answer.isSome && !call.isOver

variable [DecidableEq H]

def act (call : Call H) : CallAction H -> Option (Call H)
  | .answer answer =>
    if call.held && call.answer.isNone then some { call with answer := some answer } else none
  | .takeRequest request =>
    match call.requests.take with
    | .item first requests => if first = request then some { call with requests } else none
    | _ => none
  | .closeRequests =>
    if call.isOver && call.requests.receiving then some { call with requests := call.requests.close }
    else none
  | .reply reply =>
    if call.canReply then some { call with replies := call.replies.push reply } else none
  | .endReplies =>
    if call.canReply then some { call with replies := call.replies.finish } else none

end Call

end VideoRelay
