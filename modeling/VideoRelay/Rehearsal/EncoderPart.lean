import VideoRelay.Rehearsal.Script

set_option autoImplicit false

namespace VideoRelay.Rehearsal

open Wire

inductive CallStage where
  | unanswered
  | refused
  | playing (cues : List Cue)
  | closing (cues : List Cue)
  | holding
  | ended
  | closed

inductive CallEnd where
  | refused | ended | closed
deriving DecidableEq, Repr

structure EncoderPart (H : Type) where
  script : EncoderScript
  stage : CallStage := .unanswered
  requests : List (UploadRequest H) := []
  sent : Nat := 0

namespace EncoderPart

variable {H : Type}

def callEnd? (part : EncoderPart H) : Option CallEnd :=
  match part.stage with
  | .unanswered => none
  | .refused => some .refused
  | .ended => some .ended
  | _ => some .closed

def isIdle (part : EncoderPart H) : Bool :=
  match part.stage with
  | .playing [] => true
  | _ => false

def hasHandled (part : EncoderPart H) (requests : Nat) : Bool :=
  part.isIdle && part.requests.length = requests

def upperByte (byte : UInt8) : UInt8 :=
  if 97 <= byte && byte <= 122 then byte - 32 else byte

def echo? (part : EncoderPart H) : Option Datagram :=
  match part.requests.getLast? with
  | some (.datagram datagram) => some { datagram with payload := datagram.payload.map upperByte }
  | _ => none

abbrev Turn (H : Type) := Option (CallAction H) × EncoderPart H

def send (part : EncoderPart H) (datagram : Datagram) : Turn H :=
  (some (.reply (receive { datagram := some datagram })), { part with sent := part.sent + 1 })

def play (part : EncoderPart H) (after : CallStage) : Cue -> Turn H
  | .datagram datagram => part.send datagram
  | .echo => match part.echo? with
    | some datagram => part.send datagram
    | none => (none, part)
  | .empty => (some (.reply (.ok {})), part)
  | .error status => (some (.reply (.error status)), { part with stage := after })
  | .finish => (some .endReplies, { part with stage := after })
  | .hold => (none, { part with stage := .holding })

def answer (part : EncoderPart H) : Turn H :=
  match part.script.refusal with
  | some status => (some (.answer (.error status)), { part with stage := .refused })
  | none => (some (.answer (.ok ())), { part with stage := .playing part.script.onOpen })

def take (part : EncoderPart H) (request : UploadRequest H) : Turn H :=
  let cues := part.script.repliesTo part.requests.length
  (some (.takeRequest request),
    { part with requests := part.requests ++ [request], stage := .playing cues })

/-- The encoder's next turn, if it has one in this state of the call. -/
def turn? (part : EncoderPart H) (call : Call H) : Option (Turn H) :=
  if !call.held then none
  else match part.stage with
    | .unanswered => some part.answer
    | .playing (cue :: rest) => some ({ part with stage := .playing rest }.play .ended cue)
    | .playing [] => match call.requests.place with
      | some request => some (part.take request)
      | none =>
        if call.isHalfClosed then some (none, { part with stage := .closing part.script.atEnd }) else none
    | .closing (cue :: rest) => some ({ part with stage := .closing rest }.play .closed cue)
    | .closing [] => some (some .endReplies, { part with stage := .closed })
    | .refused | .holding | .ended | .closed => none

end EncoderPart

end VideoRelay.Rehearsal
