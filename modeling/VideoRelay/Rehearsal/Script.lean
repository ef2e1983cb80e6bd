import VideoRelay.Opening
import VideoRelay.Wire.Limit

set_option autoImplicit false

namespace VideoRelay.Rehearsal

open Wire

inductive StorageEvent where
  | message (message : StorageMessage)
  | stall

structure StorageScript where
  reachable : Bool := false
  refusal : Option Status := none
  events : List StorageEvent := []

inductive Cue where
  | datagram (datagram : Datagram)
  | echo
  | empty
  | error (status : Status)
  | finish
  | hold

structure EncoderScript where
  reachable : Bool := false
  catalog : Except Status (List Preset) := .ok []
  refusal : Option Status := none
  onOpen : List Cue := []
  replies : List (List Cue) := []
  every : List Cue := []
  atEnd : List Cue := []

def EncoderScript.repliesTo (script : EncoderScript) (request : Nat) : List Cue :=
  script.replies.getD request script.every

structure Peers where
  storage : StorageScript := {}
  encoder : EncoderScript := {}

def dialFault : Fault :=
  .connectionFailure "the peer cannot be reached"

def dial (reachable : Bool) : Except Fault Unit :=
  if reachable then .ok () else .error dialFault

def refused (refusal : Option Status) : Except Status Unit :=
  match refusal with
  | some status => .error status
  | none => .ok ()

namespace Peers

def services (peers : Peers) : Services :=
  { dialStorage := dial peers.storage.reachable
    dialEncoder := dial peers.encoder.reachable
    listPresets := peers.encoder.catalog.bind fun presets =>
      (receive ({ presets } : ListPresetsResponse)).map fun _ => presets
    getVideo := fun _ => refused peers.storage.refusal }

/-- More steps than a rehearsal with these scripts takes: every event and every cue passes through the machine
once. -/
def fuel (peers : Peers) : Nat :=
  let encoder := peers.encoder
  let requests := peers.storage.events.length + 2
  let cues := encoder.onOpen.length + encoder.atEnd.length + encoder.replies.flatten.length +
    requests * encoder.every.length
  64 * (requests + cues + 4)

end Peers

end VideoRelay.Rehearsal
