import VideoRelay.Errand
import VideoRelay.Rehearsal.Streaming

set_option autoImplicit false

namespace VideoRelay.Rehearsal

open Wire

inductive Cancellation where
  | never
  | before
  | afterRequests (count : Nat)
  | after
deriving DecidableEq, Repr

inductive ThumbnailNote where
  | request (request : GenerateThumbnailRequest)
  | cancelled (state : BridgePhase)
deriving DecidableEq, Repr

structure ThumbnailCast where
  storage : StorageScript
  encoder : EncoderPart ThumbnailHeader
  cancelAfter : Option Nat := none
  cancelled : Option (Nat × BridgePhase) := none
  sent : Nat := 0

namespace ThumbnailCast

abbrev Move := Option Bridge.Action × ThumbnailCast

def own (cast : ThumbnailCast) : List Move :=
  [.foreground, .pump, .onCall .closeRequests].map fun action => (some action, cast)

def dials (cast : ThumbnailCast) : List Move := [
  (some (.dialedEncoder (dial cast.encoder.script.reachable)), cast),
  (some (.dialedStorage (dial cast.storage.reachable)), cast)]

def cancel (cast : ThumbnailCast) (bridge : Bridge) : List Move :=
  match cast.cancelAfter with
  | none => []
  | some count =>
    if cast.encoder.hasHandled count then
      [(some .cancel, { cast with cancelAfter := none, cancelled := some (count, bridge.state) })]
    else []

def mayAnswer (cast : ThumbnailCast) (errand : Errand) : Bool :=
  match cast.encoder.stage with
  | .unanswered => !errand.asked.isEmpty || errand.bridge.cancelled
  | _ => true

def encode (cast : ThumbnailCast) (errand : Errand) : List Move :=
  if !cast.mayAnswer errand then []
  else ((cast.encoder.turn? errand.bridge.call).map fun (action, encoder) =>
    (action.map Bridge.Action.onCall, { cast with encoder })).toList

def isSettled (cast : ThumbnailCast) : Bool :=
  cast.encoder.hasHandled cast.sent && cast.cancelAfter != some cast.sent

def store (cast : ThumbnailCast) : List Move :=
  if !cast.isSettled then []
  else
    let next : List Move := match cast.storage.events with
      | [] => [(some .endStream, cast)]
      | .stall :: _ => []
      | .message message :: events =>
        [(some (.deliver (message.bind receive)),
          { cast with storage := { cast.storage with events }, sent := cast.sent + 1 })]
    (some (.openedVideo (refused cast.storage.refusal)), cast) :: next

def moves (errand : Errand) (cast : ThumbnailCast) : List Move :=
  cast.own ++ cast.dials ++ cast.cancel errand.bridge ++ cast.encode errand ++ cast.store

def notes (cast : ThumbnailCast) : List ThumbnailNote :=
  let requests := cast.encoder.requests.map ThumbnailNote.request
  match cast.cancelled with
  | none => requests
  | some (place, state) => requests.take place ++ .cancelled state :: requests.drop place

end ThumbnailCast

def thumbnailPlay : Play Errand Bridge.Action ThumbnailCast :=
  { act := Errand.act, moves := ThumbnailCast.moves }

inductive ThumbnailView where
  | state (state : BridgePhase)
  | image (image : Bytes)
  | fault (fault : Fault)
  | silent
deriving DecidableEq, Repr

def ThumbnailView.ofResult? : Option (Except Fault Bytes) -> ThumbnailView
  | some (.ok bytes) => image bytes
  | some (.error cause) => fault cause
  | none => silent

def generate (fuel : Nat) (videoIds : List String) (errand : Errand) (cast : ThumbnailCast) :
    ThumbnailView × Errand × ThumbnailCast :=
  match errand.generate videoIds with
  | (some result, errand) => (.ofResult? (some result), errand, cast)
  | (none, errand) =>
    let (errand, cast) := thumbnailPlay.run fuel errand cast
    (.ofResult? errand.bridge.result?, errand, cast)

def generateAll (fuel : Nat) (videoIds : List String) :
    Nat -> Errand -> ThumbnailCast -> List ThumbnailView × Errand × ThumbnailCast
  | 0, errand, cast => ([], errand, cast)
  | calls + 1, errand, cast =>
    let (view, errand, cast) := generate fuel videoIds errand cast
    let (views, rest) := generateAll fuel videoIds calls errand cast
    (view :: .state errand.bridge.state :: views, rest)

def isPumpOver (bridge : Bridge) : Bool :=
  match bridge.pump with
  | .unstarted | .finished _ => true
  | _ => false

def thumbnail (spec : ImageSpec) (videoIds : List String) (calls : Nat) (cancellation : Cancellation)
    (peers : Peers) : List ThumbnailView × Record ThumbnailNote :=
  let cancelAfter := match cancellation with
    | .afterRequests count => some count
    | _ => none
  let bridge : Bridge := { spec }
  let bridge := if cancellation = .before then bridge.cancel else bridge
  let cast : ThumbnailCast :=
    { storage := peers.storage, encoder := { script := peers.encoder }, cancelAfter }
  let (views, errand, cast) := generateAll peers.fuel videoIds calls { bridge } cast
  let last := if cancellation = .after then [ThumbnailView.state errand.bridge.cancel.state] else []
  (.state .idle :: views ++ last,
    { videosAsked := errand.asked.map GetVideoRequest.videoId
      requests := cast.notes, callEnd := cast.encoder.callEnd?, released := isPumpOver errand.bridge })

end VideoRelay.Rehearsal
