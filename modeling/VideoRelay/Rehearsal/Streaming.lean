import VideoRelay.Rehearsal.EncoderPart
import VideoRelay.Rehearsal.Play

set_option autoImplicit false

namespace VideoRelay.Rehearsal

open Wire

inductive Departure where
  | never
  | beforeHead
  | afterFrames (count : Nat)
deriving DecidableEq, Repr

structure RelayCast where
  events : List StorageEvent
  encoder : EncoderPart EncodeHeader
  departure : Departure
  sent : Nat := 0
  head : Option ResponseHead := none
  frames : List Bytes := []
  relayed : Bool := false

namespace RelayCast

abbrev Move := Option Session.Action × RelayCast

def wantsToLeave (cast : RelayCast) : Bool :=
  match cast.departure with
  | .never => false
  | .beforeHead => true
  | .afterFrames count => cast.head.isSome && count <= cast.frames.length

/-- The client reads without delay until it goes away. -/
def client (cast : RelayCast) (session : Session) : List Move :=
  if cast.wantsToLeave then [(some .disconnect, cast)]
  else match session.reader.receiveHead session.sink with
    | some (head, reader, _) =>
      [(some (.receiveHead head), { cast with head := some head, relayed := reader == .body })]
    | none => match session.reader.read session.sink with
      | some (.frame frame _ _) =>
        [(some (.takeFrame frame), { cast with frames := cast.frames ++ [frame] })]
      | _ => []

def own (cast : RelayCast) : List Move :=
  [.forward, .emit, .feed, .fetch, .abort, .join, .leave].map fun action => (some action, cast)

def encode (cast : RelayCast) (session : Session) : List Move :=
  match session.call? with
  | none => []
  | some call =>
    let turn := (cast.encoder.turn? call).map fun (action, encoder) =>
      (action.map Session.Action.onCall, { cast with encoder })
    (some (.onCall .closeRequests), cast) :: turn.toList

def requestsDue (cast : RelayCast) : Nat :=
  if cast.sent = 0 then 0 else cast.sent + 1

def isSettled (cast : RelayCast) (session : Session) : Bool :=
  match session.call? with
  | none => cast.frames.length = cast.sent
  | some _ =>
    cast.encoder.hasHandled cast.requestsDue && cast.frames.length = cast.encoder.sent

def datagrams : StorageMessage -> Nat
  | .ok (.datagram _) => 1
  | _ => 0

def store (cast : RelayCast) (session : Session) : List Move :=
  if !cast.isSettled session then []
  else match cast.events with
    | [] => [(some .endStream, cast)]
    | .stall :: _ => []
    | .message message :: events =>
      let received := message.bind receive
      [(some (.deliver received), { cast with events, sent := cast.sent + datagrams received })]

def moves (session : Session) (cast : RelayCast) : List Move :=
  cast.client session ++ cast.own ++ cast.encode session ++ cast.store session

end RelayCast

def relayPlay : Play Session Session.Action RelayCast :=
  { act := Session.act, moves := RelayCast.moves }

inductive RelayResult where
  | fault (fault : Fault)
  | droppedBeforeHead
  | response (response : Response) (relayed : Bool)
  | silent

structure Record (R : Type) where
  videosAsked : List String := []
  catalogsAsked : Nat := 0
  requests : List R := []
  callEnd : Option CallEnd := none
  released : Bool := true

def Record.ofContacts (R : Type) (contacts : List Contact) : Record R :=
  { videosAsked := contacts.filterMap fun contact => match contact with
      | .getVideo videoId => some videoId
      | _ => none
    catalogsAsked := contacts.count .listPresets }

namespace RelayCast

def result (cast : RelayCast) : RelayResult :=
  match cast.departure, cast.head with
  | .beforeHead, _ => .droppedBeforeHead
  | _, some head => .response { head, body := cast.frames } cast.relayed
  | _, none => .silent

end RelayCast

def relay (request : StreamRequest) (peers : Peers) (departure : Departure) :
    RelayResult × Record EncodeVideoRequest :=
  let (contacts, opened) := request.openStream peers.services
  let asked := Record.ofContacts EncodeVideoRequest contacts
  match opened with
  | .error fault => (.fault fault, asked)
  | .ok session =>
    let cast : RelayCast :=
      { events := peers.storage.events, encoder := { script := peers.encoder }, departure }
    let (session, cast) := relayPlay.run peers.fuel session cast
    (cast.result, { asked with
      requests := cast.encoder.requests, callEnd := cast.encoder.callEnd?, released := session.isOver })

end VideoRelay.Rehearsal
