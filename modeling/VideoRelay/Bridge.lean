import VideoRelay.Call
import VideoRelay.Session.Pipeline
import VideoRelay.Upload

/-!
Thumbnail bridges. A storage task pumps the frames of a stored video into the requests of one thumbnail call,
while the foreground collects the image. A bridge serves one call of `generate`; its token, raised by the caller
or by the bridge itself, stops the storage task at any point.
-/

set_option autoImplicit false

namespace VideoRelay

open Wire

inductive BridgePhase where
  | idle | streaming | completed | failed | cancelled
deriving DecidableEq, Repr

def BridgePhase.name : BridgePhase -> String
  | idle => "Idle"
  | streaming => "Streaming"
  | completed => "Completed"
  | failed => "Failed"
  | cancelled => "Cancelled"

abbrev ThumbnailCall := Call ThumbnailHeader

inductive Foreground where
  | unused
  | dialing
  | calling
  | collecting (image : Bytes)
  /-- The call is dropped and the token raised; the storage task has to end. There is no result if the storage
  read failed first. -/
  | joining (result : Option (Except Fault Bytes)) (byCaller : Bool)
  | returned (result : Except Fault Bytes)

def Foreground.isWorking : Foreground -> Bool
  | calling | collecting _ => true
  | unused | dialing | joining _ _ | returned _ => false

inductive Pump where
  | unstarted
  | dialing
  | opening
  | reading
  | sending (request : GenerateThumbnailRequest)
  | waiting (request : GenerateThumbnailRequest)
  | finished (outcome : Except Fault Unit)

def Pump.isRunning : Pump -> Bool
  | unstarted | finished _ => false
  | dialing | opening | reading | sending _ | waiting _ => true

structure Bridge where
  spec : ImageSpec := {}
  state : BridgePhase := .idle
  cancelled : Bool := false
  /-- Raised by the storage task before its end of the request channel goes. -/
  storageFailed : Bool := false
  foreground : Foreground := .unused
  pump : Pump := .unstarted
  order : FrameGate := {}
  frames : Source StorageMessage := {}
  call : ThumbnailCall := {}

namespace Bridge

def requestSender : Nat := 0

def alreadyUsed (state : BridgePhase) : Fault :=
  .internal ("thumbnail bridge already used (state " ++ state.name ++ ")")

def stoppedWithoutResult : Fault :=
  .internal "thumbnail storage read stopped without a result"

/-- A call for the first of some candidates. Nothing is returned yet while the bridge runs. -/
def generate (bridge : Bridge) (videoIds : List String) : Option (Except Fault Bytes) × Bridge :=
  if bridge.state ≠ .idle then (some (.error (alreadyUsed bridge.state)), bridge)
  else if videoIds.isEmpty then
    (some (.ok []), { bridge with state := .completed, foreground := .returned (.ok []) })
  else (none, { bridge with state := .streaming, foreground := .dialing })

def result? (bridge : Bridge) : Option (Except Fault Bytes) :=
  match bridge.foreground with
  | .returned result => some result
  | _ => none

def cancel (bridge : Bridge) : Bridge :=
  { bridge with cancelled := true }

/-- The foreground drops the call and raises the token. -/
def leaveCall (bridge : Bridge) (result : Option (Except Fault Bytes)) : Bridge :=
  { bridge with
    foreground := .joining result bridge.cancelled, cancelled := true
    call := { bridge.call with held := false } }

def finish (bridge : Bridge) (result : Except Fault Bytes) (byCaller : Bool) : Bridge :=
  let state := match result with
    | .ok _ => if byCaller then .cancelled else .completed
    | .error _ => .failed
  { bridge with state, foreground := .returned result }

/-- The foreground's own fault goes before the storage task's. -/
def settle (result : Option (Except Fault Bytes)) (pumped : Except Fault Unit) : Except Fault Bytes :=
  match result, pumped with
  | some (.error fault), _ => .error fault
  | _, .error fault => .error fault
  | some (.ok image), .ok _ => .ok image
  | none, .ok _ => .error stoppedWithoutResult

def dialedEncoder (bridge : Bridge) (dialed : Except Fault Unit) : Option Bridge :=
  match bridge.foreground with
  | .dialing => match dialed with
    | .ok _ => some { bridge with foreground := .calling, pump := .dialing }
    | .error fault => some (bridge.finish (.error fault) false)
  | _ => none

def collect (bridge : Bridge) (image : Bytes) : Option Bridge :=
  match bridge.call.replies.next with
  | .item reply replies =>
    let bridge := { bridge with call := { bridge.call with replies } }
    match reply with
    | .ok frame =>
      let payload := match frame.datagram with
        | some datagram => datagram.payload
        | none => []
      some { bridge with foreground := .collecting (image ++ payload) }
    | .error status =>
      some (bridge.leaveCall (some (if status.isTornDown then .ok image
        else .error (.streamTransport status))))
  | .finished => some (bridge.leaveCall (some (.ok image)))
  | .nothing => none

def workForeground (bridge : Bridge) : Option Bridge :=
  match bridge.foreground with
  | .calling => bridge.call.answer.map fun answer =>
    match answer with
    | .ok _ => { bridge with foreground := .collecting [] }
    | .error status => bridge.leaveCall (some (.error (.streamTransport status)))
  | .collecting image => bridge.collect image
  | _ => none

def join (bridge : Bridge) : Option Bridge :=
  match bridge.foreground, bridge.pump with
  | .joining result byCaller, .finished pumped => some (bridge.finish (settle result pumped) byCaller)
  | _, _ => none

/-- The next step of the foreground. Before each one it looks whether the storage read has failed. -/
def stepForeground (bridge : Bridge) : Option Bridge :=
  if bridge.foreground.isWorking then
    if bridge.storageFailed then some (bridge.leaveCall none) else bridge.workForeground
  else bridge.join

/-- The storage task ends: a failure is announced first, then its end of the request channel goes. -/
def endPump (bridge : Bridge) (outcome : Except Fault Unit) : Bridge :=
  let failed := match outcome with
    | .ok _ => false
    | .error _ => true
  { bridge with
    pump := .finished outcome, storageFailed := bridge.storageFailed || failed
    frames := { bridge.frames with items := [] }
    call := { bridge.call with requests := bridge.call.requests.dropSender } }

def requestFor (bridge : Bridge) (message : StorageMessage) :
    Except Fault (FrameGate × GenerateThumbnailRequest) := do
  let response <- message.mapError .streamTransport
  let frame <- response.frame.mapError .ofViolation
  let order <- (bridge.order.accept frame).mapError .ofViolation
  return (order, bridge.spec.request frame)

def offerRequest (bridge : Bridge) (request : GenerateThumbnailRequest) : Option Bridge :=
  match bridge.call.requests.offer requestSender request with
  | .taken requests => some { bridge with pump := .reading, call := { bridge.call with requests } }
  | .queued requests =>
    some { bridge with pump := .waiting request, call := { bridge.call with requests } }
  | .closed => some (bridge.endPump (.ok ()))
  | .blocked => none

def workPump (bridge : Bridge) : Option Bridge :=
  match bridge.pump with
  | .reading =>
    match bridge.frames.next with
    | .item message frames =>
      let bridge := { bridge with frames }
      match bridge.requestFor message with
      | .ok (order, request) => some { bridge with order, pump := .sending request }
      | .error fault => some (bridge.endPump (.error fault))
    | .finished => some (bridge.endPump (.ok ()))
    | .nothing => none
  | .sending request | .waiting request => bridge.offerRequest request
  | _ => none

/-- The next step of the storage task. Before each one it looks at the token. -/
def stepPump (bridge : Bridge) : Option Bridge :=
  if bridge.pump.isRunning then
    if bridge.cancelled then some (bridge.endPump (.ok ())) else bridge.workPump
  else none

def reachStorage (bridge : Bridge) (dialed : Except Fault Unit) : Option Bridge :=
  match bridge.pump with
  | .dialing => match dialed with
    | .ok _ => some { bridge with pump := .opening }
    | .error fault => some (bridge.endPump (.error fault))
  | _ => none

def dialedStorage (bridge : Bridge) (dialed : Except Fault Unit) : Option Bridge :=
  if bridge.cancelled then none else bridge.reachStorage dialed

def openVideo (bridge : Bridge) (opened : Except Status Unit) : Option Bridge :=
  match bridge.pump with
  | .opening => match opened with
    | .ok _ => some { bridge with pump := .reading }
    | .error status => some (bridge.endPump (.error (.streamTransport status)))
  | _ => none

def openedVideo (bridge : Bridge) (opened : Except Status Unit) : Option Bridge :=
  if bridge.cancelled then none else bridge.openVideo opened

def isReading (bridge : Bridge) : Bool :=
  match bridge.pump with
  | .reading | .sending _ | .waiting _ => !bridge.frames.ended
  | _ => false

inductive Action where
  | foreground | pump
  | generate (videoIds : List String)
  | cancel
  | dialedStorage (dialed : Except Fault Unit)
  | openedVideo (opened : Except Status Unit)
  | deliver (message : StorageMessage)
  | endStream
  | dialedEncoder (dialed : Except Fault Unit)
  | onCall (action : CallAction ThumbnailHeader)

def callOpened (bridge : Bridge) : Bool :=
  match bridge.pump with
  | .unstarted => false
  | _ => true

def act (bridge : Bridge) : Action -> Option Bridge
  | .foreground => bridge.stepForeground
  | .pump => bridge.stepPump
  | .generate videoIds => some (bridge.generate videoIds).2
  | .cancel => some bridge.cancel
  | .dialedStorage dialed => bridge.dialedStorage dialed
  | .openedVideo opened => bridge.openedVideo opened
  | .deliver message =>
    if bridge.isReading then some { bridge with frames := bridge.frames.push message } else none
  | .endStream =>
    if bridge.isReading then some { bridge with frames := bridge.frames.finish } else none
  | .dialedEncoder dialed => bridge.dialedEncoder dialed
  | .onCall action =>
    if bridge.callOpened then (bridge.call.act action).map fun call => { bridge with call } else none

inductive Run : Bridge -> List Action -> Bridge -> Prop
  | done (bridge : Bridge) : Run bridge [] bridge
  | act {first next last : Bridge} {action : Action} {rest : List Action}
      (possible : first.act action = some next) (run : Run next rest last) :
      Run first (action :: rest) last

end Bridge

end VideoRelay
