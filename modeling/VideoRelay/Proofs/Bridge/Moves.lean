import VideoRelay.Bridge
import VideoRelay.Proofs.Channel

set_option autoImplicit false

namespace VideoRelay

open Wire

namespace Pump

def outcome? : Pump -> Option (Except Fault Unit)
  | finished outcome => some outcome
  | _ => none

def request? : Pump -> Option GenerateThumbnailRequest
  | sending request | waiting request => some request
  | _ => none

theorem started_of_isRunning {pump : Pump} (running : pump.isRunning = true) : pump ≠ .unstarted := by
  rintro rfl
  cases running

theorem unfinished_of_isRunning {pump : Pump} (running : pump.isRunning = true) : pump.outcome? = none := by
  cases pump with
  | finished => cases running
  | _ => rfl

theorem outcome?_eq_some_iff {pump : Pump} {outcome : Except Fault Unit} :
    pump.outcome? = some outcome <-> pump = .finished outcome := by
  cases pump <;> simp [outcome?]

theorem isRunning_of_request {pump : Pump} {request : GenerateThumbnailRequest}
    (offered : pump.request? = some request) : pump.isRunning = true := by
  cases pump with
  | sending | waiting => rfl
  | _ => cases offered

end Pump

namespace Bridge

def withReplies (bridge : Bridge) (items : List (Except Status DownloadResponse)) : Bridge :=
  { bridge with call := { bridge.call with replies := { bridge.call.replies with items } } }

def withFrames (bridge : Bridge) (items : List StorageMessage) : Bridge :=
  { bridge with frames := { bridge.frames with items } }

def pumping (bridge : Bridge) (pump : Pump) (requests : Channel GenerateThumbnailRequest) : Bridge :=
  { bridge with pump, call := { bridge.call with requests } }

inductive Step (bridge : Bridge) : Action -> Bridge -> Prop
  | abandon (working : bridge.foreground.isWorking = true) (failed : bridge.storageFailed = true) :
      Step bridge .foreground (bridge.leaveCall none)
  | accepted (calling : bridge.foreground = .calling) (unfailed : bridge.storageFailed = false)
      (answered : bridge.call.answer = some (.ok ())) :
      Step bridge .foreground { bridge with foreground := .collecting [] }
  | refused (status : Status) (calling : bridge.foreground = .calling) (unfailed : bridge.storageFailed = false)
      (answered : bridge.call.answer = some (.error status)) :
      Step bridge .foreground (bridge.leaveCall (some (.error (.streamTransport status))))
  | collect (image : Bytes) (frame : DownloadResponse) (rest : List (Except Status DownloadResponse))
      (collecting : bridge.foreground = .collecting image) (unfailed : bridge.storageFailed = false)
      (ready : bridge.call.replies.items = .ok frame :: rest) :
      Step bridge .foreground { bridge.withReplies rest with
        foreground := .collecting (image ++ (frame.datagram.map Datagram.payload).getD []) }
  | broken (image : Bytes) (status : Status) (rest : List (Except Status DownloadResponse))
      (collecting : bridge.foreground = .collecting image) (unfailed : bridge.storageFailed = false)
      (ready : bridge.call.replies.items = .error status :: rest) :
      Step bridge .foreground ((bridge.withReplies rest).leaveCall
        (some (if status.isTornDown then .ok image else .error (.streamTransport status))))
  | complete (image : Bytes) (collecting : bridge.foreground = .collecting image)
      (unfailed : bridge.storageFailed = false) (drained : bridge.call.replies.items = [])
      (through : bridge.call.replies.ended = true) : Step bridge .foreground (bridge.leaveCall (some (.ok image)))
  | settle (result : Option (Except Fault Bytes)) (byCaller : Bool) (pumped : Except Fault Unit)
      (joining : bridge.foreground = .joining result byCaller) (through : bridge.pump = .finished pumped) :
      Step bridge .foreground (bridge.finish (Bridge.settle result pumped) byCaller)
  | stop (running : bridge.pump.isRunning = true) (cancelled : bridge.cancelled = true) :
      Step bridge .pump (bridge.endPump (.ok ()))
  | translate (message : StorageMessage) (rest : List StorageMessage) (order : FrameGate)
      (request : GenerateThumbnailRequest) (reading : bridge.pump = .reading)
      (uncancelled : bridge.cancelled = false) (ready : bridge.frames.items = message :: rest)
      (translated : bridge.requestFor message = .ok (order, request)) :
      Step bridge .pump { bridge.withFrames rest with order, pump := .sending request }
  | offend (message : StorageMessage) (rest : List StorageMessage) (fault : Fault)
      (reading : bridge.pump = .reading) (uncancelled : bridge.cancelled = false)
      (ready : bridge.frames.items = message :: rest) (refused : bridge.requestFor message = .error fault) :
      Step bridge .pump ((bridge.withFrames rest).endPump (.error fault))
  | drain (reading : bridge.pump = .reading) (uncancelled : bridge.cancelled = false)
      (drained : bridge.frames.items = []) (through : bridge.frames.ended = true) :
      Step bridge .pump (bridge.endPump (.ok ()))
  | put (request : GenerateThumbnailRequest) (offered : bridge.pump.request? = some request)
      (uncancelled : bridge.cancelled = false) (unclosed : bridge.call.requests.receiving = true)
      (granted : bridge.call.requests.promised = some requestSender \/ bridge.call.requests.isFree = true) :
      Step bridge .pump
        (bridge.pumping .reading { bridge.call.requests with place := some request, promised := none })
  | queue (request : GenerateThumbnailRequest) (offered : bridge.pump.request? = some request)
      (uncancelled : bridge.cancelled = false) (unclosed : bridge.call.requests.receiving = true)
      (unpromised : bridge.call.requests.promised ≠ some requestSender)
      (full : bridge.call.requests.isFree = false) (fresh : requestSender ∉ bridge.call.requests.waiting) :
      Step bridge .pump (bridge.pumping (.waiting request)
        { bridge.call.requests with waiting := bridge.call.requests.waiting ++ [requestSender] })
  | unread (request : GenerateThumbnailRequest) (offered : bridge.pump.request? = some request)
      (uncancelled : bridge.cancelled = false) (closed : bridge.call.requests.receiving = false) :
      Step bridge .pump (bridge.endPump (.ok ()))
  | again (videoIds : List String) (used : bridge.state ≠ .idle) : Step bridge (.generate videoIds) bridge
  | needless (idle : bridge.state = .idle) :
      Step bridge (.generate []) { bridge with state := .completed, foreground := .returned (.ok []) }
  | begin (videoId : String) (others : List String) (idle : bridge.state = .idle) :
      Step bridge (.generate (videoId :: others)) { bridge with state := .streaming, foreground := .dialing }
  | cancel : Step bridge .cancel bridge.cancel
  | dialed (dialing : bridge.pump = .dialing) (uncancelled : bridge.cancelled = false) :
      Step bridge (.dialedStorage (.ok ())) { bridge with pump := .opening }
  | undialed (fault : Fault) (dialing : bridge.pump = .dialing) (uncancelled : bridge.cancelled = false) :
      Step bridge (.dialedStorage (.error fault)) (bridge.endPump (.error fault))
  | opened (opening : bridge.pump = .opening) (uncancelled : bridge.cancelled = false) :
      Step bridge (.openedVideo (.ok ())) { bridge with pump := .reading }
  | unopened (status : Status) (opening : bridge.pump = .opening) (uncancelled : bridge.cancelled = false) :
      Step bridge (.openedVideo (.error status)) (bridge.endPump (.error (.streamTransport status)))
  | deliver (message : StorageMessage) (reading : bridge.isReading = true) :
      Step bridge (.deliver message) { bridge with frames := bridge.frames.push message }
  | endStream (reading : bridge.isReading = true) :
      Step bridge .endStream { bridge with frames := bridge.frames.finish }
  | start (dialing : bridge.foreground = .dialing) :
      Step bridge (.dialedEncoder (.ok ())) { bridge with foreground := .calling, pump := .dialing }
  | unreachable (fault : Fault) (dialing : bridge.foreground = .dialing) :
      Step bridge (.dialedEncoder (.error fault)) (bridge.finish (.error fault) false)
  | onCall (action : CallAction ThumbnailHeader) (call : ThumbnailCall) (begun : bridge.callOpened = true)
      (acted : bridge.call.act action = some call) : Step bridge (.onCall action) { bridge with call }

theorem Step.pump {bridge next : Bridge} (step : bridge.Step .foreground next) : next.pump = bridge.pump := by
  cases step <;> rfl

theorem step_workForeground {bridge next : Bridge} (unfailed : bridge.storageFailed = false)
    (moved : bridge.workForeground = some next) : bridge.Step .foreground next := by
  unfold workForeground at moved
  split at moved
  next calling =>
    obtain ⟨answer, answered, same⟩ := Option.map_eq_some_iff.1 moved
    cases answer with
    | ok _ => cases same; exact .accepted calling unfailed answered
    | error status => cases same; exact .refused status calling unfailed answered
  next image collecting =>
    unfold Bridge.collect at moved
    cases ready : bridge.call.replies.items with
    | nil =>
      cases through : bridge.call.replies.ended with
      | false => simp [Source.next, ready, through] at moved
      | true =>
        simp only [Source.next, ready, through, ↓reduceIte] at moved
        cases moved
        exact .complete image collecting unfailed ready through
    | cons reply rest =>
      simp only [Source.next, ready] at moved
      cases reply with
      | error status => cases moved; exact .broken image status rest collecting unfailed ready
      | ok frame =>
        have step := Step.collect image frame rest collecting unfailed ready
        cases carried : frame.datagram <;> simp only [carried] at moved step <;> cases moved <;> exact step
  next => cases moved

theorem step_join {bridge next : Bridge} (moved : bridge.join = some next) : bridge.Step .foreground next := by
  unfold join at moved
  split at moved
  next result byCaller pumped joining through => cases moved; exact .settle result byCaller pumped joining through
  next => cases moved

theorem step_foreground {bridge next : Bridge} (moved : bridge.stepForeground = some next) :
    bridge.Step .foreground next := by
  unfold stepForeground at moved
  split at moved
  next working =>
    split at moved
    next failed => cases moved; exact .abandon working failed
    next unfailed => exact step_workForeground (eq_false_of_ne_true unfailed) moved
  next => exact step_join moved

theorem step_request {bridge next : Bridge} {request : GenerateThumbnailRequest}
    (offered : bridge.pump.request? = some request) (uncancelled : bridge.cancelled = false)
    (moved : bridge.offerRequest request = some next) : bridge.Step .pump next := by
  unfold offerRequest at moved
  split at moved
  next requests taken =>
    obtain ⟨unclosed, granted, rfl⟩ := Channel.offer_eq_taken_iff.1 taken
    cases moved
    exact .put request offered uncancelled unclosed granted
  next requests queued =>
    obtain ⟨unclosed, unpromised, full, fresh, rfl⟩ := Channel.offer_eq_queued_iff.1 queued
    cases moved
    exact .queue request offered uncancelled unclosed unpromised full fresh
  next closed =>
    cases moved
    exact .unread request offered uncancelled (Channel.offer_eq_closed_iff.1 closed)
  next => cases moved

theorem step_workPump {bridge next : Bridge} (uncancelled : bridge.cancelled = false)
    (moved : bridge.workPump = some next) : bridge.Step .pump next := by
  unfold workPump at moved
  split at moved
  next reading =>
    cases ready : bridge.frames.items with
    | nil =>
      cases through : bridge.frames.ended with
      | false => simp [Source.next, ready, through] at moved
      | true =>
        simp only [Source.next, ready, through, ↓reduceIte] at moved
        cases moved
        exact .drain reading uncancelled ready through
    | cons message rest =>
      simp only [Source.next, ready] at moved
      split at moved
      next order request translated =>
        cases moved
        exact .translate message rest order request reading uncancelled ready translated
      next fault refused =>
        cases moved
        exact .offend message rest fault reading uncancelled ready refused
  next request sending => exact step_request (by simp [sending, Pump.request?]) uncancelled moved
  next request waiting => exact step_request (by simp [waiting, Pump.request?]) uncancelled moved
  next => cases moved

theorem step_pump {bridge next : Bridge} (moved : bridge.stepPump = some next) : bridge.Step .pump next := by
  unfold stepPump at moved
  split at moved
  next running =>
    split at moved
    next cancelled => cases moved; exact .stop running cancelled
    next uncancelled => exact step_workPump (eq_false_of_ne_true uncancelled) moved
  next => cases moved

theorem step_reachStorage {bridge next : Bridge} {dialed : Except Fault Unit} (uncancelled : bridge.cancelled = false)
    (moved : bridge.reachStorage dialed = some next) : bridge.Step (.dialedStorage dialed) next := by
  unfold reachStorage at moved
  split at moved
  next dialing =>
    cases dialed with
    | ok _ => cases moved; exact .dialed dialing uncancelled
    | error fault => cases moved; exact .undialed fault dialing uncancelled
  next => cases moved

theorem step_openVideo {bridge next : Bridge} {opened : Except Status Unit} (uncancelled : bridge.cancelled = false)
    (moved : bridge.openVideo opened = some next) : bridge.Step (.openedVideo opened) next := by
  unfold openVideo at moved
  split at moved
  next opening =>
    cases opened with
    | ok _ => cases moved; exact .opened opening uncancelled
    | error status => cases moved; exact .unopened status opening uncancelled
  next => cases moved

section

variable {bridge : Bridge}

theorem act_abandon (working : bridge.foreground.isWorking = true) (failed : bridge.storageFailed = true) :
    bridge.act .foreground = some (bridge.leaveCall none) := by
  simp [act, stepForeground, working, failed]

theorem act_workForeground (working : bridge.foreground.isWorking = true) (unfailed : bridge.storageFailed = false) :
    bridge.act .foreground = bridge.workForeground := by
  simp [act, stepForeground, working, unfailed]

theorem act_settle {result : Option (Except Fault Bytes)} {byCaller : Bool} {pumped : Except Fault Unit}
    (joining : bridge.foreground = .joining result byCaller) (through : bridge.pump = .finished pumped) :
    bridge.act .foreground = some (bridge.finish (settle result pumped) byCaller) := by
  simp [act, stepForeground, join, joining, through, Foreground.isWorking]

theorem act_stop (running : bridge.pump.isRunning = true) (cancelled : bridge.cancelled = true) :
    bridge.act .pump = some (bridge.endPump (.ok ())) := by
  simp [act, stepPump, running, cancelled]

theorem act_workPump (running : bridge.pump.isRunning = true) (uncancelled : bridge.cancelled = false) :
    bridge.act .pump = bridge.workPump := by
  simp [act, stepPump, running, uncancelled]

end

theorem step_of_act {bridge next : Bridge} {action : Action} (moved : bridge.act action = some next) :
    bridge.Step action next := by
  cases action with
  | foreground => exact step_foreground moved
  | pump => exact step_pump moved
  | generate videoIds =>
    cases moved
    by_cases idle : bridge.state = .idle
    next =>
      cases videoIds with
      | nil =>
        have step := Step.needless idle
        simpa [generate, idle] using step
      | cons videoId others =>
        have step := Step.begin videoId others idle
        simpa [generate, idle] using step
    next =>
      have step := Step.again videoIds idle
      simpa [generate, idle] using step
  | cancel => cases moved; exact .cancel
  | dialedStorage dialed =>
    simp only [act, Bridge.dialedStorage] at moved
    split at moved
    next => cases moved
    next uncancelled => exact step_reachStorage (eq_false_of_ne_true uncancelled) moved
  | openedVideo opened =>
    simp only [act, Bridge.openedVideo] at moved
    split at moved
    next => cases moved
    next uncancelled => exact step_openVideo (eq_false_of_ne_true uncancelled) moved
  | deliver message =>
    simp only [act] at moved
    split at moved
    next reading => cases moved; exact .deliver message reading
    next => cases moved
  | endStream =>
    simp only [act] at moved
    split at moved
    next reading => cases moved; exact .endStream reading
    next => cases moved
  | dialedEncoder dialed =>
    simp only [act, Bridge.dialedEncoder] at moved
    split at moved
    next dialing =>
      cases dialed with
      | ok _ => cases moved; exact .start dialing
      | error fault => cases moved; exact .unreachable fault dialing
    next => cases moved
  | onCall action =>
    simp only [act] at moved
    split at moved
    next begun =>
      obtain ⟨call, acted, rfl⟩ := Option.map_eq_some_iff.1 moved
      exact .onCall action call begun acted
    next => cases moved

end Bridge

end VideoRelay
