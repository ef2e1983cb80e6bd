import VideoRelay.Proofs.Framing
import VideoRelay.Proofs.Run
import VideoRelay.Proofs.Session.Moves

set_option autoImplicit false

namespace VideoRelay

namespace Session

def delivered (actions : List Action) : List StorageMessage :=
  actions.filterMap fun action => match action with
    | .deliver message => some message
    | _ => none

def headsReceived (actions : List Action) : List ResponseHead :=
  actions.filterMap fun action => match action with
    | .receiveHead head => some head
    | _ => none

def framesTaken (actions : List Action) : List Bytes :=
  actions.filterMap fun action => match action with
    | .takeFrame frame => some frame
    | _ => none

def replied (actions : List Action) : List (Except Status Wire.EncodeVideoResponse) :=
  actions.filterMap fun action => match action with
    | .onCall (.reply reply) => some reply
    | _ => none

theorem delivered_append (before after : List Action) :
    delivered (before ++ after) = delivered before ++ delivered after :=
  List.filterMap_append

theorem headsReceived_append (before after : List Action) :
    headsReceived (before ++ after) = headsReceived before ++ headsReceived after :=
  List.filterMap_append

theorem framesTaken_append (before after : List Action) :
    framesTaken (before ++ after) = framesTaken before ++ framesTaken after :=
  List.filterMap_append

theorem replied_append (before after : List Action) :
    replied (before ++ after) = replied before ++ replied after :=
  List.filterMap_append

/-- Storage acts as a stream of these messages, which ends only after the last of them. -/
structure Follows (actions : List Action) (stream : List StorageMessage) : Prop where
  messages : delivered actions <+: stream
  complete : .endStream ∈ actions -> delivered actions = stream

def smallPreset : Preset where
  id := "small"

def chunkArrival (before after : Session) : List Bytes :=
  before.pipeline.chunks.arrival after.pipeline.chunks

def bodyArrival (before after : Session) : List Bytes :=
  before.sink.body.arrival after.sink.body

def requestArrival (before after : Session) : List Wire.EncodeVideoRequest :=
  match before.call?, after.call? with
  | some before, some after => before.requests.arrival after.requests
  | _, _ => []

/-- The chunks that were put on the chunk channel. -/
def chunksForwarded : Session -> List Action -> List Bytes :=
  trace act chunkArrival

/-- The chunks that were put into the body slot. -/
def chunksWritten : Session -> List Action -> List Bytes :=
  trace act bodyArrival

def requestsSent : Session -> List Action -> List Wire.EncodeVideoRequest :=
  trace act requestArrival

theorem Run.reached {first last : Session} {actions : List Action} (run : Run first actions last) :
    follow Session.act first actions = some last := by
  induction run with
  | done => rfl
  | act possible _ ih => simp only [follow, possible, Option.bind_some, ih]

theorem run_of_follow {first last : Session} {actions : List Action}
    (reached : follow act first actions = some last) : Run first actions last := by
  induction actions generalizing first with
  | nil => cases reached; exact .done _
  | cons action rest ih =>
    obtain ⟨next, possible, later⟩ := Option.bind_eq_some_iff.1 reached
    exact .act possible (ih later)

theorem Run.keeps {initial last : Session} {actions : List Action}
    (holds : List Action -> Session -> Prop) (start : holds [] initial)
    (kept : forall actions session action next, Run initial actions session -> holds actions session ->
      session.act action = some next -> holds (actions ++ [action]) next)
    (run : Run initial actions last) : holds actions last :=
  follow_keeps holds start (fun done middle action next reached held possible =>
    kept done middle action next (run_of_follow reached) held possible) run.reached

end Session

end VideoRelay
