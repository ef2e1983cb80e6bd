import VideoRelay.Bridge
import VideoRelay.Gateway.Answer
import VideoRelay.Opening
import VideoRelay.Proofs.Except
import VideoRelay.Proofs.Session.History

set_option autoImplicit false

namespace VideoRelay

open Wire

namespace Session

def reading? (session : Session) : Option Action :=
  match session.reader.receiveHead session.sink with
  | some (head, _) => some (.receiveHead head)
  | none => match session.reader.read session.sink with
    | some (.frame frame _ _) => some (.takeFrame frame)
    | _ => none

def isReadUp (session : Session) : Bool :=
  match session.reader.read session.sink with
  | some .finished => true
  | _ => false

inductive Turn where
  | act (action : Action)
  | read

def Turn.action? (session : Session) : Turn -> Option Action
  | act action => some action
  | read => session.reading?

structure Played where
  session : Session
  actions : List Action := []

namespace Played

def take (played : Played) (turn : Turn) : Option Played :=
  (turn.action? played.session).bind fun action => (played.session.act action).map fun session =>
    { session, actions := played.actions ++ [action] }

theorem run {initial : Session} {turns : List Turn} {last : Played}
    (reached : follow take { session := initial } turns = some last) : Run initial last.actions last.session := by
  refine follow_keeps (fun _ played => Run initial played.actions played.session) (.done initial) ?_ reached
  intro done played turn next _ run taken
  obtain ⟨action, _, moved⟩ := Option.bind_eq_some_iff.1 taken
  obtain ⟨session, possible, same⟩ := Option.map_eq_some_iff.1 moved
  cases same
  exact run.append (.act possible (.done session))

theorem follows {initial last : Session} {actions : List Action} (run : Run initial actions last) :
    follow take { session := initial } (actions.map .act) = some { session := last, actions } := by
  have further (done : List Action) : follow take { session := initial, actions := done } (actions.map .act) =
      some { session := last, actions := done ++ actions } := by
    induction run generalizing done with
    | done => simp [follow]
    | act possible _ ih => simp [follow, take, Turn.action?, possible, ih]
  exact further []

end Played

end Session

theorem StreamRequest.openStream_result (stream : StreamRequest) (services : Services) :
    (stream.openStream services).2 = stream.check.bind fun _ =>
      (services.selectSession stream.presetId).2.bind fun session =>
        (services.openStorage stream.videoId).2.map fun _ => session := by
  unfold openStream
  cases stream.check with
  | error fault => rfl
  | ok _ =>
    obtain ⟨contacts, chosen⟩ := services.selectSession stream.presetId
    cases chosen <;> rfl

namespace Gateway

structure Course where
  services : Services
  session : List Session.Turn := []
  bridge : List Bridge.Action := []

structure Reply where
  response : Response
  isWhole : Bool := true
deriving DecidableEq

namespace Request

variable (request : Request)

/-- There is no answer before the client has received a head. A failure has its text as a body, and so its length; a
stream comes frame by frame. -/
def streamReply? (played : Session.Played) : Option Reply :=
  match Session.headsReceived played.actions, played.session.sink.head with
  | _ :: _, some (.failed status text) => some { response := request.seal (.plain status text) }
  | head :: _, some (.stream _) => some {
      response := { head, body := Session.framesTaken played.actions }
      isWhole := played.session.isReadUp }
  | _, _ => none

/-- What the client is answered, unless the schedule is impossible or does not come to an answer. -/
def serve (spec : ImageSpec) (course : Course) : Option Reply :=
  match request.plan with
  | .answer response => some { response := request.seal response }
  | .presets => some { response := request.seal (orRefusal catalogResponse course.services.presets.2) }
  | .thumbnail videoId =>
    (follow Bridge.act { spec } (.generate [videoId] :: course.bridge)).bind fun bridge =>
      bridge.result?.map fun result => { response := request.seal (orRefusal imageResponse result) }
  | .stream stream =>
    match (stream.openStream course.services).2 with
    | .error fault => some { response := request.seal (Refusal.ofFault fault).response }
    | .ok session => (follow Session.Played.take { session } course.session).bind request.streamReply?

end Request

end Gateway

end VideoRelay
