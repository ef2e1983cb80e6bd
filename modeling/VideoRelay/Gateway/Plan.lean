import VideoRelay.Gateway.Refusal
import VideoRelay.Gateway.Target
import VideoRelay.StreamRequest

set_option autoImplicit false

namespace VideoRelay.Gateway

structure Request where
  method : String
  target : String
deriving DecidableEq, Repr

inductive Resource where
  | stream | thumbnail | presets | health
deriving DecidableEq, Repr

def Resource.ofPath? : String -> Option Resource
  | "/stream" => some stream
  | "/thumbnail" => some thumbnail
  | "/presets" => some presets
  | "/health" => some health
  | _ => none

inductive Plan where
  | answer (response : Response)
  | stream (request : StreamRequest)
  | thumbnail (videoId : String)
  | presets
deriving DecidableEq, Repr

def allowed : String := "GET,HEAD"

def withAllowed (response : Response) : Response :=
  { response with head := { response.head with
      headers := response.head.headers.insert "allow" allowed } }

def methodNotAllowed : Response :=
  withAllowed { head := { status := 405 } }

def healthy : Response :=
  .plain 200 "OK"

def repeatedField (name : String) : Response :=
  .plain 400 ("Failed to deserialize query string: duplicate field \x60" ++ name ++ "\x60")

namespace Plan

def idField : String := "id"

def presetField : String := "preset"

def forVideo (query : Query) (known : List String) (plan : String -> Plan) : Plan :=
  match query.repeated? known with
  | some name => .answer (repeatedField name)
  | none => match (query.lookup idField).filter fun id => !id.isEmpty with
    | some id => plan id
    | none => .answer Refusal.missingId.response

def forGet (query : Query) : Resource -> Plan
  | .stream => forVideo query [idField, presetField] fun id =>
    .stream (.make id (query.lookup presetField))
  | .thumbnail => forVideo query [idField] .thumbnail
  | .presets => .presets
  | .health => .answer healthy

/-- A stream has no head without its body. -/
def forHead (query : Query) : Resource -> Plan
  | .stream => .answer Refusal.notFound.response
  | resource => forGet query resource

def forOther : Resource -> Plan
  | .stream => .answer (withAllowed Refusal.notFound.response)
  | _ => .answer methodNotAllowed

end Plan

namespace Request

def isHead (request : Request) : Bool :=
  request.method = "HEAD"

def plan (request : Request) : Plan :=
  let target := Target.parse request.target
  match Resource.ofPath? target.path with
  | none => .answer Refusal.notFound.response
  | some resource =>
    if request.method = "GET" then .forGet target.query resource
    else if request.isHead then .forHead target.query resource
    else .forOther resource

end Request

end VideoRelay.Gateway
