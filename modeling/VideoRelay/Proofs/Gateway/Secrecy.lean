import VideoRelay.Proofs.Gateway.Masking
import VideoRelay.Proofs.Session.Answer

set_option autoImplicit false

namespace VideoRelay

open Wire

namespace Gateway

/-- A response that tells nothing of the server but that it had a fault. -/
def Discreet (response : Response) : Prop :=
  response.head.status < 500 \/ response = Refusal.internal.response

theorem Refusal.ofFault_discreet (fault : Fault) : Discreet (Refusal.ofFault fault).response := by
  cases fault with
  | presetNotFound preset => exact .inl (show 400 < 500 by decide)
  | invalidInput message => exact .inl (show 400 < 500 by decide)
  | _ => exact .inr rfl

theorem orRefusal_discreet {A : Type} {response : A -> Response}
    (served : forall value, (response value).head.status < 500) (result : Except Fault A) :
    Discreet (orRefusal response result) := by
  cases result with
  | ok value => exact .inl (served value)
  | error fault => exact Refusal.ofFault_discreet fault

theorem catalogResponse_status (catalog : List Preset) : (catalogResponse catalog).head.status < 500 :=
  show 200 < 500 by decide

theorem imageResponse_status (image : Bytes) : (imageResponse image).head.status < 500 := by
  unfold imageResponse
  split
  next => exact show 204 < 500 by decide
  next => exact show 200 < 500 by decide

namespace Plan

variable {query : Query} {response : Response}

theorem forVideo_answer {known : List String} {plan : String -> Plan} (others : forall id, plan id ≠ .answer response)
    (planned : forVideo query known plan = .answer response) : response.head.status < 500 := by
  unfold forVideo at planned
  split at planned
  next => cases planned; exact show 400 < 500 by decide
  next =>
    split at planned
    next => exact absurd planned (others _)
    next => cases planned; decide

theorem forGet_answer {resource : Resource} (planned : forGet query resource = .answer response) :
    response.head.status < 500 := by
  cases resource with
  | stream | thumbnail => exact forVideo_answer (by simp) planned
  | presets => cases planned
  | health => cases planned; decide

theorem forHead_answer {resource : Resource} (planned : forHead query resource = .answer response) :
    response.head.status < 500 := by
  cases resource with
  | stream => cases planned; decide
  | thumbnail => exact forVideo_answer (by simp) planned
  | presets => cases planned
  | health => cases planned; decide

end Plan

theorem Request.plan_answer {request : Request} {response : Response} (planned : request.plan = .answer response) :
    response.head.status < 500 := by
  cases found : Resource.ofPath? (Target.parse request.target).path with
  | none =>
    simp only [Request.plan, found] at planned
    cases planned
    decide
  | some resource =>
    simp only [Request.plan, found] at planned
    split at planned
    next => exact Plan.forGet_answer planned
    next =>
      split at planned
      next => exact Plan.forHead_answer planned
      next => cases resource <;> cases planned <;> decide

namespace Request

variable {request : Request}

def internalReply (request : Request) : Reply where
  response := {
    head := { status := 500, headers := { entries := [(contentType, plainText), (contentLength, "15")] } }
    body := if request.isHead then [] else [faultText] }

theorem seal_status (response : Response) : (request.seal response).head.status = response.head.status := by
  unfold Request.seal
  split <;> rfl

theorem seal_discreet {response : Response} (discreet : Discreet response)
    (server : 500 <= (request.seal response).head.status) :
    { response := request.seal response } = request.internalReply := by
  rcases discreet with client | rfl
  next => rw [seal_status] at server; omega
  next =>
    unfold Request.seal internalReply
    split <;> decide

theorem start_of_openStream {stream : StreamRequest} {services : Services} {session : Session}
    (opened : (stream.openStream services).2 = .ok session) :
    exists emitter : Emitter, emitter.Fresh /\ session = .start emitter := by
  rw [StreamRequest.openStream_result] at opened
  obtain ⟨_, -, opened⟩ := ok_of_bind opened
  obtain ⟨chosen, selected, opened⟩ := ok_of_bind opened
  have same : chosen = session := by
    cases storage : (services.openStorage stream.videoId).2 with
    | error fault => rw [storage] at opened; cases opened
    | ok _ => rw [storage] at opened; exact Except.ok.inj opened
  subst same
  unfold Services.selectSession at selected
  split at selected
  next => cases selected; exact ⟨_, .passthrough, rfl⟩
  next presetId _ =>
    dsimp only at selected
    cases found : services.presets.2.bind fun catalog => Preset.find catalog presetId with
    | error fault => rw [found] at selected; cases selected
    | ok preset => rw [found] at selected; cases selected; exact ⟨_, .transcoding preset, rfl⟩

theorem streamReply?_cases {emitter : Emitter} (fresh : emitter.Fresh) {turns : List Session.Turn}
    {played : Session.Played} {reply : Reply}
    (reached : follow Session.Played.take { session := .start emitter } turns = some played)
    (answered : request.streamReply? played = some reply) :
    reply.response.head.status = 200 \/ reply = { response := request.seal Refusal.internal.response } := by
  have run := Session.Played.run reached
  obtain ⟨-, outlet⟩ := Session.answered_of_run fresh run
  unfold streamReply? at answered
  split at answered
  next status text _ failed =>
    cases answered
    obtain ⟨rfl, rfl, -⟩ := outlet.failure status text failed
    exact .inr rfl
  next head _ headers received streamed =>
    cases answered
    -- The head that the client has got is the one of the stream.
    obtain ⟨decided, known, told⟩ := Session.heads_of_run fresh run head (by simp [received])
    cases streamed.symm.trans known
    exact .inl (told ▸ rfl)
  next => cases answered

theorem streamReply?_internal {emitter : Emitter} (fresh : emitter.Fresh) {turns : List Session.Turn}
    {played : Session.Played} {reply : Reply}
    (reached : follow Session.Played.take { session := .start emitter } turns = some played)
    (answered : request.streamReply? played = some reply) (server : 500 <= reply.response.head.status) :
    reply = request.internalReply := by
  rcases streamReply?_cases fresh reached answered with fine | rfl
  next => omega
  next => exact seal_discreet (.inr rfl) server

theorem serve_internal {spec : ImageSpec} {course : Course} {reply : Reply}
    (served : request.serve spec course = some reply) (server : 500 <= reply.response.head.status) :
    reply = request.internalReply := by
  unfold serve at served
  split at served
  next response planned =>
    cases served
    exact seal_discreet (.inl (plan_answer planned)) server
  next =>
    cases served
    exact seal_discreet (orRefusal_discreet catalogResponse_status _) server
  next videoId planned =>
    obtain ⟨bridge, _, returned⟩ := Option.bind_eq_some_iff.1 served
    obtain ⟨result, _, rfl⟩ := Option.map_eq_some_iff.1 returned
    exact seal_discreet (orRefusal_discreet imageResponse_status _) server
  next stream planned =>
    split at served
    next fault refused =>
      cases served
      exact seal_discreet (Refusal.ofFault_discreet fault) server
    next session opened =>
      obtain ⟨emitter, fresh, rfl⟩ := start_of_openStream opened
      obtain ⟨played, reached, answered⟩ := Option.bind_eq_some_iff.1 served
      exact streamReply?_internal fresh reached answered server

/-- A fault of the server is told in one way only, and what a service says of a fault is not told at all. Of a status
only a torn call can make a difference. -/
theorem faults_concealed (request : Request) (spec : ImageSpec) :
    (forall course reply, request.serve spec course = some reply -> 500 <= reply.response.head.status ->
      reply = request.internalReply) /\
      forall first second, first.masked = second.masked -> request.serve spec first = request.serve spec second :=
  ⟨fun _ _ => serve_internal, fun _ _ => request.serve_alike spec⟩

def willing : Services where
  dialStorage := .ok ()
  dialEncoder := .ok ()
  listPresets := .ok []
  getVideo := fun _ => .ok ()

def unread (status : Status) : Course where
  services := willing
  session := [.act (.deliver (.error status)), .act .forward, .read]

def lockedVault : Status where
  code := .permissionDenied
  message := "/srv/vault is locked"

def clipRequest : Request where
  method := "GET"
  target := "/stream?id=clip"

theorem clip_concealed : exists reply, clipRequest.serve {} (unread diskFailure) = some reply /\
    reply = clipRequest.internalReply /\
      clipRequest.serve {} (unread lockedVault) = some reply := by
  have served : clipRequest.serve {} (unread diskFailure) = some clipRequest.internalReply := by
    decide +kernel
  obtain ⟨told, same⟩ := faults_concealed clipRequest {}
  have alike := same (unread diskFailure) (unread lockedVault) rfl
  exact ⟨_, served, told _ _ served (by decide), alike.symm.trans served⟩

def presetsHead : Request where
  method := "HEAD"
  target := "/presets"

def encoderless : Course where
  services := { willing with dialEncoder := .error (.connectionFailure "connection refused") }

theorem head_without_body : ¬ forall (request : Request) (spec : ImageSpec) (course : Course) (reply : Reply),
    request.serve spec course = some reply -> 500 <= reply.response.head.status ->
      reply.response.head.status = 500 /\ reply.response.head.headers.get? contentType = some plainText /\
        reply.response.body = [faultText] := by
  intro literal
  obtain ⟨reply, served, server, unsent⟩ : exists reply, presetsHead.serve {} encoderless = some reply /\
      500 <= reply.response.head.status /\ reply.response.body = [] := ⟨_, rfl, by decide, rfl⟩
  obtain ⟨-, -, body⟩ := literal presetsHead {} encoderless reply served server
  rw [unsent] at body
  cases body

end Request

end Gateway

end VideoRelay
