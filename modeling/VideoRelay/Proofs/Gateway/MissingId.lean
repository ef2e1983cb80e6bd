import VideoRelay.Proofs.Gateway.Secrecy

set_option autoImplicit false

namespace VideoRelay

namespace Gateway

def Query.IsNameless (query : Query) : Prop :=
  forall id, query.lookup Plan.idField = some id -> id = ""

namespace Plan

variable {query : Query} {known : List String} {plan : String -> Plan} {id : String}

theorem forVideo_nameless (readable : query.repeated? known = none) (nameless : query.IsNameless) :
    forVideo query known plan = .answer Refusal.missingId.response := by
  have unnamed : (query.lookup idField).filter (fun id => !id.isEmpty) = none := by
    refine Option.filter_eq_none_iff.2 fun id named => ?_
    rw [nameless id named]
    decide
  simp only [forVideo, readable, unnamed]

theorem forVideo_named (readable : query.repeated? known = none) (named : query.lookup idField = some id)
    (nonempty : id ≠ "") : forVideo query known plan = plan id := by
  have filtered : (query.lookup idField).filter (fun id => !id.isEmpty) = some id := by
    rw [named, Option.filter_some_pos]
    simpa using nonempty
  simp only [forVideo, readable, filtered]

def firstContact? (services : Services) : Plan -> Option Contact
  | .answer _ => none
  | .stream wanted => (wanted.openStream services).1.head?
  | .thumbnail videoId => match (Bridge.generate {} [videoId]).2.foreground with
    | .dialing => some .dialEncoder
    | _ => none
  | .presets => services.presets.1.head?

end Plan

end Gateway

namespace StreamRequest

theorem openStream_blank (stream : StreamRequest) (blank : Text.isBlank stream.videoId = true) (services : Services) :
    stream.openStream services = ([], .error (.invalidInput "video id is required")) := by
  simp only [openStream, check, if_pos blank]

theorem openStream_contacts {stream : StreamRequest} (services : Services)
    (named : stream.check = .ok ()) : (stream.openStream services).1 ≠ [] := by
  have dials : (services.openStorage stream.videoId).1 ≠ [] := by
    unfold Services.openStorage
    split <;> simp
  have asks (presetId : String) : (services.selectSession (some presetId)).1 ≠ [] := by
    show services.presets.1 ≠ []
    unfold Services.presets
    split <;> simp
  unfold openStream
  rw [named]
  cases preset : stream.presetId with
  | none => simpa [Services.selectSession] using dials
  | some presetId =>
    specialize asks presetId
    generalize services.selectSession (some presetId) = selected at asks
    obtain ⟨contacts, chosen⟩ := selected
    cases chosen with
    | error fault => exact asks
    | ok session => exact List.append_ne_nil_of_left_ne_nil asks _

end StreamRequest

namespace Gateway

namespace Request

def query (request : Request) : Query :=
  (Target.parse request.target).query

structure Gets (request : Request) (resource : Resource) : Prop where
  method : request.method = "GET"
  path : Resource.ofPath? (Target.parse request.target).path = some resource

structure RefusedAtOnce (request : Request) (refusal : Refusal) : Prop where
  silent : forall services, request.plan.firstContact? services = none
  refused : forall spec course, request.serve spec course = some { response := request.seal refusal.response }

variable {request : Request} {resource : Resource} {id : String}

theorem Gets.plan (gets : request.Gets resource) : request.plan = .forGet request.query resource := by
  simp only [Request.plan, gets.path, if_pos gets.method, query]

theorem refusedAtOnce_of_plan {refusal : Refusal} (planned : request.plan = .answer refusal.response) :
    request.RefusedAtOnce refusal :=
  ⟨fun _ => by rw [planned, Plan.firstContact?], fun _ _ => by simp only [serve, planned]⟩

structure StreamsById (request : Request) : Prop where
  nameless : request.query.IsNameless -> request.RefusedAtOnce .missingId
  blank : forall id, request.query.lookup Plan.idField = some id -> id ≠ "" -> Text.isBlank id = true ->
    request.RefusedAtOnce (.badRequest "video id is required")
  named : forall id, request.query.lookup Plan.idField = some id -> Text.isBlank id = false -> forall services,
    request.plan.firstContact? services ≠ none

/-- What is done about the id of a video that is to be shown in one image. The encoder is dialed for any id, and it
makes no difference which one it is. -/
structure ShowsById (request : Request) : Prop where
  nameless : request.query.IsNameless -> request.RefusedAtOnce .missingId
  dials : forall id, request.query.lookup Plan.idField = some id -> id ≠ "" -> forall services,
    request.plan.firstContact? services = some .dialEncoder
  alike : forall id, request.query.lookup Plan.idField = some id -> id ≠ "" -> forall (other : Request) (otherId : String),
    other.Gets .thumbnail -> other.plan = .thumbnail otherId -> forall spec course,
      request.serve spec course = other.serve spec course

theorem streamsById (gets : request.Gets .stream)
    (readable : request.query.repeated? [Plan.idField, Plan.presetField] = none) : request.StreamsById := by
  have planned := gets.plan
  rw [Plan.forGet] at planned
  constructor
  case nameless =>
    intro nameless
    rw [Plan.forVideo_nameless readable nameless] at planned
    exact refusedAtOnce_of_plan planned
  case blank =>
    intro id named nonempty blank
    rw [Plan.forVideo_named readable named nonempty] at planned
    have unopened := (StreamRequest.make id (request.query.lookup Plan.presetField)).openStream_blank blank
    refine ⟨fun services => ?_, fun spec course => ?_⟩
    next => rw [planned, Plan.firstContact?, unopened, List.head?_nil]
    next => simp only [serve, planned, unopened]; rfl
  case named =>
    intro id named filled services
    have nonempty : id ≠ "" := by rintro rfl; cases filled
    rw [Plan.forVideo_named readable named nonempty] at planned
    rw [planned, Plan.firstContact?, Ne, List.head?_eq_none_iff]
    exact StreamRequest.openStream_contacts services (by simp [StreamRequest.check, StreamRequest.make, filled])

theorem showsById (gets : request.Gets .thumbnail) (readable : request.query.repeated? [Plan.idField] = none) :
    request.ShowsById := by
  have planned := gets.plan
  rw [Plan.forGet] at planned
  constructor
  case nameless =>
    intro nameless
    rw [Plan.forVideo_nameless readable nameless] at planned
    exact refusedAtOnce_of_plan planned
  case dials =>
    intro id named nonempty services
    rw [planned, Plan.forVideo_named readable named nonempty]
    rfl
  case alike =>
    intro id named nonempty other otherId getsToo alike spec course
    rw [Plan.forVideo_named readable named nonempty] at planned
    have sealed : request.seal = other.seal := by
      funext response
      simp only [Request.seal, isHead, gets.method, getsToo.method]
    simp only [serve, planned, alike, sealed]
    rfl

/-- Without an id the two resources do the same, and with a blank one they do not. -/
theorem missing_ids (request : Request) :
    (request.Gets .stream -> request.query.repeated? [Plan.idField, Plan.presetField] = none -> request.StreamsById) /\
      (request.Gets .thumbnail -> request.query.repeated? [Plan.idField] = none -> request.ShowsById) :=
  ⟨streamsById, showsById⟩

def blankStream : Request where
  method := "GET"
  target := "/stream?id=%20"

def blankThumbnail : Request where
  method := "GET"
  target := "/thumbnail?id=+"

theorem blank_ids : blankStream.RefusedAtOnce (.badRequest "video id is required") /\
    blankThumbnail.plan.firstContact? willing = some .dialEncoder := by
  have stream := (missing_ids blankStream).1 ⟨rfl, by decide +kernel⟩ (by decide +kernel)
  have thumbnail := (missing_ids blankThumbnail).2 ⟨rfl, by decide +kernel⟩ (by decide +kernel)
  exact ⟨stream.blank " " (by decide +kernel) (by decide) (by decide),
    thumbnail.dials " " (by decide +kernel) (by decide) willing⟩

theorem blank_ids_unlike :
    (blankStream.query.lookup Plan.idField = some " " /\ ¬ blankStream.RefusedAtOnce .missingId) /\
      blankThumbnail.query.lookup Plan.idField = some " " /\ ¬ blankThumbnail.RefusedAtOnce .missingId := by
  refine ⟨⟨by decide +kernel, fun same => ?_⟩, by decide +kernel, fun same => ?_⟩
  next =>
    have answer := same.refused {} { services := willing }
    have other : blankStream.serve {} { services := willing } ≠
        some { response := blankStream.seal Refusal.missingId.response } := by
      decide +kernel
    exact other answer
  next =>
    have silent := same.silent willing
    have dials : blankThumbnail.plan.firstContact? willing = some .dialEncoder := by decide +kernel
    cases silent.symm.trans dials

end Request

end Gateway

end VideoRelay
