import VideoRelay.Proofs.Gateway.Exchange
import VideoRelay.Proofs.Gateway.Opening
import VideoRelay.Proofs.Gateway.Spelling

set_option autoImplicit false

namespace VideoRelay

open Text Wire

def Contact.request? : Contact -> Option GetVideoRequest
  | getVideo videoId => some { videoId }
  | dialStorage | dialEncoder | listPresets | encodeVideo => none

theorem Rehearsal.videosAsked_ofContacts (R : Type) (contacts : List Contact) :
    (Record.ofContacts R contacts).videosAsked = (contacts.filterMap Contact.request?).map GetVideoRequest.videoId := by
  rw [List.map_filterMap]
  refine congrArg (contacts.filterMap ·) (funext fun contact => ?_)
  cases contact <;> rfl

namespace Services

variable (services : Services)

theorem openStorage_asks (videoId : String) :
    .dialStorage ∈ (services.openStorage videoId).1 /\
      (services.dialStorage = .ok () ->
        (services.openStorage videoId).1.filterMap Contact.request? = [{ videoId }]) /\
      (services.dialStorage ≠ .ok () -> (services.openStorage videoId).1.filterMap Contact.request? = []) := by
  unfold openStorage
  cases dialed : services.dialStorage with
  | error fault => exact ⟨by simp, fun reached => (by cases reached), fun _ => rfl⟩
  | ok _ => exact ⟨by simp, fun _ => rfl, fun unreached => absurd rfl unreached⟩

theorem selectSession_asks (presetId : Option String) : .dialStorage ∉ (services.selectSession presetId).1 /\
    (services.selectSession presetId).1.filterMap Contact.request? = [] := by
  cases presetId with
  | none => exact ⟨by simp [selectSession], rfl⟩
  | some presetId =>
    show .dialStorage ∉ services.presets.1 /\ services.presets.1.filterMap Contact.request? = []
    unfold presets
    split <;> exact ⟨by simp, rfl⟩

end Services

namespace StreamRequest

variable {stream : StreamRequest} {services : Services}

def ReachesStorage (stream : StreamRequest) (services : Services) : Prop :=
  .dialStorage ∈ (stream.openStream services).1 /\ services.dialStorage = .ok ()

theorem openStream_asks (named : stream.check = .ok ()) :
    (stream.ReachesStorage services ->
      (stream.openStream services).1.filterMap Contact.request? = [{ videoId := stream.videoId }]) /\
      (¬stream.ReachesStorage services -> (stream.openStream services).1.filterMap Contact.request? = []) := by
  obtain ⟨unopened, unasked⟩ := services.selectSession_asks stream.presetId
  obtain ⟨opens, reached, unreached⟩ := services.openStorage_asks stream.videoId
  obtain ⟨contacts, selected⟩ : exists contacts, (services.selectSession stream.presetId).1 = contacts := ⟨_, rfl⟩
  rw [selected] at unopened unasked
  unfold ReachesStorage
  cases chosen : (services.selectSession stream.presetId).2 with
  | error fault =>
    rw [openStream_unselected named (Prod.ext selected chosen)]
    exact ⟨fun reaches => absurd reaches.1 unopened, fun _ => unasked⟩
  | ok session =>
    rw [openStream_selected named (Prod.ext selected chosen), List.filterMap_append, unasked, List.nil_append]
    refine ⟨fun reaches => reached reaches.2, fun stuck => unreached fun dialed => stuck ⟨?_, dialed⟩⟩
    exact List.mem_append_right _ opens

variable {videoId presetId : String} {preset : Option String} {catalog : List Preset}

theorem check_make (filled : Text.isBlank videoId = false) : (make videoId preset).check = .ok () := by
  simp [check, make, filled]

theorem openStream_plain (filled : Text.isBlank videoId = false) (plain : preset = none \/ preset = some "") :
    (make videoId preset).openStream services =
      ((services.openStorage videoId).1, (services.openStorage videoId).2.map fun _ => .passthrough) := by
  have selected : services.selectSession (make videoId preset).presetId = ([], .ok .passthrough) := by
    rcases plain with rfl | rfl <;> rfl
  rw [openStream_selected (check_make filled) selected]
  rfl

theorem openStream_looked_up (filled : Text.isBlank videoId = false) (nonempty : presetId ≠ "")
    (dialed : services.dialEncoder = .ok ()) (listed : services.listPresets = .ok catalog) :
    (make videoId (some presetId)).openStream services = match catalog.find? fun entry => entry.id = presetId with
      | none => ([.dialEncoder, .listPresets], .error (.presetNotFound presetId))
      | some entry => ([.dialEncoder, .listPresets] ++ (services.openStorage videoId).1,
          (services.openStorage videoId).2.map fun _ => .transcoding entry) := by
  have chosen : (make videoId (some presetId)).presetId = some presetId := by simp [make, nonempty]
  have selected := Services.selectSession_dialed presetId dialed
  rw [← chosen, listed, mapError_ok, Except.bind] at selected
  have same : (catalog.find? fun entry => entry.id = presetId) = catalog.find? fun entry => entry.id == presetId := rfl
  rw [same]
  unfold Preset.find at selected
  split
  next missing =>
    rw [missing] at selected
    exact openStream_unselected (check_make filled) selected
  next entry found =>
    rw [found] at selected
    exact openStream_selected (check_make filled) selected

end StreamRequest

namespace Gateway

namespace Request

variable {request : Request} {resource : Resource} {known : List String} {entries : Query}

/-- What video storage is asked for in a course of events, unless the schedule is impossible. -/
def asked (request : Request) (spec : ImageSpec) (course : Course) : Option (List GetVideoRequest) :=
  match request.plan with
  | .answer _ | .presets => some []
  | .thumbnail videoId =>
    (follow Errand.act { bridge := { spec } } (.generate [videoId] :: course.bridge)).map Errand.asked
  | .stream stream => some ((stream.openStream course.services).1.filterMap Contact.request?)

theorem asked_of_serve {spec : ImageSpec} {course : Course} {reply : Reply}
    (served : request.serve spec course = some reply) : exists requests, request.asked spec course = some requests := by
  unfold serve at served
  unfold asked
  cases planned : request.plan with
  | answer response => exact ⟨[], rfl⟩
  | presets => exact ⟨[], rfl⟩
  | stream stream => exact ⟨_, rfl⟩
  | thumbnail videoId =>
    simp only [planned] at served
    obtain ⟨bridge, reached, _⟩ := Option.bind_eq_some_iff.1 served
    have runs := Errand.follow_bridge { bridge := { spec } } (.generate [videoId] :: course.bridge)
    rw [reached] at runs
    obtain ⟨errand, followed, _⟩ := Option.map_eq_some_iff.1 runs
    exact ⟨errand.asked, by simp only [followed, Option.map_some]⟩

theorem exchange_asked (request : Request) (spec : ImageSpec) (peers : Rehearsal.Peers) :
    exists course requests, request.asked spec course = some requests /\
      (Rehearsal.exchange request spec peers).2.videosAsked = requests.map GetVideoRequest.videoId := by
  unfold asked Rehearsal.exchange
  cases planned : request.plan with
  | answer response => exact ⟨{ services := peers.services }, [], rfl, rfl⟩
  | presets =>
    refine ⟨{ services := peers.services }, [], rfl, ?_⟩
    simp only [Services.presets]
    split <;> rfl
  | stream stream =>
    refine ⟨{ services := peers.services }, _, rfl, ?_⟩
    rw [← Rehearsal.videosAsked_ofContacts EncodeVideoRequest]
    simp only [Rehearsal.relay]
    split <;> rfl
  | thumbnail videoId =>
    obtain ⟨actions, errand, followed, -, noted⟩ := Rehearsal.thumbnail_follows spec videoId peers
    exact ⟨{ services := peers.services, bridge := actions }, errand.asked, by simp only [followed, Option.map_some],
      noted⟩

theorem Asks.read (asks : Asks resource known entries request) (named : "" ∉ known)
    (distinct : (entries.map Prod.fst).Nodup) : request.Gets resource /\ Query.Holds known entries request.query := by
  cases asks with
  | get path plain unmarked query carries order =>
    have parsed := Target.parse_query path plain unmarked
    rw [Request.query]
    refine ⟨⟨rfl, by rw [parsed]; exact path⟩, ?_⟩
    rw [parsed, query]
    exact Query.holds_parse named carries order distinct

/-- A request for the stream of a video: what storage is asked for, and what comes of the preset. -/
structure Streams (request : Request) (videoId : String) (preset : Option String) : Prop where
  planned : request.plan = .stream (.make videoId preset)
  reached : forall spec course, (StreamRequest.make videoId preset).ReachesStorage course.services ->
    request.asked spec course = some [{ videoId }]
  unreached : forall spec course, ¬(StreamRequest.make videoId preset).ReachesStorage course.services ->
    request.asked spec course = some []
  plain : preset = none \/ preset = some "" -> forall services : Services,
    (StreamRequest.make videoId preset).openStream services =
      ((services.openStorage videoId).1, (services.openStorage videoId).2.map fun _ => .passthrough)
  lookedUp : forall presetId, preset = some presetId -> presetId ≠ "" -> forall (services : Services) catalog,
    services.dialEncoder = .ok () -> services.listPresets = .ok catalog ->
    (StreamRequest.make videoId preset).openStream services =
      match catalog.find? fun entry => entry.id = presetId with
      | none => ([.dialEncoder, .listPresets], .error (.presetNotFound presetId))
      | some entry => ([.dialEncoder, .listPresets] ++ (services.openStorage videoId).1,
          (services.openStorage videoId).2.map fun _ => .transcoding entry)

/-- A request for an image of a video. Storage is asked as soon as it is dialed, whatever else happens. -/
structure Shows (request : Request) (videoId : String) : Prop where
  planned : request.plan = .thumbnail videoId
  reached : forall spec course requests, request.asked spec course = some requests ->
    .dialedStorage (.ok ()) ∈ course.bridge -> requests = [{ videoId }]
  unreached : forall spec course requests, request.asked spec course = some requests ->
    .dialedStorage (.ok ()) ∉ course.bridge -> requests = []
  reaches : forall spec services,
    request.asked spec { services, bridge := [.dialedEncoder (.ok ()), .dialedStorage (.ok ())] } = some [{ videoId }]

variable {videoId : String} {preset : Option String}

theorem streams_of_plan (filled : Text.isBlank videoId = false)
    (planned : request.plan = .stream (.make videoId preset)) : request.Streams videoId preset := by
  have named : (StreamRequest.make videoId preset).check = .ok () := StreamRequest.check_make filled
  constructor
  case planned => exact planned
  case reached =>
    intro spec course reaches
    simp only [asked, planned, (StreamRequest.openStream_asks named).1 reaches]
    rfl
  case unreached =>
    intro spec course stuck
    simp only [asked, planned, (StreamRequest.openStream_asks named).2 stuck]
  case plain => exact fun plain services => StreamRequest.openStream_plain filled plain
  case lookedUp =>
    rintro presetId rfl nonempty services catalog dialed listed
    exact StreamRequest.openStream_looked_up filled nonempty dialed listed

theorem shows_of_plan (planned : request.plan = .thumbnail videoId) : request.Shows videoId := by
  have bound {spec : ImageSpec} {course : Course} {requests : List GetVideoRequest}
      (asked : request.asked spec course = some requests) :
      exists errand, Errand.Bound videoId course.bridge errand /\ errand.asked = requests := by
    simp only [Request.asked, planned] at asked
    obtain ⟨errand, reached, same⟩ := Option.map_eq_some_iff.1 asked
    exact ⟨errand, Errand.bound_of_follow reached, same⟩
  constructor
  case planned => exact planned
  case reached =>
    intro spec course requests asked dialed
    obtain ⟨errand, bound, rfl⟩ := bound asked
    exact (bound.asked dialed).1
  case unreached =>
    intro spec course requests asked undialed
    obtain ⟨errand, bound, rfl⟩ := bound asked
    exact bound.unasked undialed
  case reaches =>
    intro spec services
    simp only [asked, planned]
    rfl

def fields (videoId : String) (preset : Option String) : Query :=
  (Plan.idField, videoId) :: (preset.map fun presetId => (Plan.presetField, presetId)).toList

/-- However the id and the preset are spelled, storage is asked for exactly that id, and the preset is looked up by
exactly that text. -/
theorem video_asked_by_id (videoId : String) (preset : Option String) (filled : Text.isBlank videoId = false) :
    (forall request, Asks .stream [Plan.idField, Plan.presetField] (fields videoId preset) request ->
      request.Streams videoId preset) /\
      forall request, Asks .thumbnail [Plan.idField] (fields videoId none) request -> request.Shows videoId := by
  have nonempty : videoId ≠ "" := by rintro rfl; cases filled
  constructor
  next =>
    intro request asks
    have distinct : ((fields videoId preset).map Prod.fst).Nodup := by
      cases preset <;> simp [fields, Plan.idField, Plan.presetField]
    obtain ⟨gets, unrepeated, held⟩ := asks.read (by decide) distinct
    have named : request.query.lookup Plan.idField = some videoId := held _ (by decide)
    have chosen : request.query.lookup Plan.presetField = preset := by
      rw [held _ (by decide)]
      cases preset <;> rfl
    refine streams_of_plan filled ?_
    rw [gets.plan, Plan.forGet, Plan.forVideo_named unrepeated named nonempty, chosen]
  next =>
    intro request asks
    obtain ⟨gets, unrepeated, held⟩ := asks.read (by decide) (by simp [fields])
    have named : request.query.lookup Plan.idField = some videoId := held _ (by decide)
    refine shows_of_plan ?_
    rw [gets.plan, Plan.forGet, Plan.forVideo_named unrepeated named nonempty]

def hdPlus : Preset where
  id := "HD ++"

def crookedStream : Request where
  method := "GET"
  target := "/stream" ++ "?" ++ "x=%&pr%65set=HD+%2b%2B&&id=+%C3%a4=1%20&id2"

def crookedThumbnail : Request where
  method := "GET"
  target := "http://gateway/thumbnail" ++ "?" ++ "preset=1&%69d=%20a=&preset"

def withHdPlus : Course where
  services := { willing with listPresets := .ok [{}, hdPlus] }
  bridge := [.dialedEncoder (.ok ()), .dialedStorage (.ok ())]

theorem crookedStream_asks : Asks .stream [Plan.idField, Plan.presetField] (fields " ä=1 " (some "HD ++"))
    crookedStream := by
  have named : Query.Spells [Query.ampersand, Query.equalsSign] (utf8Bytes "preset") (utf8Bytes "pr%65set") :=
    .cons (.literal _ (by decide)) <| .cons (.literal _ (by decide)) <| .cons (.percent _ _ _ rfl) <|
      .cons (.literal _ (by decide)) <| .cons (.literal _ (by decide)) <| .cons (.literal _ (by decide)) .nil
  have preset : Query.Spells [Query.ampersand] (utf8Bytes "HD ++") (utf8Bytes "HD+%2b%2B") :=
    .cons (.literal _ (by decide)) <| .cons (.literal _ (by decide)) <| .cons .plus <|
      .cons (.percent _ _ _ rfl) <| .cons (.percent _ _ _ rfl) .nil
  have identified : Query.Spells [Query.ampersand, Query.equalsSign] (utf8Bytes "id") (utf8Bytes "id") :=
    .cons (.literal _ (by decide)) <| .cons (.literal _ (by decide)) .nil
  have id : Query.Spells [Query.ampersand] (utf8Bytes " ä=1 ") (utf8Bytes "+%C3%a4=1%20") :=
    .cons .plus <| .cons (.percent _ _ _ rfl) <| .cons (.percent _ _ _ rfl) <|
      .cons (.literal _ (by decide)) <| .cons (.literal _ (by decide)) <| .cons (.percent _ _ _ rfl) .nil
  have carries : Query.Carries [Plan.idField, Plan.presetField]
      [utf8Bytes "x=%", utf8Bytes "pr%65set" ++ Query.equalsSign :: utf8Bytes "HD+%2b%2B", [],
        utf8Bytes "id" ++ Query.equalsSign :: utf8Bytes "+%C3%a4=1%20", utf8Bytes "id2"]
      [(Plan.presetField, "HD ++"), (Plan.idField, " ä=1 ")] :=
    .other (by decide) (by decide +kernel) <| .field (by decide) (.valued named preset) <|
      .other (by decide) (by decide +kernel) <| .field (by decide) (.valued identified id) <|
      .other (by decide) (by decide +kernel) .nil
  exact .get (by decide +kernel) (by decide +kernel) (by decide +kernel) (by decide +kernel) carries (.swap _ _ _)

theorem crookedThumbnail_asks : Asks .thumbnail [Plan.idField] (fields " a=" none) crookedThumbnail := by
  have identified : Query.Spells [Query.ampersand, Query.equalsSign] (utf8Bytes "id") (utf8Bytes "%69d") :=
    .cons (.percent _ _ _ rfl) <| .cons (.literal _ (by decide)) .nil
  have id : Query.Spells [Query.ampersand] (utf8Bytes " a=") (utf8Bytes "%20a=") :=
    .cons (.percent _ _ _ rfl) <| .cons (.literal _ (by decide)) <| .cons (.literal _ (by decide)) .nil
  have carries : Query.Carries [Plan.idField]
      [utf8Bytes "preset=1", utf8Bytes "%69d" ++ Query.equalsSign :: utf8Bytes "%20a=", utf8Bytes "preset"]
      [(Plan.idField, " a=")] :=
    .other (by decide) (by decide +kernel) <| .field (by decide) (.valued identified id) <|
      .other (by decide) (by decide +kernel) .nil
  exact .get (by decide +kernel) (by decide +kernel) (by decide +kernel) (by decide +kernel) carries (.refl _)

theorem crooked_asked : crookedStream.asked {} withHdPlus = some [{ videoId := " ä=1 " }] /\
    ((StreamRequest.make " ä=1 " (some "HD ++")).openStream withHdPlus.services).2 = .ok (.transcoding hdPlus) /\
      crookedThumbnail.asked {} withHdPlus = some [{ videoId := " a=" }] := by
  have streams := (video_asked_by_id " ä=1 " (some "HD ++") (by decide +kernel)).1 _ crookedStream_asks
  have shows := (video_asked_by_id " a=" none (by decide +kernel)).2 _ crookedThumbnail_asks
  refine ⟨streams.reached {} withHdPlus ⟨by decide +kernel, rfl⟩, ?_, shows.reaches {} withHdPlus.services⟩
  rw [streams.lookedUp "HD ++" rfl (by decide) withHdPlus.services [{}, hdPlus] rfl rfl]
  rfl

end Request

end Gateway

end VideoRelay
