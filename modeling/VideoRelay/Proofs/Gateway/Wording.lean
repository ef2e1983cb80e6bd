import VideoRelay.Proofs.Bridge.Faults
import VideoRelay.Proofs.Gateway.Secrecy

set_option autoImplicit false

namespace VideoRelay

namespace Text

theorem utf8Bytes_append (first second : String) : utf8Bytes (first ++ second) = utf8Bytes first ++ utf8Bytes second := by
  simp [utf8Bytes]

theorem utf8Bytes_injective {first second : String} (same : utf8Bytes first = utf8Bytes second) : first = second := by
  have read := utf8Text?_utf8Bytes first
  rw [same, utf8Text?_utf8Bytes] at read
  exact (Option.some.inj read).symm

theorem toNat_of_mem_utf8EncodeChar {c : Char} {byte : UInt8} (member : byte ∈ String.utf8EncodeChar c)
    (ascii : byte.toNat < 128) : c.toNat = byte.toNat := by
  unfold String.utf8EncodeChar at member
  dsimp only at member
  split at member
  next single =>
    have same := List.mem_singleton.1 member
    have point : c.toNat = c.val.toNat := rfl
    rw [same, UInt8.toNat_ofNat']
    omega
  next =>
    -- Every byte of a longer sequence is above those of a single one.
    repeat' split at member
    all_goals
      simp only [List.mem_cons, List.not_mem_nil, or_false] at member
      rcases member with rfl | rfl | rfl | rfl <;> simp only [UInt8.toNat_ofNat'] at ascii <;> omega

end Text

def newline : UInt8 := 10

def IsLine (body : Bytes) : Prop :=
  1 < body.length /\ body.getLast? = some newline /\ body.count newline = 1

instance (body : Bytes) : Decidable (IsLine body) :=
  inferInstanceAs (Decidable (_ /\ _ /\ _))

theorem newline_mem_utf8Bytes {text : String} (broken : newline ∈ Text.utf8Bytes text) : '\n' ∈ text.toList := by
  rw [<- String.ofList_toList (s := text), Text.utf8Bytes_ofList] at broken
  obtain ⟨c, member, inside⟩ := List.mem_flatMap.1 broken
  have point := Text.toNat_of_mem_utf8EncodeChar inside (by decide)
  have same : c = '\n' := Char.toNat_inj.1 point
  exact same ▸ member

theorem isLine_of_message {message : String} (worded : message ≠ "") (unbroken : '\n' ∉ message.toList) :
    IsLine (Text.utf8Bytes (message ++ "\n")) := by
  have written : Text.utf8Bytes (message ++ "\n") = Text.utf8Bytes message ++ [newline] :=
    Text.utf8Bytes_append message "\n"
  have nonempty : Text.utf8Bytes message ≠ [] := by
    intro empty
    have decoded := Text.utf8Lossy_utf8Bytes message
    rw [empty, Text.utf8Lossy] at decoded
    exact worded (String.toList_eq_nil_iff.1 decoded.symm)
  have unbrokenBytes : newline ∉ Text.utf8Bytes message := fun broken => unbroken (newline_mem_utf8Bytes broken)
  rw [written]
  refine ⟨?_, by simp, ?_⟩
  next =>
    have long := List.length_pos_iff.2 nonempty
    rw [List.length_append, List.length_singleton]
    omega
  next => rw [List.count_append, List.count_eq_zero.2 unbrokenBytes, List.count_singleton_self]

theorem IsLine.ne_nil {body : Bytes} (line : IsLine body) : body ≠ [] := by
  rintro rfl
  exact absurd line.1 (by decide)

theorem Response.plain_flatten (status : Nat) (text : String) :
    (Response.plain status text).body.flatten = Text.utf8Bytes text := by
  unfold Response.plain Response.whole
  split
  next empty => exact (List.isEmpty_iff.1 empty).symm
  next => simp

inductive Fault.OfDialing : Fault -> Prop
  | unreached (message : String) : OfDialing (.connectionFailure message)
  | unfit (message : String) : OfDialing (.config message)

theorem Fault.OfDialing.httpStatus {fault : Fault} (dialing : fault.OfDialing) : fault.httpStatus = 500 := by
  cases dialing <;> rfl

namespace Gateway

structure Course.Dials (course : Course) : Prop where
  storage : forall fault, course.services.dialStorage = .error fault -> fault.OfDialing
  encoder : forall fault, course.services.dialEncoder = .error fault -> fault.OfDialing
  bridge : forall fault action, action ∈ course.bridge -> action.Undialed fault -> fault.OfDialing

/-- Refusals that are not in the gateway's own words, and the one that quotes a line break of the client. -/
inductive Lapse : Response -> Prop
  | repeated (name : String) : Lapse (repeatedField name)
  | disallowed : Lapse methodNotAllowed
  | quoted (preset : String) (broken : '\n' ∈ preset.toList) :
      Lapse (Refusal.ofFault (.presetNotFound preset)).response

inductive Worded : Response -> Prop
  | fine (response : Response) (granted : response.head.status < 400) : Worded response
  | lapse (response : Response) (lapse : Lapse response) : Worded response
  | line (response : Response) (typed : response.head.headers.get? contentType = some plainText) (text : Bytes)
      (line : IsLine text) (body : response.body = [text]) : Worded response

namespace Refusal

theorem worded (refusal : Refusal) (worded : refusal.message ≠ "") (unbroken : '\n' ∉ refusal.message.toList) :
    Worded refusal.response := by
  have line := isLine_of_message worded unbroken
  exact .line refusal.response rfl _ line (by simp [response, Response.plain, Response.whole, line.ne_nil])

theorem internal_worded : Worded internal.response :=
  worded _ (by decide) (by decide)

theorem notFound_worded : Worded notFound.response :=
  worded _ (by decide) (by decide)

theorem ofFault_internal {fault : Fault} (servers : fault.httpStatus = 500) : ofFault fault = internal := by
  cases fault <;> first | rfl | cases servers

theorem presetNotFound_worded (preset : String) : Worded (ofFault (.presetNotFound preset)).response := by
  by_cases broken : '\n' ∈ preset.toList
  next => exact .lapse _ (.quoted preset broken)
  next =>
    refine worded _ ?_ ?_
    next =>
      intro empty
      have chars := congrArg String.toList empty
      simp [ofFault, badRequest] at chars
    next => simpa [ofFault, badRequest] using broken

theorem blank_worded : Worded (ofFault (.invalidInput "video id is required")).response :=
  worded _ (by decide) (by decide)

end Refusal

theorem orRefusal_worded {A : Type} {response : A -> Response} {result : Except Fault A}
    (served : forall value, (response value).head.status < 400)
    (servers : forall fault, result = .error fault -> fault.httpStatus = 500) : Worded (orRefusal response result) := by
  cases result with
  | ok value => exact .fine _ (served value)
  | error fault =>
    show Worded (Refusal.ofFault fault).response
    rw [Refusal.ofFault_internal (servers fault rfl)]
    exact Refusal.internal_worded

theorem catalogResponse_granted (catalog : List Preset) : (catalogResponse catalog).head.status < 400 :=
  show 200 < 400 by decide

theorem imageResponse_granted (image : Bytes) : (imageResponse image).head.status < 400 := by
  unfold imageResponse
  split
  next => exact show 204 < 400 by decide
  next => exact show 200 < 400 by decide

namespace Plan

variable {query : Query} {response : Response}

theorem forVideo_worded {known : List String} {plan : String -> Plan} (others : forall id, plan id ≠ .answer response)
    (planned : forVideo query known plan = .answer response) : Worded response := by
  unfold forVideo at planned
  split at planned
  next name _ => cases planned; exact .lapse _ (.repeated name)
  next =>
    split at planned
    next => exact absurd planned (others _)
    next => cases planned; exact Refusal.worded _ (by decide) (by decide)

theorem forGet_worded {resource : Resource} (planned : forGet query resource = .answer response) :
    Worded response := by
  cases resource with
  | stream | thumbnail => exact forVideo_worded (by simp) planned
  | presets => cases planned
  | health => cases planned; exact .fine _ (show 200 < 400 by decide)

theorem forHead_worded {resource : Resource} (planned : forHead query resource = .answer response) :
    Worded response := by
  cases resource with
  | stream => cases planned; exact Refusal.notFound_worded
  | thumbnail => exact forGet_worded (show forGet query .thumbnail = _ from planned)
  | presets => cases planned
  | health => exact forGet_worded (show forGet query .health = _ from planned)

theorem forOther_worded {resource : Resource} (planned : forOther resource = .answer response) :
    Worded response := by
  cases resource with
  | stream => cases planned; exact .line _ rfl _ (isLine_of_message (by decide) (by decide)) rfl
  | thumbnail | presets | health => cases planned; exact .lapse _ .disallowed

end Plan

theorem Request.plan_worded {request : Request} {response : Response} (planned : request.plan = .answer response) :
    Worded response := by
  cases found : Resource.ofPath? (Target.parse request.target).path with
  | none =>
    simp only [Request.plan, found] at planned
    cases planned
    exact Refusal.notFound_worded
  | some resource =>
    simp only [Request.plan, found] at planned
    split at planned
    next => exact Plan.forGet_worded planned
    next =>
      split at planned
      next => exact Plan.forHead_worded planned
      next => exact Plan.forOther_worded planned

variable {course : Course} {stream : StreamRequest} {fault : Fault}

namespace Course.Dials

theorem presets (dials : course.Dials) (failed : course.services.presets.2 = .error fault) : fault.httpStatus = 500 := by
  unfold Services.presets at failed
  split at failed
  next undialed => cases failed; exact (dials.encoder fault undialed).httpStatus
  next =>
    obtain ⟨status, -, rfl⟩ := error_of_mapError failed
    rfl

theorem selectSession {presetId : Option String} (dials : course.Dials)
    (failed : (course.services.selectSession presetId).2 = .error fault) :
    Worded (Refusal.ofFault fault).response := by
  cases presetId with
  | none => cases failed
  | some presetId =>
    rcases error_of_bind (error_of_map failed) with unlisted | ⟨catalog, -, unfound⟩
    next =>
      rw [Refusal.ofFault_internal (dials.presets unlisted)]
      exact Refusal.internal_worded
    next =>
      obtain ⟨rfl, -⟩ := (Preset.find_eq_error_iff catalog presetId fault).1 unfound
      exact Refusal.presetNotFound_worded presetId

theorem openStorage {videoId : String} (dials : course.Dials)
    (failed : (course.services.openStorage videoId).2 = .error fault) : fault.httpStatus = 500 := by
  unfold Services.openStorage at failed
  split at failed
  next undialed => cases failed; exact (dials.storage fault undialed).httpStatus
  next =>
    obtain ⟨status, -, rfl⟩ := error_of_mapError failed
    rfl

theorem openStream (dials : course.Dials) (failed : (stream.openStream course.services).2 = .error fault) :
    Worded (Refusal.ofFault fault).response := by
  rw [StreamRequest.openStream_result] at failed
  rcases error_of_bind failed with blank | ⟨_, -, failed⟩
  next =>
    unfold StreamRequest.check at blank
    split at blank
    next => cases blank; exact Refusal.blank_worded
    next => cases blank
  rcases error_of_bind failed with unselected | ⟨session, -, failed⟩
  next => exact dials.selectSession unselected
  next =>
    rw [Refusal.ofFault_internal (dials.openStorage (error_of_map failed))]
    exact Refusal.internal_worded

end Course.Dials

namespace Request

variable {request : Request} {response : Response} {reply : Reply}

def Lapses (request : Request) (reply : Reply) : Prop :=
  exists response, Lapse response /\ reply.response = request.seal response

/-- The answer is this line of plain text, or the head of that answer. -/
structure AnsweredInLine (request : Request) (reply : Reply) (line : Bytes) : Prop where
  whole : reply.isWhole = true
  oneLine : IsLine line
  type : reply.response.head.headers.get? contentType = some plainText
  length : reply.response.head.headers.get? contentLength = some (toString line.length)
  body : reply.response.body = if request.isHead then [] else [line]

theorem seal_headers (response : Response) : (request.seal response).head.headers =
    response.head.headers.insert contentLength (toString response.body.flatten.length) := by
  unfold Request.seal
  split <;> rfl

theorem seal_body (response : Response) :
    (request.seal response).body = if request.isHead then [] else response.body := by
  unfold Request.seal
  split <;> rfl

theorem seal_inLine (worded : Worded response) (refused : 400 <= (request.seal response).head.status)
    (unlapsed : ¬ request.Lapses { response := request.seal response }) :
    exists line, request.AnsweredInLine { response := request.seal response } line := by
  rw [seal_status] at refused
  cases worded with
  | fine granted => omega
  | lapse lapse => exact absurd ⟨response, lapse, rfl⟩ unlapsed
  | line typed text line body =>
    refine ⟨text, rfl, line, ?_, ?_, by rw [seal_body, body]⟩
    next => rw [seal_headers, Headers.get?_insert, if_neg (by decide), typed]
    next => rw [seal_headers, Headers.get?_insert, if_pos rfl, body, List.flatten_singleton]

theorem bridge_fault {spec : ImageSpec} {bridge : Bridge} {videoId : String} (dials : course.Dials)
    (reached : follow Bridge.act { spec } (.generate [videoId] :: course.bridge) = some bridge)
    (failed : bridge.result? = some (.error fault)) : fault.httpStatus = 500 := by
  have returned : bridge.foreground = .returned (.error fault) := by
    unfold Bridge.result? at failed
    split at failed
    next there => rw [there, Option.some.inj failed]
    next => cases failed
  by_cases servers : fault.httpStatus = 500
  next => exact servers
  next =>
    obtain ⟨dial, member, undialed⟩ := Bridge.undialed_of_run (Bridge.run_of_follow reached) (.returned returned) servers
    rcases List.mem_cons.1 member with rfl | later
    next => rcases undialed with wrong | wrong <;> cases wrong
    next => exact (dials.bridge fault dial later undialed).httpStatus

/-- Whatever is refused, and whichever text of the client is quoted, the answer is one line of plain text. -/
theorem refused_inLine {spec : ImageSpec} (dials : course.Dials) (served : request.serve spec course = some reply)
    (refused : 400 <= reply.response.head.status) (unlapsed : ¬ request.Lapses reply) :
    exists line, request.AnsweredInLine reply line := by
  unfold serve at served
  split at served
  next response planned =>
    cases served
    exact seal_inLine (plan_worded planned) refused unlapsed
  next =>
    cases served
    exact seal_inLine (orRefusal_worded catalogResponse_granted fun _ failed => dials.presets failed) refused unlapsed
  next videoId planned =>
    obtain ⟨bridge, reached, returned⟩ := Option.bind_eq_some_iff.1 served
    obtain ⟨result, outcome, rfl⟩ := Option.map_eq_some_iff.1 returned
    exact seal_inLine (orRefusal_worded imageResponse_granted fun _ failed =>
      bridge_fault dials reached (failed ▸ outcome)) refused unlapsed
  next stream planned =>
    split at served
    next fault failed =>
      cases served
      exact seal_inLine (dials.openStream failed) refused unlapsed
    next session opened =>
      obtain ⟨emitter, fresh, rfl⟩ := start_of_openStream opened
      obtain ⟨played, reached, answered⟩ := Option.bind_eq_some_iff.1 served
      rcases streamReply?_cases fresh reached answered with fine | rfl
      next => omega
      next => exact seal_inLine Refusal.internal_worded refused unlapsed

def presetless : Course where
  services := willing

theorem presetless_dials : presetless.Dials :=
  ⟨fun _ failed => (by cases failed), fun _ failed => (by cases failed), fun _ _ member _ => (by cases member)⟩

def unknownPreset : Request where
  method := "GET"
  target := "/stream?id=clip&preset=it%27s"

theorem unknownPreset_unlapsed :
    ¬ unknownPreset.Lapses { response := unknownPreset.seal (Refusal.ofFault (.presetNotFound "it's")).response } := by
  rintro ⟨response, lapse, same⟩
  have body : Text.utf8Bytes "Preset 'it's' not found\n" = response.body.flatten := by
    have bodies := congrArg Response.body same
    rw [seal_body, seal_body, if_neg (by decide), if_neg (by decide)] at bodies
    exact bodies ▸ by decide +kernel
  cases lapse with
  | repeated name =>
    have texts := Text.utf8Bytes_injective (body.trans (Response.plain_flatten _ _))
    have chars := congrArg String.toList texts
    simp at chars
  | disallowed => exact absurd body (by decide +kernel)
  | quoted preset broken =>
    have texts := Text.utf8Bytes_injective (body.trans (Response.plain_flatten _ _))
    have chars := congrArg String.toList texts
    have behind : "it's".toList ++ "' not found\n".toList = preset.toList ++ "' not found\n".toList := by
      simpa [Refusal.ofFault, Refusal.badRequest] using chars
    exact absurd (List.append_cancel_right behind ▸ broken) (by decide)

theorem unknownPreset_inLine : exists reply line, unknownPreset.serve {} presetless = some reply /\
    unknownPreset.AnsweredInLine reply line /\ line = Text.utf8Bytes "Preset 'it's' not found\n" := by
  have served : unknownPreset.serve {} presetless =
      some { response := unknownPreset.seal (Refusal.ofFault (.presetNotFound "it's")).response } := by
    decide +kernel
  obtain ⟨line, inLine⟩ := refused_inLine presetless_dials served (by decide +kernel) unknownPreset_unlapsed
  have body := inLine.body
  rw [seal_body, if_neg (by decide), if_neg (by decide)] at body
  exact ⟨_, line, served, inLine, (List.singleton_inj.1 (body.symm.trans (by decide +kernel)))⟩

end Request

def Reply.IsOneLine (reply : Reply) : Prop :=
  reply.response.head.headers.get? contentType = some plainText /\ IsLine reply.response.body.flatten

instance (reply : Reply) : Decidable reply.IsOneLine :=
  inferInstanceAs (Decidable (_ /\ _))

namespace Request

/-- A field that is repeated, a method that a known path does not serve, and a preset with a line break in it. -/
def unlined : List Request := [
  { method := "GET", target := "/stream?id=a&id=b" },
  { method := "POST", target := "/presets" },
  { method := "GET", target := "/stream?id=a&preset=x%0Ay" }]

def LinesRefusals (request : Request) : Prop :=
  forall (course : Course) (reply : Reply), course.Dials -> request.serve {} course = some reply ->
    400 <= reply.response.head.status -> reply.IsOneLine

theorem refusals_unlined : ¬ exists request, request ∈ unlined /\ request.LinesRefusals := by
  have refused : (unlined.all fun request => (request.serve {} presetless).any fun reply =>
      400 <= reply.response.head.status && !decide reply.IsOneLine) = true := by
    decide +kernel
  rintro ⟨request, member, literal⟩
  obtain ⟨reply, served, broken⟩ := (Option.any_eq_true _ _).1 (List.all_eq_true.1 refused request member)
  simp only [Bool.and_eq_true, decide_eq_true_eq, Bool.not_eq_true', decide_eq_false_iff_not] at broken
  exact broken.2 (literal presetless reply presetless_dials served broken.1)

end Request

end Gateway

end VideoRelay
