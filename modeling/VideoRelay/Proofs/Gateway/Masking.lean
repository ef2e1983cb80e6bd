import VideoRelay.Proofs.Bridge.Masking
import VideoRelay.Proofs.Gateway.Course
import VideoRelay.Proofs.Session.Alike

set_option autoImplicit false

namespace VideoRelay

open Wire

namespace Session

def Turn.masked : Turn -> Turn
  | act action => act action.masked
  | read => read

theorem masked_of_reading {session : Session} {action : Action} (reads : session.reading? = some action) :
    action.masked = action := by
  unfold reading? at reads
  split at reads
  next => cases reads; rfl
  next =>
    split at reads
    next => cases reads; rfl
    next => cases reads

theorem Turn.action?_masked (session : Session) (turn : Turn) :
    turn.masked.action? session.masked = (turn.action? session).map Action.masked := by
  cases turn with
  | act action => rfl
  | read =>
    show session.reading? = session.reading?.map Action.masked
    cases reads : session.reading? with
    | none => rfl
    | some action => rw [Option.map_some, masked_of_reading reads]

namespace Played

def masked (played : Played) : Played where
  session := played.session.masked
  actions := played.actions.map Action.masked

theorem take_masked (played : Played) (turn : Turn) :
    (played.masked.take turn.masked).map masked = (played.take turn).map masked := by
  have turns : turn.masked.action? played.masked.session = (turn.action? played.session).map Action.masked :=
    turn.action?_masked played.session
  rw [take, take, turns]
  cases turn.action? played.session with
  | none => rfl
  | some action =>
    have acted := played.session.act_masked action
    have repeats := congrArg (Option.map fun session =>
      ({ session, actions := (played.actions ++ [action]).map Action.masked } : Played)) acted
    simpa [masked, Function.comp_def] using repeats

theorem take_alike {played other : Played} {turn another : Turn} (alike : played.masked = other.masked)
    (same : turn.masked = another.masked) : (played.take turn).map masked = (other.take another).map masked := by
  rw [← take_masked, alike, same, take_masked]

end Played

end Session

theorem Bridge.act_alike {bridge other : Bridge} {action another : Action} (alike : bridge.masked = other.masked)
    (same : action.masked = another.masked) : (bridge.act action).map masked = (other.act another).map masked := by
  rw [← act_masked, alike, same, act_masked]

def Services.masked (services : Services) : Services where
  dialStorage := maskFault services.dialStorage
  dialEncoder := maskFault services.dialEncoder
  listPresets := maskStatus services.listPresets
  getVideo := fun videoId => maskStatus (services.getVideo videoId)

theorem Services.presets_masked (services : Services) :
    maskFault services.masked.presets.2 = maskFault services.presets.2 := by
  obtain ⟨dialStorage, dialEncoder, listPresets, getVideo⟩ := services
  cases dialEncoder with
  | error fault => simp [presets, masked]
  | ok _ => cases listPresets <;> rfl

theorem Services.openStorage_masked (services : Services) (videoId : String) :
    maskFault (services.masked.openStorage videoId).2 = maskFault (services.openStorage videoId).2 := by
  obtain ⟨dialStorage, dialEncoder, listPresets, getVideo⟩ := services
  cases dialStorage with
  | error fault => simp [openStorage, masked]
  | ok _ => cases told : getVideo videoId <;> simp only [openStorage, masked, told] <;> rfl

theorem Services.selectSession_masked (services : Services) (presetId : Option String) :
    maskFault (services.masked.selectSession presetId).2 = maskFault (services.selectSession presetId).2 := by
  cases presetId with
  | none => rfl
  | some presetId =>
    simp only [selectSession]
    rcases eq_or_faults services.presets_masked with ⟨catalog, same, told⟩ | ⟨fault, other, failed, told, alike⟩
    next => rw [same, told]
    next =>
      rw [failed, told]
      exact congrArg Except.error alike

theorem StreamRequest.openStream_masked (stream : StreamRequest) (services : Services) :
    maskFault (stream.openStream services.masked).2 = maskFault (stream.openStream services).2 := by
  rw [openStream_result, openStream_result]
  cases stream.check with
  | error fault => rfl
  | ok _ =>
    rcases eq_or_faults (services.selectSession_masked stream.presetId) with
      ⟨session, same, told⟩ | ⟨fault, other, failed, told, alike⟩
    next =>
      rw [same, told]
      rcases eq_or_faults (services.openStorage_masked stream.videoId) with
        ⟨_, same, told⟩ | ⟨fault, other, failed, told, alike⟩
      next => rw [same, told]
      next => rw [failed, told]; exact congrArg Except.error alike
    next => rw [failed, told]; exact congrArg Except.error alike

namespace Gateway

theorem Refusal.ofFault_masked (fault : Fault) : ofFault fault.masked = ofFault fault := by
  cases fault <;> rfl

theorem orRefusal_alike {A : Type} (response : A -> Response) {result other : Except Fault A}
    (alike : maskFault result = maskFault other) : orRefusal response result = orRefusal response other := by
  rcases eq_or_faults alike with ⟨value, rfl, rfl⟩ | ⟨fault, another, rfl, rfl, same⟩
  next => rfl
  next => simp only [orRefusal]; rw [← Refusal.ofFault_masked, same, Refusal.ofFault_masked]

/-- The same course with less told of every fault: of a status only whether it says that the call was torn down
(`Status.masked_eq_iff`). -/
def Course.masked (course : Course) : Course where
  services := course.services.masked
  session := course.session.map Session.Turn.masked
  bridge := course.bridge.map Bridge.Action.masked

namespace Request

variable (request : Request)

theorem streamReply?_masked (played : Session.Played) :
    request.streamReply? played.masked = request.streamReply? played := by
  have received : Session.headsReceived played.masked.actions = Session.headsReceived played.actions :=
    Session.headsReceived_masked played.actions
  have taken : Session.framesTaken played.masked.actions = Session.framesTaken played.actions :=
    Session.framesTaken_masked played.actions
  unfold streamReply?
  rw [received, taken]
  rfl

theorem serve_alike (spec : ImageSpec) {first second : Course} (alike : first.masked = second.masked) :
    request.serve spec first = request.serve spec second := by
  have services : first.services.masked = second.services.masked := congrArg Course.services alike
  have sessions : first.session.map Session.Turn.masked = second.session.map Session.Turn.masked :=
    congrArg Course.session alike
  have bridges : first.bridge.map Bridge.Action.masked = second.bridge.map Bridge.Action.masked :=
    congrArg Course.bridge alike
  unfold serve
  cases request.plan with
  | answer response => rfl
  | presets =>
    have catalogs : maskFault first.services.presets.2 = maskFault second.services.presets.2 := by
      rw [← Services.presets_masked, services, Services.presets_masked]
    simp only [orRefusal_alike catalogResponse catalogs]
  | thumbnail videoId =>
    refine bind_alike (follow_alike Bridge.masked Bridge.Action.masked (fun _ _ _ _ => Bridge.act_alike) rfl
      (congrArg (List.cons _) bridges)) fun bridge other alike => ?_
    have results : bridge.result?.map maskFault = other.result?.map maskFault := by
      rw [← Bridge.result?_masked, alike, Bridge.result?_masked]
    rw [Option.map_eq_bind, Option.map_eq_bind]
    refine bind_alike results fun result another alike => ?_
    simp only [Function.comp_apply, orRefusal_alike imageResponse alike]
  | stream stream =>
    have opened : maskFault (stream.openStream first.services).2 = maskFault (stream.openStream second.services).2 := by
      rw [← StreamRequest.openStream_masked, services, StreamRequest.openStream_masked]
    rcases eq_or_faults opened with ⟨session, same, told⟩ | ⟨fault, other, failed, told, alike⟩
    next =>
      simp only [same, told]
      refine bind_alike (follow_alike Session.Played.masked Session.Turn.masked
        (fun _ _ _ _ => Session.Played.take_alike) rfl sessions) fun played other alike => ?_
      rw [← streamReply?_masked, alike, streamReply?_masked]
    next =>
      simp only [failed, told]
      rw [← Refusal.ofFault_masked, alike, Refusal.ofFault_masked]

end Request

end Gateway

end VideoRelay
