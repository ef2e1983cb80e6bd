import VideoRelay.Errand
import VideoRelay.Proofs.Bridge.Outcome

set_option autoImplicit false

namespace VideoRelay

namespace Bridge

def HasDialed (bridge : Bridge) : Prop :=
  bridge.pump ≠ .unstarted /\ bridge.pump ≠ .dialing

theorem Step.hasDialed {bridge next : Bridge} {action : Action} (step : bridge.Step action next)
    (custody : Custody bridge) (dialed : bridge.HasDialed) : next.HasDialed := by
  cases step with
  | start dialing => exact absurd (custody.unstarted dialing) dialed.1
  | dialed | undialed | opened | unopened => exact ⟨by simp [endPump], by simp [endPump]⟩
  | stop | translate | offend | drain | put | queue | unread =>
    exact ⟨by simp [endPump, pumping], by simp [endPump, pumping]⟩
  | _ => exact dialed

end Bridge

namespace Errand

variable {errand last : Errand} {actions : List Bridge.Action}

theorem act_bridge (errand : Errand) (action : Bridge.Action) :
    (errand.act action).map bridge = errand.bridge.act action := by
  cases action with
  | generate => rfl
  | _ => simp only [act, Bridge.act, Option.map_map]; exact Option.map_id'

theorem follow_bridge (errand : Errand) (actions : List Bridge.Action) :
    (follow act errand actions).map bridge = follow Bridge.act errand.bridge actions := by
  induction actions generalizing errand with
  | nil => rfl
  | cons action rest ih =>
    rw [follow, follow, ← act_bridge]
    cases errand.act action with
    | none => rfl
    | some next => exact ih next

theorem bridge_of_follow (reached : follow act errand actions = some last) :
    follow Bridge.act errand.bridge actions = some last.bridge := by
  rw [← follow_bridge, reached]
  rfl

/-- What storage was asked for after these actions of a bridge whose call is for the video. -/
structure Bound (videoId : String) (actions : List Bridge.Action) (errand : Errand) : Prop where
  used : errand.bridge.state ≠ .idle
  video : errand.videoId = some videoId
  unasked : .dialedStorage (.ok ()) ∉ actions -> errand.asked = []
  asked : .dialedStorage (.ok ()) ∈ actions -> errand.asked = [{ videoId }] /\ errand.bridge.HasDialed

namespace Bound

variable {videoId : String} {next : Errand} {action : Bridge.Action}

theorem aside (before : Bound videoId actions errand) (custody : Bridge.Custody errand.bridge)
    (step : errand.bridge.Step action next.bridge) (foreign : action ≠ .dialedStorage (.ok ()))
    (video : next.videoId = errand.videoId) (asked : next.asked = errand.asked) :
    Bound videoId (actions ++ [action]) next := by
  have same : .dialedStorage (.ok ()) ∈ actions ++ [action] <-> .dialedStorage (.ok ()) ∈ actions := by
    simp [Ne.symm foreign]
  refine ⟨step.used before.used, video.trans before.video, fun undialed => ?_, fun dialed => ?_⟩
  next => exact asked.trans (before.unasked (mt same.2 undialed))
  next =>
    obtain ⟨first, past⟩ := before.asked (same.1 dialed)
    exact ⟨asked.trans first, step.hasDialed custody past⟩

theorem act (before : Bound videoId actions errand) (custody : Bridge.Custody errand.bridge)
    (possible : errand.act action = some next) : Bound videoId (actions ++ [action]) next := by
  have moved : errand.bridge.act action = some next.bridge := by rw [← act_bridge, possible]; rfl
  have step := Bridge.step_of_act moved
  cases action with
  | generate videoIds =>
    cases possible
    exact before.aside custody step (by simp) (by simp [Errand.generate, before.used]) rfl
  | dialedStorage dialed =>
    obtain ⟨bridge, _, rfl⟩ := Option.map_eq_some_iff.1 possible
    cases dialed with
    | error fault => exact before.aside custody step (by simp) rfl (by simp [requests])
    | ok _ =>
      have dialing : errand.bridge.pump = .dialing /\ bridge.HasDialed := by
        cases step with
        | dialed dialing => exact ⟨dialing, by simp [Bridge.HasDialed]⟩
      -- A bridge that waits for its dial has not dialed before.
      have undialed : .dialedStorage (.ok ()) ∉ actions := fun earlier => (before.asked earlier).2.2 dialing.1
      refine ⟨step.used before.used, before.video, fun unmade => absurd (by simp) unmade, fun _ => ⟨?_, dialing.2⟩⟩
      simp [before.unasked undialed, requests, before.video]
  | _ =>
    simp only [Errand.act] at possible
    obtain ⟨bridge, _, rfl⟩ := Option.map_eq_some_iff.1 possible
    exact before.aside custody step (by simp) rfl rfl

end Bound

theorem bound_of_follow {spec : ImageSpec} {videoId : String} {others : List String}
    (reached : follow act { bridge := { spec } } (.generate (videoId :: others) :: actions) = some last) :
    Bound videoId actions last := by
  have begun : Bridge.Run { spec } [.generate (videoId :: others)]
      (Errand.generate { bridge := { spec } } (videoId :: others)).2.bridge := .act rfl (.done _)
  refine follow_keeps (Bound videoId) ?_ (fun done middle action next earlier before possible => ?_) reached
  next => exact ⟨by simp [Errand.generate, Bridge.generate], rfl, fun _ => rfl, fun dialed => (by cases dialed)⟩
  next =>
    have run := begun.append (Bridge.run_of_follow (bridge_of_follow earlier))
    exact before.act (Bridge.custody_of_run run) possible

end Errand

end VideoRelay
