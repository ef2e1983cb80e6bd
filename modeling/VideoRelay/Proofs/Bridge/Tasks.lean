import VideoRelay.Proofs.Bridge.Mirroring
import VideoRelay.Tasks

set_option autoImplicit false

namespace VideoRelay

open Wire

namespace Bridge

variable {bridge next : Bridge}

def withCancelled (bridge : Bridge) (cancelled : Bool) : Bridge :=
  { bridge with cancelled }

def withFailed (bridge : Bridge) (storageFailed : Bool) : Bridge :=
  { bridge with storageFailed }

theorem offerRequest_withCancelled (bridge : Bridge) (cancelled : Bool) (request : GenerateThumbnailRequest) :
    (bridge.withCancelled cancelled).offerRequest request =
      (bridge.offerRequest request).map fun next => next.withCancelled cancelled := by
  simp only [offerRequest, show (bridge.withCancelled cancelled).call = bridge.call from rfl]
  split <;> rfl

theorem workPump_withCancelled (cancelled : Bool) :
    (bridge.withCancelled cancelled).workPump = bridge.workPump.map fun next => next.withCancelled cancelled := by
  have offers := bridge.offerRequest_withCancelled cancelled
  obtain ⟨spec, state, raised, storageFailed, foreground, pump, order, ⟨items, ended⟩, call⟩ := bridge
  cases pump with
  | unstarted | dialing | opening | finished => rfl
  | sending request | waiting request => exact offers request
  | reading =>
    cases items with
    | nil => cases ended <;> rfl
    | cons message rest =>
      have same : requestFor ⟨spec, state, cancelled, storageFailed, foreground, .reading, order, ⟨rest, ended⟩, call⟩
          message =
        requestFor ⟨spec, state, raised, storageFailed, foreground, .reading, order, ⟨rest, ended⟩, call⟩ message := rfl
      simp only [workPump, withCancelled, Source.next, same]
      split <;> rfl

theorem workForeground_withFailed (failed : Bool) :
    (bridge.withFailed failed).workForeground = bridge.workForeground.map fun next => next.withFailed failed := by
  unfold workForeground
  simp only [show (bridge.withFailed failed).foreground = bridge.foreground from rfl,
    show (bridge.withFailed failed).call = bridge.call from rfl]
  split
  next =>
    cases bridge.call.answer with
    | none => rfl
    | some answer => cases answer <;> rfl
  next image =>
    unfold Bridge.collect
    simp only [show (bridge.withFailed failed).call = bridge.call from rfl]
    split
    next reply _ _ => cases reply <;> rfl
    next => rfl
    next => rfl
  next => rfl

theorem reachStorage_withCancelled (cancelled : Bool) (dialed : Except Fault Unit) :
    (bridge.withCancelled cancelled).reachStorage dialed =
      (bridge.reachStorage dialed).map fun next => next.withCancelled cancelled := by
  unfold reachStorage
  simp only [show (bridge.withCancelled cancelled).pump = bridge.pump from rfl]
  split
  next => cases dialed <;> rfl
  next => rfl

theorem openVideo_withCancelled (cancelled : Bool) (opened : Except Status Unit) :
    (bridge.withCancelled cancelled).openVideo opened =
      (bridge.openVideo opened).map fun next => next.withCancelled cancelled := by
  unfold openVideo
  simp only [show (bridge.withCancelled cancelled).pump = bridge.pump from rfl]
  split
  next => cases opened <;> rfl
  next => rfl

theorem isRunning_of_workPump (moved : bridge.workPump = some next) : bridge.pump.isRunning = true := by
  cases pump : bridge.pump with
  | unstarted | finished => simp [workPump, pump] at moved
  | dialing | opening | reading | sending | waiting => rfl

theorem isRunning_of_reachStorage {dialed : Except Fault Unit} (reached : bridge.reachStorage dialed = some next) :
    bridge.pump.isRunning = true := by
  cases pump : bridge.pump with
  | dialing => rfl
  | _ => simp [reachStorage, pump] at reached

theorem isRunning_of_openVideo {opened : Except Status Unit} (answered : bridge.openVideo opened = some next) :
    bridge.pump.isRunning = true := by
  cases pump : bridge.pump with
  | opening => rfl
  | _ => simp [openVideo, pump] at answered

/-- A step of the storage task once it has looked, whether the token is raised by now or not. -/
structure Late (bridge : Bridge) (action : Action) (next : Bridge) : Prop where
  running : bridge.pump.isRunning = true
  step : (bridge.withCancelled false).Step action (next.withCancelled false)
  cancelled : next.cancelled = bridge.cancelled

theorem late_of_work {action : Action} {work : Bridge -> Option Bridge}
    (blind : forall bridge cancelled, work (bridge.withCancelled cancelled) =
      (work bridge).map fun next => next.withCancelled cancelled)
    (step : forall bridge next : Bridge, bridge.cancelled = false -> work bridge = some next ->
      bridge.Step action next)
    (running : bridge.pump.isRunning = true) (moved : work bridge = some next) : bridge.Late action next := by
  refine ⟨running, step _ _ rfl (by rw [blind, moved]; rfl), ?_⟩
  have same := blind bridge bridge.cancelled
  rw [show bridge.withCancelled bridge.cancelled = bridge from rfl, moved] at same
  have kept : next = next.withCancelled bridge.cancelled := Option.some.inj same
  exact (congrArg Bridge.cancelled kept).trans rfl

theorem late_of_workPump (moved : bridge.workPump = some next) : bridge.Late .pump next :=
  late_of_work (fun _ => workPump_withCancelled) (fun _ _ => step_workPump) (isRunning_of_workPump moved) moved

theorem late_of_reachStorage {dialed : Except Fault Unit} (reached : bridge.reachStorage dialed = some next) :
    bridge.Late (.dialedStorage dialed) next :=
  late_of_work (fun _ cancelled => reachStorage_withCancelled cancelled dialed) (fun _ _ => step_reachStorage)
    (isRunning_of_reachStorage reached) reached

theorem late_of_openVideo {opened : Except Status Unit} (answered : bridge.openVideo opened = some next) :
    bridge.Late (.openedVideo opened) next :=
  late_of_work (fun _ cancelled => openVideo_withCancelled cancelled opened) (fun _ _ => step_openVideo)
    (isRunning_of_openVideo answered) answered

theorem Custody.signals (custody : Custody bridge) (cancelled storageFailed : Bool) :
    Custody { bridge with cancelled, storageFailed } :=
  ⟨custody.used, custody.unstarted, custody.fresh, custody.senders, custody.held⟩

end Bridge

namespace Tasks

variable {tasks next : Tasks} {action : Action}

inductive Step (tasks : Tasks) : Action -> Tasks -> Prop
  | watch (uncancelled : tasks.bridge.cancelled = false) : Step tasks .lookPump { tasks with pumpLooked := true }
  | stop (running : tasks.bridge.pump.isRunning = true) (raised : tasks.bridge.cancelled = true) :
      Step tasks .lookPump { tasks with bridge := tasks.bridge.endPump (.ok ()), pumpLooked := false }
  | listen (unfailed : tasks.bridge.storageFailed = false) :
      Step tasks .lookForeground { tasks with foregroundLooked := true }
  | abandon (working : tasks.bridge.foreground.isWorking = true) (failed : tasks.bridge.storageFailed = true) :
      Step tasks .lookForeground { tasks with bridge := tasks.bridge.leaveCall none, foregroundLooked := false }
  | rest : Step tasks (.move .pump) { tasks with pumpLooked := false }
  | wait : Step tasks (.move .foreground) { tasks with foregroundLooked := false }
  | pump (action : Bridge.Action) (bridge : Bridge) (pumpLooked : Bool) (looked : tasks.pumpLooked = true)
      (late : tasks.bridge.Late action bridge) (empty : pumpLooked = true -> bridge.pump.request? = none) :
      Step tasks (.move action) { tasks with bridge, pumpLooked }
  | foreground (bridge : Bridge) (looked : tasks.foregroundLooked = true)
      (flag : bridge.storageFailed = tasks.bridge.storageFailed)
      (step : (tasks.bridge.withFailed false).Step .foreground (bridge.withFailed false)) :
      Step tasks (.move .foreground) { tasks with bridge }
  | aside (action : Bridge.Action) (bridge : Bridge) (foreign : action ≠ .pump)
      (step : tasks.bridge.Step action bridge) : Step tasks (.move action) { tasks with bridge }

theorem step_pump (moved : tasks.movePump = some next) : tasks.Step (.move .pump) next := by
  unfold movePump at moved
  split at moved
  next looked =>
    cases moved
    cases worked : tasks.bridge.workPump with
    | none => exact .rest
    | some bridge =>
      exact .pump .pump bridge false looked (Bridge.late_of_workPump worked) fun still => (by cases still)
  next => cases moved

theorem step_foreground (moved : tasks.moveForeground = some next) : tasks.Step (.move .foreground) next := by
  unfold moveForeground at moved
  split at moved
  next working =>
    split at moved
    next looked =>
      split at moved
      next bridge worked =>
        cases moved
        have blind := tasks.bridge.workForeground_withFailed
        refine .foreground bridge looked ?_ (Bridge.step_workForeground rfl (by rw [blind, worked]; rfl))
        have same := blind tasks.bridge.storageFailed
        rw [show tasks.bridge.withFailed tasks.bridge.storageFailed = tasks.bridge from rfl, worked] at same
        have kept : bridge = bridge.withFailed tasks.bridge.storageFailed := Option.some.inj same
        exact (congrArg Bridge.storageFailed kept).trans rfl
      next => cases moved; exact .wait
    next => cases moved
  next =>
    obtain ⟨bridge, joined, rfl⟩ := Option.map_eq_some_iff.1 moved
    exact .aside .foreground bridge (by simp) (Bridge.step_join joined)

theorem step_dialedStorage {dialed : Except Fault Unit} (moved : tasks.dialedStorage dialed = some next) :
    tasks.Step (.move (.dialedStorage dialed)) next := by
  unfold dialedStorage at moved
  split at moved
  next looked =>
    obtain ⟨bridge, reached, rfl⟩ := Option.map_eq_some_iff.1 moved
    refine .pump _ bridge tasks.pumpLooked looked (Bridge.late_of_reachStorage reached) fun _ => ?_
    unfold Bridge.reachStorage at reached
    split at reached
    next => cases dialed <;> cases reached <;> rfl
    next => cases reached
  next => cases moved

theorem step_openedVideo {opened : Except Status Unit} (moved : tasks.openedVideo opened = some next) :
    tasks.Step (.move (.openedVideo opened)) next := by
  unfold openedVideo at moved
  split at moved
  next looked =>
    obtain ⟨bridge, answered, rfl⟩ := Option.map_eq_some_iff.1 moved
    exact .pump _ bridge false looked (Bridge.late_of_openVideo answered) fun still => (by cases still)
  next => cases moved

theorem step_of_act (moved : tasks.act action = some next) : tasks.Step action next := by
  have aside (action : Bridge.Action) (foreign : action ≠ .pump)
      (moved : (tasks.bridge.act action).map (fun bridge => { tasks with bridge }) = some next) :
      tasks.Step (.move action) next := by
    obtain ⟨bridge, acted, rfl⟩ := Option.map_eq_some_iff.1 moved
    exact .aside action bridge foreign (Bridge.step_of_act acted)
  cases action with
  | lookPump =>
    simp only [act, lookPump] at moved
    split at moved
    next running =>
      split at moved
      next raised => cases moved; exact .stop running raised
      next uncancelled => cases moved; exact .watch (eq_false_of_ne_true uncancelled)
    next => cases moved
  | lookForeground =>
    simp only [act, lookForeground] at moved
    split at moved
    next working =>
      split at moved
      next failed => cases moved; exact .abandon working failed
      next unfailed => cases moved; exact .listen (eq_false_of_ne_true unfailed)
    next => cases moved
  | move action =>
    cases action with
    | pump => exact step_pump moved
    | foreground => exact step_foreground moved
    | dialedStorage dialed => exact step_dialedStorage moved
    | openedVideo opened => exact step_openedVideo moved
    | generate | cancel | deliver | endStream | dialedEncoder | onCall => exact aside _ (by simp) moved

theorem Step.custody (step : tasks.Step action next) (before : Bridge.Custody tasks.bridge) :
    Bridge.Custody next.bridge := by
  cases step with
  | watch | listen | rest | wait => exact before
  | stop running =>
    show Bridge.Custody (tasks.bridge.endPump (.ok ()))
    exact before.endPump running
  | abandon working => exact before.leaveCall working
  | pump _ bridge _ _ late =>
    have moved := (before.signals false tasks.bridge.storageFailed).act late.step
    exact moved.signals bridge.cancelled bridge.storageFailed
  | foreground bridge _ _ step =>
    have moved := (before.signals tasks.bridge.cancelled false).act step
    exact moved.signals bridge.cancelled bridge.storageFailed
  | aside _ _ _ step => exact before.act step

theorem custody_of_follow {spec : ImageSpec} {actions : List Action}
    (reached : follow act { bridge := { spec } } actions = some tasks) : Bridge.Custody tasks.bridge :=
  follow_keeps (fun _ tasks => Bridge.Custody tasks.bridge) (Bridge.custody_of_run (.done _))
    (fun _ _ _ _ _ before possible => (step_of_act possible).custody before) reached

def requestsSent : Tasks -> List Action -> List GenerateThumbnailRequest :=
  trace act fun before after => before.bridge.requestArrival after.bridge

/-- What a task does that is not disturbed between its look and what comes of it. -/
def turn (bridge : Bridge) : Bridge.Action -> List Action
  | .pump => if bridge.cancelled then [.lookPump] else [.lookPump, .move .pump]
  | .foreground =>
    if bridge.foreground.isWorking then
      if bridge.storageFailed then [.lookForeground] else [.lookForeground, .move .foreground]
    else [.move .foreground]
  | .dialedStorage dialed => [.lookPump, .move (.dialedStorage dialed)]
  | .openedVideo opened => [.lookPump, .move (.openedVideo opened)]
  | action => [.move action]

def Makes (tasks : Tasks) (actions : List Action) (bridge : Bridge) : Prop :=
  exists next, follow act tasks actions = some next /\ next.bridge = bridge /\
    tasks.requestsSent actions = tasks.bridge.requestArrival bridge

theorem makes_of_act {action : Action} (possible : tasks.act action = some next) :
    tasks.Makes [action] next.bridge :=
  ⟨next, by simp [follow, possible], rfl, by simp [requestsSent, trace, possible]⟩

theorem makes_of_look {look action : Action} {looked : Tasks} (looks : tasks.act look = some looked)
    (same : looked.bridge = tasks.bridge) (possible : looked.act action = some next) :
    tasks.Makes [look, action] next.bridge := by
  refine ⟨next, by simp [follow, looks, possible], rfl, ?_⟩
  simp [requestsSent, trace, looks, possible, same]

/-- The look finds nothing, and what is possible for the bridge is possible after it. -/
theorem makes_of_watch {action : Bridge.Action} (running : tasks.bridge.pump.isRunning = true)
    (uncancelled : tasks.bridge.cancelled = false)
    (moves : { tasks with pumpLooked := true }.act (.move action) = some next) :
    tasks.Makes [.lookPump, .move action] next.bridge := by
  have looks : tasks.act .lookPump = some { tasks with pumpLooked := true } := by
    simp [act, lookPump, running, uncancelled]
  exact makes_of_look looks rfl moves

theorem makes_of_aside {action : Bridge.Action} {bridge : Bridge}
    (acts : tasks.act (.move action) = (tasks.bridge.act action).map fun bridge => { tasks with bridge })
    (possible : tasks.bridge.act action = some bridge) : tasks.Makes [.move action] bridge :=
  makes_of_act (acts.trans (congrArg _ possible))

theorem makes_of_stepPump {bridge : Bridge} (possible : tasks.bridge.stepPump = some bridge) :
    tasks.Makes (turn tasks.bridge .pump) bridge := by
  unfold Bridge.stepPump at possible
  split at possible
  next running =>
    cases cancelled : tasks.bridge.cancelled with
    | true =>
      simp only [cancelled, ↓reduceIte] at possible
      cases possible
      have stops : tasks.act .lookPump =
          some { tasks with bridge := tasks.bridge.endPump (.ok ()), pumpLooked := false } := by
        simp [act, lookPump, running, cancelled]
      simpa [turn, cancelled] using makes_of_act stops
    | false =>
      simp only [cancelled, Bool.false_eq_true, ↓reduceIte] at possible
      have moves : { tasks with pumpLooked := true }.act (.move .pump) =
          some { tasks with bridge, pumpLooked := false } := by
        simp [act, movePump, possible]
      simpa [turn, cancelled] using makes_of_watch running cancelled moves
  next => cases possible

theorem makes_of_stepForeground {bridge : Bridge} (possible : tasks.bridge.stepForeground = some bridge) :
    tasks.Makes (turn tasks.bridge .foreground) bridge := by
  have stepped := possible
  unfold Bridge.stepForeground at possible
  split at possible
  next working =>
    cases failed : tasks.bridge.storageFailed with
    | true =>
      simp only [failed, ↓reduceIte] at possible
      cases possible
      have leaves : tasks.act .lookForeground =
          some { tasks with bridge := tasks.bridge.leaveCall none, foregroundLooked := false } := by
        simp [act, lookForeground, working, failed]
      simpa [turn, working, failed] using makes_of_act leaves
    | false =>
      simp only [failed, Bool.false_eq_true, ↓reduceIte] at possible
      have looks : tasks.act .lookForeground = some { tasks with foregroundLooked := true } := by
        simp [act, lookForeground, working, failed]
      have moves : { tasks with foregroundLooked := true }.act (.move .foreground) =
          some { tasks with bridge, foregroundLooked := true } := by
        simp [act, moveForeground, working, possible]
      simpa [turn, working, failed] using makes_of_look looks rfl moves
  next idle =>
    have acts : tasks.act (.move .foreground) =
        (tasks.bridge.act .foreground).map fun bridge => { tasks with bridge } := by
      simp [act, moveForeground, idle, Bridge.act, Bridge.stepForeground]
    simpa [turn, idle] using makes_of_aside acts stepped

theorem makes_of_turn {action : Bridge.Action} {bridge : Bridge} (possible : tasks.bridge.act action = some bridge) :
    tasks.Makes (turn tasks.bridge action) bridge := by
  cases action with
  | pump => exact makes_of_stepPump possible
  | foreground => exact makes_of_stepForeground possible
  | dialedStorage dialed =>
    simp only [Bridge.act, Bridge.dialedStorage] at possible
    split at possible
    next => cases possible
    next uncancelled =>
      have moves : { tasks with pumpLooked := true }.act (.move (.dialedStorage dialed)) =
          some { tasks with pumpLooked := true, bridge } := by
        simp [act, dialedStorage, possible]
      exact makes_of_watch (Bridge.isRunning_of_reachStorage possible) (eq_false_of_ne_true uncancelled) moves
  | openedVideo opened =>
    simp only [Bridge.act, Bridge.openedVideo] at possible
    split at possible
    next => cases possible
    next uncancelled =>
      have moves : { tasks with pumpLooked := true }.act (.move (.openedVideo opened)) =
          some { tasks with pumpLooked := false, bridge } := by
        simp [act, openedVideo, possible]
      exact makes_of_watch (Bridge.isRunning_of_openVideo possible) (eq_false_of_ne_true uncancelled) moves
  | generate | cancel | deliver | endStream | dialedEncoder | onCall => exact makes_of_aside rfl possible

/-- Every run of the bridge is one of its tasks in which nobody disturbs a turn. -/
theorem turns_of_run {first last : Bridge} {actions : List Bridge.Action} (run : Bridge.Run first actions last)
    (same : tasks.bridge = first) :
    exists next, follow act tasks (chronicle Bridge.act turn first actions) = some next /\ next.bridge = last /\
      tasks.requestsSent (chronicle Bridge.act turn first actions) = first.requestsSent actions := by
  induction run generalizing tasks with
  | done => exact ⟨tasks, rfl, same, rfl⟩
  | @act first next last action rest possible _ ih =>
    subst same
    obtain ⟨middle, made, same, sent⟩ := makes_of_turn possible
    obtain ⟨last, later, reached, further⟩ := ih same
    refine ⟨last, ?_, reached, ?_⟩
    next => simp [chronicle, possible, follow_append, made, later]
    next =>
      have whole := trace_append (fun before after : Tasks => before.bridge.requestArrival after.bridge) made
        (chronicle Bridge.act turn next rest)
      simp only [requestsSent] at whole sent further ⊢
      simp only [chronicle, possible, whole, sent, further, Bridge.requestsSent, trace]

end Tasks

end VideoRelay
