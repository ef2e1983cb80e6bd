import VideoRelay.Proofs.Bridge.Tasks

set_option autoImplicit false

namespace VideoRelay

open Wire

namespace Bridge

variable {spec : ImageSpec} {bridge next : Bridge} {action : Action} {messages : List StorageMessage}
  {sent : List GenerateThumbnailRequest}

theorem Mirrors.raised (mirrors : Mirrors spec messages sent (bridge.withCancelled false)) :
    Mirrors spec messages sent bridge := by
  have kept := mirrors.finished
  refine ⟨mirrors.asked, mirrors.running, fun through => ?_, mirrors.ended, mirrors.unopened, mirrors.served⟩
  exact (kept through).imp_right fun complete _ => complete rfl

theorem Mirrors.late (mirrors : Mirrors spec messages sent bridge) (custody : Custody bridge)
    (late : bridge.Late action next) :
    Mirrors spec (messages ++ action.message?.toList) (sent ++ bridge.requestArrival next) next := by
  -- While the task runs, what is owed does not depend on the token.
  have unfinished := Pump.unfinished_of_isRunning late.running
  have lowered : Mirrors spec messages sent (bridge.withCancelled false) :=
    ⟨mirrors.asked, mirrors.running, fun through => absurd through (by simp [withCancelled, unfinished]),
      mirrors.ended, mirrors.unopened, mirrors.served⟩
  exact (lowered.act (custody.signals false bridge.storageFailed) late.step).raised

theorem Mirrors.signals (mirrors : Mirrors spec messages sent bridge) (storageFailed : Bool) :
    Mirrors spec messages sent (bridge.withFailed storageFailed) :=
  ⟨mirrors.asked, mirrors.running, mirrors.finished, mirrors.ended, mirrors.unopened, mirrors.served⟩

theorem Step.cancelled (step : bridge.Step action next) (raised : bridge.cancelled = true) : next.cancelled = true := by
  cases step with
  | abandon | refused | broken | complete | cancel => rfl
  | _ => exact raised

theorem Step.puts (step : bridge.Step action next) :
    bridge.requestArrival next <+: bridge.pump.request?.toList := by
  have quiet (same : next.call.requests.place = bridge.call.requests.place) :
      bridge.requestArrival next <+: bridge.pump.request?.toList := by
    rw [show bridge.requestArrival next = [] from Channel.arrival_of_same same]
    exact List.nil_prefix
  cases step with
  | put request offered =>
    rw [offered]
    unfold requestArrival Channel.arrival
    split
    next => exact List.prefix_rfl
    next => exact List.nil_prefix
  | onCall _ call _ acted =>
    rw [show bridge.requestArrival { bridge with call } = [] from (Call.attended_of_act acted).requests.arrival]
    exact List.nil_prefix
  | _ => exact quiet rfl

theorem Step.aside (step : bridge.Step action next) (foreign : action ≠ .pump) :
    bridge.requestArrival next = [] /\ next.pump.request?.toList <+: bridge.pump.request?.toList := by
  have quiet (same : next.call.requests.place = bridge.call.requests.place) (pump : next.pump = bridge.pump) :
      bridge.requestArrival next = [] /\ next.pump.request?.toList <+: bridge.pump.request?.toList :=
    ⟨Channel.arrival_of_same same, ⟨[], by rw [pump, List.append_nil]⟩⟩
  cases step with
  | stop | translate | offend | drain | put | queue | unread => exact absurd rfl foreign
  | dialed | undialed | opened | unopened | start => exact ⟨Channel.arrival_of_same rfl, List.nil_prefix⟩
  | onCall _ _ _ acted => exact ⟨(Call.attended_of_act acted).requests.arrival, List.prefix_rfl⟩
  | abandon | accepted | refused | collect | broken | complete | settle | again | needless | begin | cancel | deliver
  | endStream | unreachable => exact quiet rfl rfl

theorem Step.through (step : bridge.Step action next) (ended : bridge.frames.ended = true \/ action = .endStream) :
    next.frames.ended = true := by
  cases step with
  | endStream => rfl
  | _ => exact ended.resolve_right (by simp)

end Bridge

namespace Tasks

variable {spec : ImageSpec} {tasks next last : Tasks} {action : Action} {actions before after : List Action}
  {messages : List StorageMessage} {sent : List GenerateThumbnailRequest}

def Action.message? : Action -> Option StorageMessage
  | move action => action.message?
  | lookPump | lookForeground => none

def delivered (actions : List Action) : List StorageMessage :=
  actions.filterMap Action.message?

theorem Step.mirrors (step : tasks.Step action next) (custody : Bridge.Custody tasks.bridge)
    (before : Bridge.Mirrors spec messages sent tasks.bridge) :
    Bridge.Mirrors spec (messages ++ action.message?.toList) (sent ++ tasks.bridge.requestArrival next.bridge)
      next.bridge := by
  cases step with
  | watch | listen | rest | wait => simpa [Action.message?, Bridge.Action.message?] using before
  | stop running raised => exact before.act custody (.stop running raised)
  | abandon working failed => exact before.act custody (.abandon working failed)
  | pump _ bridge _ _ late => exact before.late custody late
  | foreground bridge _ _ step =>
    have moved := (before.signals false).act (custody.signals tasks.bridge.cancelled false) step
    exact moved.signals bridge.storageFailed
  | aside action bridge _ step => exact before.act custody step

theorem mirrors_of_follow (reached : follow act { bridge := { spec } } actions = some tasks) :
    Bridge.Mirrors spec (delivered actions) (requestsSent { bridge := { spec } } actions) tasks.bridge := by
  refine follow_keeps (fun done (tasks : Tasks) => Bridge.Mirrors spec (delivered done)
    (requestsSent { bridge := { spec } } done) tasks.bridge) ?_ ?_ reached
  next => exact Bridge.mirrors_initial spec
  next =>
    intro done middle action next reached before possible
    have told : delivered (done ++ [action]) = delivered done ++ action.message?.toList := by
      cases told : action.message? <;> simp [delivered, told]
    rw [told, requestsSent, trace_snoc _ reached possible]
    exact (step_of_act possible).mirrors (custody_of_follow reached) before

theorem Step.through (step : tasks.Step action next)
    (ended : tasks.bridge.frames.ended = true \/ action = .move .endStream) : next.bridge.frames.ended = true := by
  cases step with
  | watch | listen | rest | wait | stop | abandon => exact ended.resolve_right (by simp)
  | pump _ _ _ _ late => exact late.step.through (ended.imp_right Action.move.inj)
  | foreground _ _ _ step => exact step.through (ended.imp_right Action.move.inj)
  | aside _ _ _ step => exact step.through (ended.imp_right Action.move.inj)

theorem ended_of_follow {first : Tasks} (reached : follow act first actions = some tasks)
    (told : .move .endStream ∈ actions) : tasks.bridge.frames.ended = true := by
  refine follow_keeps (fun done (tasks : Tasks) => .move .endStream ∈ done -> tasks.bridge.frames.ended = true)
    (by simp) ?_ reached told
  intro done middle action next _ before possible told
  refine (step_of_act possible).through ?_
  exact (List.mem_append.1 told).imp before fun last => (List.mem_singleton.1 last).symm

/-- The request that the storage task was about to send when it last looked at the token. -/
def inHand (tasks : Tasks) : List GenerateThumbnailRequest :=
  if tasks.pumpLooked then tasks.bridge.pump.request?.toList else []

theorem inHand_prefix (bridge : Bridge) (pumpLooked foregroundLooked : Bool) (looked : tasks.pumpLooked = pumpLooked)
    (pump : bridge.pump.request?.toList <+: tasks.bridge.pump.request?.toList) :
    inHand { bridge, pumpLooked, foregroundLooked } <+: tasks.inHand := by
  subst looked
  unfold inHand
  split
  next => exact pump
  next => exact List.nil_prefix

theorem Step.narrows (step : tasks.Step action next) (raised : tasks.bridge.cancelled = true) :
    next.bridge.cancelled = true /\ tasks.bridge.requestArrival next.bridge ++ next.inHand <+: tasks.inHand := by
  cases step with
  | watch uncancelled => cases uncancelled.symm.trans raised
  | stop running raised =>
    refine ⟨raised, ?_⟩
    rw [Bridge.requestArrival_endPump]
    exact List.nil_prefix
  | listen | wait =>
    refine ⟨raised, ?_⟩
    rw [Bridge.requestArrival_self]
    exact inHand_prefix _ _ _ rfl List.prefix_rfl
  | abandon working failed =>
    refine ⟨rfl, ?_⟩
    obtain ⟨quiet, pump⟩ := (Bridge.Step.abandon working failed).aside (by simp)
    rw [quiet]
    exact inHand_prefix _ _ _ rfl pump
  | rest =>
    refine ⟨raised, ?_⟩
    rw [Bridge.requestArrival_self]
    exact List.nil_prefix
  | pump _ bridge pumpLooked looked late empty =>
    refine ⟨late.cancelled.trans raised, ?_⟩
    have spent : inHand { tasks with bridge, pumpLooked } = [] := by
      cases pumpLooked with
      | false => rfl
      | true => simp [inHand, empty rfl]
    rw [spent, List.append_nil, inHand, looked]
    exact late.step.puts
  | foreground bridge _ _ step =>
    obtain ⟨quiet, pump⟩ := step.aside (by simp)
    refine ⟨?_, ?_⟩
    next => exact step.cancelled raised
    next =>
      rw [show tasks.bridge.requestArrival bridge = [] from quiet]
      exact inHand_prefix _ _ _ rfl pump
  | aside _ bridge foreign step =>
    obtain ⟨quiet, pump⟩ := step.aside foreign
    refine ⟨step.cancelled raised, ?_⟩
    rw [quiet]
    exact inHand_prefix _ _ _ rfl pump

theorem sent_of_cancelled (later : follow act tasks after = some last) (raised : tasks.bridge.cancelled = true) :
    tasks.requestsSent after <+: tasks.inHand := by
  have narrowed : last.bridge.cancelled = true /\ tasks.requestsSent after ++ last.inHand <+: tasks.inHand := by
    refine follow_keeps (fun done last => last.bridge.cancelled = true /\
      tasks.requestsSent done ++ last.inHand <+: tasks.inHand) ⟨raised, List.prefix_rfl⟩ ?_ later
    rintro done middle action next reached ⟨raised, before⟩ possible
    obtain ⟨still, narrower⟩ := (step_of_act possible).narrows raised
    refine ⟨still, ?_⟩
    rw [requestsSent, trace_snoc _ reached possible, List.append_assoc]
    exact ((List.prefix_append_right_inj _).2 narrower).trans before
  exact (List.prefix_append _ _).trans narrowed.2

inductive Action.Uploads : Action -> Prop
  | look : Uploads .lookPump
  | pump : Uploads (.move .pump)
  | take (request : GenerateThumbnailRequest) : Uploads (.move (.onCall (.takeRequest request)))

/-- Left to themselves the storage task and the encoder change nothing any more. -/
def AtRest (tasks : Tasks) : Prop :=
  forall moves next, (forall move, move ∈ moves -> move.Uploads) -> follow act tasks moves = some next ->
    next.bridge = tasks.bridge

theorem uploads_of_turn {bridge : Bridge} {action : Bridge.Action} (uploads : action.Uploads) {move : Action}
    (among : move ∈ turn bridge action) : move.Uploads := by
  cases uploads with
  | take request =>
    obtain rfl : move = .move (.onCall (.takeRequest request)) := by simpa [turn] using among
    exact .take request
  | pump =>
    have turns : move = .lookPump \/ move = .move .pump := by
      cases cancelled : bridge.cancelled with
      | true => exact .inl (by simpa [turn, cancelled] using among)
      | false => simpa [turn, cancelled] using among
    rcases turns with rfl | rfl
    next => exact .look
    next => exact .pump

theorem stuck_of_atRest (rests : tasks.AtRest) (mirrors : Bridge.Mirrors spec messages sent tasks.bridge)
    {action : Bridge.Action} (uploads : action.Uploads) : tasks.bridge.act action = none := by
  cases possible : tasks.bridge.act action with
  | none => rfl
  | some bridge =>
    obtain ⟨next, reached, rfl, -⟩ := makes_of_turn possible
    have smaller := (mirrors.shrinks uploads (Bridge.step_of_act possible)).1
    rw [rests _ next (fun move among => uploads_of_turn uploads among) reached] at smaller
    exact absurd smaller (Nat.lt_irrefl _)

theorem delivered_of_uploads (uploads : forall action, action ∈ actions -> action.Uploads) :
    delivered actions = [] := by
  rw [delivered, List.filterMap_eq_nil_iff]
  intro action among
  cases uploads action among <;> rfl

/-- The requests of a bridge are a beginning of those for the video. Once the token is raised none is added but the one
that the storage task was about to send when it looked. If the whole video has come, nothing was stopped and the encoder
reads on, then all of them are sent: the storage task and the encoder can get there, and once these two have come to
rest nothing else can have happened. -/
theorem requests_mirror (run : follow act { bridge := { spec } } before = some tasks)
    (later : follow act tasks after = some last) :
    requestsSent { bridge := { spec } } (before ++ after) <+: spec.mirror false (delivered (before ++ after)) /\
      (tasks.bridge.cancelled = true -> tasks.requestsSent after <+: tasks.inHand) /\
      (.move .endStream ∈ before ++ after -> last.bridge.cancelled = false ->
        last.bridge.call.requests.receiving = true ->
        (exists moves final, (forall move, move ∈ moves -> move.Uploads) /\ follow act last moves = some final /\
          requestsSent { bridge := { spec } } (before ++ after ++ moves) =
            spec.mirror false (delivered (before ++ after))) /\
        (last.AtRest -> requestsSent { bridge := { spec } } (before ++ after) =
          spec.mirror false (delivered (before ++ after)))) := by
  have whole : follow act { bridge := { spec } } (before ++ after) = some last := by
    rw [follow_append, run]
    exact later
  refine ⟨(mirrors_of_follow whole).begun, sent_of_cancelled later, ?_⟩
  intro through uncancelled unclosed
  have mirrors := mirrors_of_follow whole
  have custody := custody_of_follow whole
  have ended := ended_of_follow whole through
  refine ⟨?_, fun rests => ?_⟩
  next =>
    obtain ⟨actions, final, uploads, toFinal, still, listening, stuck⟩ := mirrors.rests custody uncancelled unclosed
    obtain ⟨next, reached, rfl, -⟩ := turns_of_run toFinal rfl
    have uploads : forall move, move ∈ chronicle Bridge.act turn last.bridge actions -> move.Uploads := by
      intro move among
      obtain ⟨early, action, late, middle, rfl, -, among⟩ := (mem_chronicle_iff turn toFinal.reached).1 among
      exact uploads_of_turn (uploads action (by simp)) among
    refine ⟨_, next, uploads, reached, ?_⟩
    have further : follow act { bridge := { spec } }
        (before ++ after ++ chronicle Bridge.act turn last.bridge actions) = some next := by
      rw [follow_append, whole]
      exact reached
    have mirrors := mirrors_of_follow further
    have ended := ended_of_follow further (List.mem_append_left _ through)
    rw [(mirrors.finished (mirrors.stuck ended still stuck)).2 still listening, delivered, List.filterMap_append]
    exact congrArg _ ((congrArg _ (delivered_of_uploads uploads)).trans (List.append_nil _))
  next =>
    have through := mirrors.stuck ended uncancelled fun action uploads => stuck_of_atRest rests mirrors uploads
    exact (mirrors.finished through).2 uncancelled unclosed

def clipStored : List Action :=
  [.move (.generate ["a"]), .move (.dialedEncoder (.ok ())), .lookPump, .move (.dialedStorage (.ok ())),
    .move (.openedVideo (.ok ()))] ++
    (Framing.framed clip clipDatagrams).map (fun message => .move (.deliver message)) ++ [.move .endStream]

/-- The token is raised between the look of the storage task and its send. -/
def clipCaught : List Action :=
  clipStored ++ [.lookPump, .move .pump, .lookPump, .move .cancel]

def clipHeader : GenerateThumbnailRequest :=
  .header { totalLength := 3, outputFormat := 0, width := 1280, height := 720, position := 30 }

theorem clip_mirrored :
    (exists last moves final, follow act {} clipStored = some last /\ follow act last moves = some final /\
      requestsSent {} (clipStored ++ moves) = clipHeader :: clipDatagrams.map .datagram) /\
    exists tasks last, follow act {} clipCaught = some tasks /\ tasks.bridge.cancelled = true /\
      follow act tasks [.move .pump, .lookPump] = some last /\
      tasks.requestsSent [.move .pump, .lookPump] <+: [clipHeader] := by
  refine ⟨?_, ?_⟩
  next =>
    obtain ⟨last, reached, uncancelled, unclosed⟩ : exists last, follow act {} clipStored = some last /\
        last.bridge.cancelled = false /\ last.bridge.call.requests.receiving = true := ⟨_, rfl, rfl, rfl⟩
    have later : follow act last [] = some last := rfl
    obtain ⟨-, -, complete⟩ := requests_mirror reached later
    rw [List.append_nil] at complete
    obtain ⟨⟨moves, final, -, later, sent⟩, -⟩ := complete (by simp [clipStored]) uncancelled unclosed
    have framed : delivered clipStored = Framing.framed clip clipDatagrams := rfl
    rw [framed, ImageSpec.mirror_framed] at sent
    exact ⟨last, moves, final, reached, later, sent⟩
  next =>
    obtain ⟨tasks, last, reached, raised, hand, later⟩ : exists tasks last, follow act {} clipCaught = some tasks /\
        tasks.bridge.cancelled = true /\ tasks.inHand = [clipHeader] /\
        follow act tasks [.move .pump, .lookPump] = some last := ⟨_, _, rfl, rfl, rfl, rfl⟩
    obtain ⟨-, narrowed, -⟩ := requests_mirror reached later
    exact ⟨tasks, last, reached, raised, later, hand ▸ narrowed raised⟩

theorem raised_token_passed : exists tasks last, follow act {} clipCaught = some tasks /\
    tasks.bridge.cancelled = true /\ follow act tasks [.move .pump] = some last /\
    tasks.requestsSent [.move .pump] = [clipHeader] :=
  ⟨_, _, rfl, rfl, rfl, rfl⟩

end Tasks

end VideoRelay
