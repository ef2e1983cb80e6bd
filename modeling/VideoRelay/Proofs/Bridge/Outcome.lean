import VideoRelay.Proofs.Bridge.Gathering
import VideoRelay.Proofs.Framing

set_option autoImplicit false

namespace VideoRelay

open Wire

namespace Bridge

variable {spec : ImageSpec} {bridge next last : Bridge} {actions : List Action} {action : Action} {fault : Fault}

theorem requestFor_error {message : StorageMessage} (refused : bridge.requestFor message = .error fault) :
    Framing.offence? bridge.order.headerSeen [message] = some fault := by
  have opened : bridge.requestFor message =
      (message.mapError .streamTransport).bind fun response => (response.frame.mapError .ofViolation).bind fun frame =>
        ((bridge.order.accept frame).mapError .ofViolation).bind fun order =>
          .ok (order, bridge.spec.request frame) := rfl
  cases message with
  | error status => simpa [opened, Except.bind, Framing.offence?] using refused
  | ok response =>
    cases response with
    | empty => simpa [opened, GetVideoResponse.frame, Except.bind, Framing.offence?] using refused
    | header video =>
      cases seen : bridge.order.headerSeen with
      | false => simp [opened, GetVideoResponse.frame, FrameGate.accept, FrameGate.header, seen, Except.bind] at refused
      | true =>
        simpa [opened, GetVideoResponse.frame, FrameGate.accept, FrameGate.header, seen, Except.bind,
          Framing.offence?] using refused
    | datagram datagram =>
      cases seen : bridge.order.headerSeen with
      | false =>
        simpa [opened, GetVideoResponse.frame, FrameGate.accept_datagram, seen, Except.bind, Framing.offence?]
          using refused
      | true => simp [opened, GetVideoResponse.frame, FrameGate.accept_datagram, seen, Except.bind] at refused

/-- The ways for the storage task to end: it is stopped, has sent the whole video, finds that the encoder does not read
on, or fails. -/
inductive Ends (bridge : Bridge) : Action -> Except Fault Unit -> Prop
  | stopped (raised : bridge.cancelled = true) : Ends bridge .pump (.ok ())
  | sent (drained : bridge.frames.items = []) (through : bridge.frames.ended = true) : Ends bridge .pump (.ok ())
  | unread (closed : bridge.call.requests.receiving = false) : Ends bridge .pump (.ok ())
  | undialed (fault : Fault) : Ends bridge (.dialedStorage (.error fault)) (.error fault)
  | unopened (status : Status) : Ends bridge (.openedVideo (.error status)) (.error (.streamTransport status))
  | offended (message : StorageMessage) (rest : List StorageMessage) (fault : Fault)
      (ready : bridge.frames.items = message :: rest)
      (offends : Framing.offence? bridge.order.headerSeen [message] = some fault) :
      Ends bridge .pump (.error fault)

theorem Step.ends {outcome : Except Fault Unit} (step : bridge.Step action next)
    (unfinished : bridge.pump.outcome? = none) (finished : next.pump.outcome? = some outcome) :
    bridge.Ends action outcome := by
  cases step with
  | stop _ raised => cases finished; exact .stopped raised
  | drain _ _ drained through => cases finished; exact .sent drained through
  | unread _ _ _ closed => cases finished; exact .unread closed
  | undialed fault => cases finished; exact .undialed fault
  | unopened status => cases finished; exact .unopened status
  | offend message rest fault _ _ ready refused =>
    cases finished
    exact .offended message rest fault ready (requestFor_error refused)
  | translate | put | queue | dialed | opened | start => cases finished
  | abandon | accepted | refused | collect | broken | complete | settle | again | needless | begin | cancel | deliver
  | endStream | unreachable | onCall => cases unfinished.symm.trans finished

/-- What the foreground can have come to by what the encoder did: the image of all replies if they end cleanly or are
torn off, and otherwise the status that they end with or that refuses the call. -/
inductive Collected (actions : List Action) : Except Fault Bytes -> Prop
  | complete (frames : List DownloadResponse) (received : replied actions = frames.map .ok)
      (ended : .onCall .endReplies ∈ actions) : Collected actions (.ok (imageOf frames))
  | tornDown (frames : List DownloadResponse) (status : Status)
      (received : replied actions = frames.map .ok ++ [.error status]) (torn : status.isTornDown = true) :
      Collected actions (.ok (imageOf frames))
  | broken (frames : List DownloadResponse) (status : Status)
      (received : replied actions = frames.map .ok ++ [.error status]) (unexpected : status.isTornDown = false) :
      Collected actions (.error (.streamTransport status))
  | refused (status : Status) (answered : .onCall (.answer (.error status)) ∈ actions) :
      Collected actions (.error (.streamTransport status))

theorem Collected.append {collected : Except Fault Bytes} (before : Collected actions collected) (later : List Action)
    (silent : replied later = []) : Collected (actions ++ later) collected := by
  have same : replied (actions ++ later) = replied actions := by rw [replied_append, silent, List.append_nil]
  cases before with
  | complete frames received ended => exact .complete frames (same.trans received) (List.mem_append_left _ ended)
  | tornDown frames status received torn => exact .tornDown frames status (same.trans received) torn
  | broken frames status received unexpected => exact .broken frames status (same.trans received) unexpected
  | refused status answered => exact .refused status (List.mem_append_left _ answered)

theorem Step.used (step : bridge.Step action next) (used : bridge.state ≠ .idle) : next.state ≠ .idle := by
  cases step with
  | settle result byCaller pumped => cases Bridge.settle result pumped <;> cases byCaller <;> simp [finish]
  | unreachable => simp [finish]
  | needless | begin => simp
  | _ => exact used

inductive Rests (bridge next : Bridge) : Prop
  | kept (foreground : next.foreground = bridge.foreground) (state : next.state = bridge.state)
  | settled (own : Option (Except Fault Bytes)) (byCaller : Bool) (pumped : Except Fault Unit)
      (joining : bridge.foreground = .joining own byCaller) (through : bridge.pump = .finished pumped)
      (same : next = bridge.finish (settle own pumped) byCaller)

theorem Step.rests (step : bridge.Step action next) (left : bridge.foreground.hasLeft = true)
    (used : bridge.state ≠ .idle) : bridge.Rests next := by
  -- The moves of a foreground at work are none of one that has left.
  have foreign (foreground : Foreground) (same : bridge.foreground = foreground)
      (there : foreground.hasLeft = false) : bridge.Rests next := by
    rw [← same, left] at there
    cases there
  cases step with
  | settle own byCaller pumped joining through => exact .settled own byCaller pumped joining through rfl
  | abandon working =>
    cases same : bridge.foreground with
    | calling | collecting => exact foreign _ same rfl
    | unused | dialing | joining | returned => rw [same] at working; cases working
  | accepted calling | refused _ calling => exact foreign _ calling rfl
  | collect _ _ _ collecting | broken _ _ _ collecting | complete _ collecting => exact foreign _ collecting rfl
  | start dialing | unreachable _ dialing => exact foreign _ dialing rfl
  | needless idle | begin _ _ idle => exact absurd idle used
  | stop | translate | offend | drain | put | queue | unread | again | cancel | dialed | undialed | opened | unopened
  | deliver | endStream | onCall => exact .kept rfl rfl

theorem Step.returned {result : Except Fault Bytes} (step : bridge.Step action next)
    (returned : bridge.foreground = .returned result) (used : bridge.state ≠ .idle) :
    next.foreground = .returned result /\ next.state = bridge.state := by
  cases step.rests (by rw [returned]; rfl) used with
  | kept foreground state => exact ⟨foreground.trans returned, state⟩
  | settled own byCaller _ joining => cases returned.symm.trans joining

theorem Step.silent (step : bridge.Step action next) (dropped : bridge.call.held = false) :
    next.call.held = false /\ replied [action] = [] := by
  cases step with
  | onCall move call _ acted =>
    have moved := Call.move_of_act acted
    refine ⟨moved.attended.held.trans dropped, ?_⟩
    cases moved with
    -- The encoder cannot reply to a call that nobody holds.
    | reply _ held => cases dropped.symm.trans held
    | answer | takeRequest | closeRequests | endReplies => rfl
  | abandon | refused | broken | complete => exact ⟨rfl, rfl⟩
  | _ => exact ⟨dropped, rfl⟩

def finalPhase (result : Except Fault Bytes) (byCaller : Bool) : BridgePhase :=
  match result with
  | .ok _ => if byCaller then .cancelled else .completed
  | .error _ => .failed

/-- A bridge that has dropped its call and waits for the storage task with this in hand, or has settled with what that
came to. -/
inductive Settles (own : Option (Except Fault Bytes)) (byCaller : Bool) (bridge : Bridge) : Prop
  | joining (dropped : bridge.call.held = false) (used : bridge.state ≠ .idle)
      (joining : bridge.foreground = .joining own byCaller)
  | returned (dropped : bridge.call.held = false) (used : bridge.state ≠ .idle) (pumped : Except Fault Unit)
      (through : bridge.pump = .finished pumped) (returned : bridge.foreground = .returned (settle own pumped))
      (state : bridge.state = finalPhase (settle own pumped) byCaller)

namespace Settles

variable {own : Option (Except Fault Bytes)} {byCaller : Bool}

theorem dropped (settles : bridge.Settles own byCaller) : bridge.call.held = false := by
  cases settles with
  | joining dropped | returned dropped => exact dropped

theorem act (before : bridge.Settles own byCaller) (step : bridge.Step action next) :
    next.Settles own byCaller := by
  have dropped := (step.silent before.dropped).1
  cases before with
  | returned _ used pumped through returned state =>
    obtain ⟨kept, same⟩ := step.returned returned used
    exact .returned dropped (step.used used) pumped (step.ended through (by simp [returned])) kept (same.trans state)
  | joining _ used joining =>
    have busy := step.used used
    cases step.rests (by rw [joining]; rfl) used with
    | kept foreground => exact .joining dropped busy (foreground.trans joining)
    | settled other caller pumped waiting through same =>
      cases waiting.symm.trans joining
      subst same
      exact .returned dropped busy pumped through rfl rfl

end Settles

inductive Leaves (actions : List Action) (bridge : Bridge) : Action -> Bridge -> Prop
  | joins (own : Option (Except Fault Bytes)) (next : Bridge)
      (collected : forall result, own = some result -> Collected actions result)
      (silent : own = none -> exists fault, bridge.pump = .finished (.error fault))
      (dropped : next.call.held = false) (joining : next.foreground = .joining own bridge.cancelled) :
      Leaves actions bridge .foreground next
  | undialed (fault : Fault) :
      Leaves actions bridge (.dialedEncoder (.error fault)) (bridge.finish (.error fault) false)

theorem Collected.leaves {collected : Except Fault Bytes} (gathered : Collected actions collected)
    (dropped : next.call.held = false) (joining : next.foreground = .joining (some collected) bridge.cancelled) :
    Leaves actions bridge .foreground next := by
  refine .joins _ next (fun result same => ?_) (fun none => (by cases none)) dropped joining
  cases same
  exact gathered

theorem Gathers.leaves (before : Gathers actions bridge) (announced : bridge.Announces) (step : bridge.Step action next)
    (used : bridge.state ≠ .idle) (there : bridge.foreground.hasLeft = false)
    (left : next.foreground.hasLeft = true) : Leaves actions bridge action next := by
  obtain ⟨taken, image, gathered⟩ := before.gathered there
  cases step with
  | abandon _ failed =>
    exact .joins none _ (fun _ some => (by cases some)) (fun _ => announced.1 failed) rfl rfl
  | refused status _ _ answered => exact Collected.leaves (.refused status (before.answered _ answered)) rfl rfl
  | complete kept collecting _ drained through =>
    obtain rfl : kept = imageOf taken := by rwa [collecting] at image
    rw [drained, List.append_nil] at gathered
    exact Collected.leaves (.complete taken gathered (before.ended through)) rfl rfl
  | broken kept status rest collecting _ ready =>
    obtain rfl : kept = imageOf taken := by rwa [collecting] at image
    -- Nothing comes after an error, so that this is the last of all replies.
    rw [ready, before.closed [] status rest ready] at gathered
    refine Collected.leaves ?_ rfl rfl
    cases torn : status.isTornDown with
    | true => exact .tornDown taken status gathered torn
    | false => exact .broken taken status gathered torn
  | unreachable fault => exact .undialed fault
  | needless idle => exact absurd idle used
  | settle _ _ _ joining => rw [joining] at there; cases there
  | accepted | collect | begin | start => cases left
  | stop | translate | offend | drain | put | queue | unread | again | cancel | dialed | undialed | opened | unopened
  | deliver | endStream | onCall => cases there.symm.trans left

theorem settles_of_run {own : Option (Except Fault Bytes)} {byCaller : Bool} {late : List Action}
    (settles : bridge.Settles own byCaller) (later : Run bridge late last) :
    last.Settles own byCaller /\ replied late = [] := by
  refine later.keeps (fun done last => last.Settles own byCaller /\ replied done = []) ⟨settles, rfl⟩ ?_
  rintro done middle action next reached ⟨settles, silent⟩ possible
  have step := step_of_act possible
  refine ⟨settles.act step, ?_⟩
  rw [replied_append, silent, (step.silent settles.dropped).2]
  rfl

theorem stays_ended {outcome : Except Fault Unit} {early late : List Action} (run : Run { spec } early bridge)
    (ended : bridge.pump = .finished outcome) (later : Run bridge late last) : last.pump = .finished outcome :=
  later.keeps (fun _ bridge => bridge.pump = .finished outcome) ended fun _ _ _ _ reached ended possible =>
    (step_of_act possible).ended ended ((custody_of_run (run.append reached)).undialing ended)

theorem ended_of_run {outcome : Except Fault Unit} (run : Run { spec } actions last)
    (ended : last.pump = .finished outcome) :
    exists early action late ending, actions = early ++ action :: late /\ Run { spec } early ending /\
      ending.Ends action outcome := by
  obtain ⟨early, action, late, ending, next, split, before, unended, possible, ends, later⟩ :=
    follow_turns (fun bridge => bridge.pump.outcome?.isSome = true) (by simp [Pump.outcome?]) (by rw [ended]; rfl)
      run.reached
  obtain ⟨first, through⟩ := Option.isSome_iff_exists.1 ends
  have stays := stays_ended (run_of_follow (follow_snoc before possible)) (Pump.outcome?_eq_some_iff.1 through)
    (run_of_follow later)
  cases ended.symm.trans stays
  exact ⟨early, action, late, ending, split, run_of_follow before, (step_of_act possible).ends (by simpa using unended)
    through⟩

/-- A run in which the foreground left the call with this of its own, and the storage task came to that. The token
counts as raised by the caller if that was done before the foreground left. -/
structure Joined (spec : ImageSpec) (actions : List Action) (own : Option (Except Fault Bytes)) (byCaller : Bool)
    (pumped : Except Fault Unit) : Prop where
  left : exists early late waiting joining, actions = early ++ .foreground :: late /\ Run { spec } early waiting /\
    waiting.act .foreground = some joining /\ waiting.foreground.hasLeft = false /\
    joining.foreground = .joining own byCaller /\ (byCaller = true <-> .cancel ∈ early)
  collected : forall result, own = some result -> Collected actions result
  silent : own = none -> exists fault, pumped = .error fault
  ended : exists early action late ending, actions = early ++ action :: late /\ Run { spec } early ending /\
    ending.Ends action pumped

inductive Outcome (spec : ImageSpec) (actions : List Action) : Except Fault Bytes -> BridgePhase -> Prop
  | undialed (fault : Fault) (dialed : .dialedEncoder (.error fault) ∈ actions) :
      Outcome spec actions (.error fault) .failed
  | image (image : Bytes) (byCaller : Bool) (joined : Joined spec actions (some (.ok image)) byCaller (.ok ())) :
      Outcome spec actions (.ok image) (if byCaller then .cancelled else .completed)
  | foreground (fault : Fault) (byCaller : Bool) (pumped : Except Fault Unit)
      (joined : Joined spec actions (some (.error fault)) byCaller pumped) :
      Outcome spec actions (.error fault) .failed
  | storage (own : Option (Except Fault Bytes)) (byCaller : Bool) (fault : Fault)
      (joined : Joined spec actions own byCaller (.error fault)) (unbroken : forall fault, own ≠ some (.error fault)) :
      Outcome spec actions (.error fault) .failed

theorem Joined.outcome {own : Option (Except Fault Bytes)} {byCaller : Bool} {pumped : Except Fault Unit}
    (joined : Joined spec actions own byCaller pumped) :
    Outcome spec actions (settle own pumped) (finalPhase (settle own pumped) byCaller) := by
  cases own with
  | none =>
    obtain ⟨fault, rfl⟩ := joined.silent rfl
    exact .storage none byCaller fault joined (by simp)
  | some result =>
    cases result with
    | error fault => cases pumped <;> exact .foreground fault byCaller _ joined
    | ok image =>
      cases pumped with
      | ok _ => exact .image image byCaller joined
      | error fault => exact .storage _ byCaller fault joined (by simp)

theorem Collected.ne_internal (text : String) : ¬ Collected actions (.error (.internal text)) := by
  intro collected
  cases collected

theorem Ends.dial {text : String} (ends : bridge.Ends action (.error (.internal text))) :
    action = .dialedStorage (.error (.internal text)) := by
  cases ends with
  | undialed => rfl
  | offended message rest _ ready offends => exact absurd offends (Framing.offence?_ne_internal _ _ text)

theorem Outcome.dials {text : String} {phase : BridgePhase}
    (outcome : Outcome spec actions (.error (.internal text)) phase) :
    .dialedEncoder (.error (.internal text)) ∈ actions \/ .dialedStorage (.error (.internal text)) ∈ actions := by
  cases outcome with
  | undialed _ dialed => exact .inl dialed
  | foreground _ _ _ joined => exact absurd (joined.collected _ rfl) (Collected.ne_internal text)
  | storage _ _ _ joined =>
    obtain ⟨early, action, late, ending, split, -, ends⟩ := joined.ended
    rw [split, ends.dial]
    exact .inr (by simp)

theorem Leaves.outcome {early late : List Action} {result : Except Fault Bytes} (run : Run { spec } early bridge)
    (used : bridge.state ≠ .idle) (there : bridge.foreground.hasLeft = false) (possible : bridge.act action = some next)
    (leaves : Leaves early bridge action next) (later : Run next late last)
    (returned : last.foreground = .returned result) : Outcome spec (early ++ action :: late) result last.state := by
  have reached : Run { spec } (early ++ [action]) next := run_of_follow (follow_snoc run.reached possible)
  have whole : Run { spec } (early ++ action :: late) last := run.append (.act possible later)
  have busy := (step_of_act possible).used used
  cases leaves with
  | undialed fault =>
    obtain ⟨kept, state⟩ : last.foreground = .returned (.error fault) /\ last.state = .failed := by
      refine later.keeps (fun _ last => last.foreground = .returned (.error fault) /\ last.state = .failed)
        ⟨rfl, rfl⟩ ?_
      rintro done middle action next - ⟨kept, state⟩ possible
      obtain ⟨foreground, same⟩ := (step_of_act possible).returned kept (by simp [state])
      exact ⟨foreground, same.trans state⟩
    cases returned.symm.trans kept
    rw [state]
    exact .undialed fault (by simp)
  | joins own _ collected silent dropped joining =>
    obtain ⟨settles, unheard⟩ := settles_of_run (.joining dropped busy joining) later
    cases settles with
    | joining _ _ waits => cases returned.symm.trans waits
    | returned _ _ pumped through settled state =>
      cases returned.symm.trans settled
      rw [state]
      refine Joined.outcome ⟨⟨early, late, bridge, next, rfl, run, possible, there, joining,
        (gathers_of_run run).raised there⟩, fun result same => ?_, fun none => ?_, ended_of_run whole through⟩
      next => exact (collected result same).append (.foreground :: late) unheard
      next =>
        obtain ⟨fault, lost⟩ := silent none
        cases through.symm.trans (stays_ended run lost (.act possible later))
        exact ⟨fault, rfl⟩

/-- Everything that a call for the first of some candidates can return, and the state in which it leaves the bridge.
That the storage read stopped without a result is never the bridge's own finding. -/
theorem generate_outcome {before after : List Action} {idle : Bridge} {videoId : String} {others : List String}
    {result : Except Fault Bytes} (run : Run { spec } before idle) (unused : idle.state = .idle)
    (later : Run (idle.generate (videoId :: others)).2 after last) (returned : last.result? = some result) :
    Outcome spec (before ++ .generate (videoId :: others) :: after) result last.state /\
      (result = .error stoppedWithoutResult ->
        .dialedEncoder (.error stoppedWithoutResult) ∈ before ++ .generate (videoId :: others) :: after \/
          .dialedStorage (.error stoppedWithoutResult) ∈ before ++ .generate (videoId :: others) :: after) := by
  have begun : (idle.generate (videoId :: others)).2 = { idle with state := .streaming, foreground := .dialing } := by
    simp [generate, unused]
  have foreground : last.foreground = .returned result := by
    unfold result? at returned
    split at returned
    next kept => cases returned; exact kept
    next => cases returned
  obtain ⟨early, action, late, waiting, next, rfl, reached, there, possible, left, rest⟩ :=
    follow_turns (fun bridge => bridge.foreground.hasLeft = true) (by simp [begun, Foreground.hasLeft])
      (by rw [foreground]; rfl) later.reached
  have waits := run_of_follow reached
  have there : waiting.foreground.hasLeft = false := by simpa using there
  have whole : Run { spec } (before ++ .generate (videoId :: others) :: early) waiting := run.append (.act rfl waits)
  have used : waiting.state ≠ .idle := waits.keeps (fun _ bridge => bridge.state ≠ .idle) (by simp [begun])
    fun _ _ _ _ _ used possible => (step_of_act possible).used used
  have leaves := (gathers_of_run whole).leaves (heeds_of_run whole).announced (step_of_act possible) used there left
  have outcome := leaves.outcome whole used there possible (run_of_follow rest) foreground
  rw [List.append_assoc, List.cons_append] at outcome
  refine ⟨outcome, ?_⟩
  rintro rfl
  exact outcome.dials

def brokenPipe : Status where
  code := .unknown
  message := "Broken pipe (os error 32)"

def clipCancelled : List Action :=
  [.dialedEncoder (.ok ()), .dialedStorage (.ok ()), .openedVideo (.ok ()), .onCall (.answer (.ok ())), .foreground,
    .onCall (.reply (.ok { datagram := some { payload := [7, 8] } })), .onCall (.reply (.ok {})), .foreground,
    .foreground, .cancel, .pump, .onCall (.reply (.error brokenPipe)), .foreground, .foreground]

theorem clip_cancelled : exists last, Run (generate {} ["a"]).2 clipCancelled last /\
    last.result? = some (.ok [7, 8]) /\ last.state = .cancelled /\
      Outcome {} (.generate ["a"] :: clipCancelled) (.ok [7, 8]) .cancelled := by
  obtain ⟨last, reached, returned, state⟩ : exists last, follow act (generate {} ["a"]).2 clipCancelled = some last /\
      last.result? = some (.ok [7, 8]) /\ last.state = .cancelled := ⟨_, rfl, rfl, rfl⟩
  have later := run_of_follow reached
  obtain ⟨outcome, -⟩ := generate_outcome (.done _) rfl later returned
  rw [state] at outcome
  exact ⟨last, later, returned, state, outcome⟩

end Bridge

end VideoRelay
