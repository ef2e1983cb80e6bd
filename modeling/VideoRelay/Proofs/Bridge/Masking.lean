import VideoRelay.Bridge
import VideoRelay.Proofs.Masking

set_option autoImplicit false

namespace VideoRelay

open Wire

def Foreground.masked : Foreground -> Foreground
  | joining result byCaller => joining (result.map maskFault) byCaller
  | returned result => returned (maskFault result)
  | unused => unused
  | dialing => dialing
  | calling => calling
  | collecting image => collecting image

def Pump.masked : Pump -> Pump
  | finished outcome => finished (maskFault outcome)
  | unstarted => unstarted
  | dialing => dialing
  | opening => opening
  | reading => reading
  | sending request => sending request
  | waiting request => waiting request

@[simp]
theorem Foreground.masked_masked (foreground : Foreground) : foreground.masked.masked = foreground.masked := by
  cases foreground <;> simp [masked, Function.comp_def]

@[simp]
theorem Pump.masked_masked (pump : Pump) : pump.masked.masked = pump.masked := by
  cases pump <;> simp [masked]

namespace Bridge

def masked (bridge : Bridge) : Bridge :=
  { bridge with
    foreground := bridge.foreground.masked
    pump := bridge.pump.masked
    frames := bridge.frames.masked
    call := bridge.call.masked }

def Action.masked : Action -> Action
  | dialedStorage dialed => dialedStorage (maskFault dialed)
  | openedVideo opened => openedVideo (maskStatus opened)
  | deliver message => deliver (maskStatus message)
  | dialedEncoder dialed => dialedEncoder (maskFault dialed)
  | onCall action => onCall action.masked
  | action => action

variable (bridge : Bridge)

@[simp]
theorem masked_masked : bridge.masked.masked = bridge.masked := by
  simp [masked]

theorem result?_masked : bridge.masked.result? = bridge.result?.map maskFault := by
  obtain ⟨spec, state, cancelled, storageFailed, foreground, pump, order, frames, call⟩ := bridge
  cases foreground <;> rfl

theorem leaveCall_masked (result : Option (Except Fault Bytes)) :
    bridge.masked.leaveCall (result.map maskFault) = (bridge.leaveCall result).masked := rfl

theorem finish_masked (result : Except Fault Bytes) (byCaller : Bool) :
    bridge.masked.finish (maskFault result) byCaller = (bridge.finish result byCaller).masked := by
  cases result <;> rfl

theorem endPump_masked (outcome : Except Fault Unit) :
    bridge.masked.endPump (maskFault outcome) = (bridge.endPump outcome).masked := by
  cases outcome <;> rfl

theorem maskFault_settle (result : Option (Except Fault Bytes)) (pumped : Except Fault Unit) :
    maskFault (settle (result.map maskFault) (maskFault pumped)) = maskFault (settle result pumped) := by
  rcases result with - | fault | image
  next => cases pumped <;> simp [settle]
  next => simp [settle]
  next => cases pumped <;> simp [settle]

theorem endPump_alike {outcome other : Except Fault Unit} (alike : maskFault outcome = maskFault other) :
    (bridge.masked.endPump outcome).masked = (bridge.endPump other).masked := by
  rw [← endPump_masked, ← endPump_masked, masked_masked, alike]

theorem leaveCall_alike {result other : Option (Except Fault Bytes)}
    (alike : result.map maskFault = other.map maskFault) :
    (bridge.masked.leaveCall result).masked = (bridge.leaveCall other).masked := by
  rw [← leaveCall_masked, ← leaveCall_masked, masked_masked, alike]

theorem finish_alike {result other : Except Fault Bytes} (byCaller : Bool)
    (alike : maskFault result = maskFault other) :
    (bridge.masked.finish result byCaller).masked = (bridge.finish other byCaller).masked := by
  rw [← finish_masked, ← finish_masked, masked_masked, alike]

theorem requestFor_masked (message : StorageMessage) :
    maskFault (bridge.masked.requestFor (maskStatus message)) = maskFault (bridge.requestFor message) := by
  cases message with
  | error status => rfl
  | ok response => rfl

theorem collect_masked (image : Bytes) :
    (bridge.masked.collect image).map masked = (bridge.collect image).map masked := by
  obtain ⟨spec, state, cancelled, storageFailed, foreground, pump, order, frames, call⟩ := bridge
  obtain ⟨requests, answer, ⟨items, ended⟩, done, held⟩ := call
  rcases items with - | ⟨status | reply, rest⟩
  next =>
    cases ended with
    | false => rfl
    | true => exact congrArg some (leaveCall_alike _ rfl)
  next =>
    -- Whether the image counts as whole is all that the status decides.
    have judged : (some (if status.masked.isTornDown then .ok image
          else .error (.streamTransport status.masked))).map maskFault =
        (some (if status.isTornDown then .ok image else .error (.streamTransport status))).map maskFault := by
      rw [Status.isTornDown_masked]
      split <;> rfl
    exact congrArg some (leaveCall_alike ⟨spec, state, cancelled, storageFailed, foreground, pump, order, frames,
      ⟨requests, answer, ⟨rest, ended⟩, done, held⟩⟩ judged)
  next => simp [collect, masked, Call.masked, Source.masked, Source.next, Foreground.masked, Function.comp_def]

theorem workForeground_masked : bridge.masked.workForeground.map masked = bridge.workForeground.map masked := by
  obtain ⟨spec, state, cancelled, storageFailed, foreground, pump, order, frames, call⟩ := bridge
  cases foreground with
  | unused | dialing | joining | returned => rfl
  | calling =>
    obtain ⟨requests, answer, replies, done, held⟩ := call
    rcases answer with - | status | -
    next => rfl
    next => exact congrArg some (leaveCall_alike _ rfl)
    next => simp [workForeground, masked, Foreground.masked, Call.masked]
  | collecting image => exact collect_masked _ image

theorem join_masked : bridge.masked.join.map masked = bridge.join.map masked := by
  obtain ⟨spec, state, cancelled, storageFailed, foreground, pump, order, frames, call⟩ := bridge
  cases foreground with
  | unused | dialing | calling | collecting | returned => rfl
  | joining result byCaller =>
    cases pump with
    | finished pumped => exact congrArg some (finish_alike _ byCaller (maskFault_settle result pumped))
    | _ => rfl

theorem stepForeground_masked : bridge.masked.stepForeground.map masked = bridge.stepForeground.map masked := by
  have working : bridge.masked.foreground.isWorking = bridge.foreground.isWorking := by
    obtain ⟨spec, state, cancelled, storageFailed, foreground, pump, order, frames, call⟩ := bridge
    cases foreground <;> rfl
  simp only [stepForeground, working, show bridge.masked.storageFailed = bridge.storageFailed from rfl]
  split
  next =>
    split
    next => exact congrArg some (leaveCall_alike _ rfl)
    next => exact bridge.workForeground_masked
  next => exact bridge.join_masked

@[simp]
theorem map_masked_masked (moved : Option Bridge) : (moved.map masked).map masked = moved.map masked := by
  simp [Function.comp_def]

theorem offerRequest_masked (request : GenerateThumbnailRequest) :
    bridge.masked.offerRequest request = (bridge.offerRequest request).map masked := by
  simp only [offerRequest, show bridge.masked.call.requests = bridge.call.requests from rfl]
  split <;> rfl

theorem workPump_masked : bridge.masked.workPump.map masked = bridge.workPump.map masked := by
  obtain ⟨spec, state, cancelled, storageFailed, foreground, pump, order, frames, call⟩ := bridge
  have offers := offerRequest_masked ⟨spec, state, cancelled, storageFailed, foreground, pump, order, frames, call⟩
  cases pump with
  | unstarted | dialing | opening | finished => rfl
  | sending request | waiting request =>
    exact (congrArg (Option.map masked) (offers request)).trans (map_masked_masked _)
  | reading =>
    obtain ⟨items, ended⟩ := frames
    cases items with
    | nil =>
      cases ended with
      | true => exact congrArg some (endPump_alike _ rfl)
      | false => rfl
    | cons message rest =>
      have requested := requestFor_masked
        ⟨spec, state, cancelled, storageFailed, foreground, .reading, order, ⟨rest, ended⟩, call⟩ message
      simp only [workPump, masked, Pump.masked, Source.masked, Source.next, List.map_cons] at requested ⊢
      rcases eq_or_faults requested with ⟨_, taken, same⟩ | ⟨fault, other, refused, failed, alike⟩
      next =>
        rw [taken, same]
        simp [masked, Pump.masked, Source.masked, Function.comp_def]
      next =>
        have told : maskFault (.error fault : Except Fault Unit) = maskFault (.error other) :=
          congrArg Except.error alike
        rw [refused, failed]
        exact congrArg some (endPump_alike
          ⟨spec, state, cancelled, storageFailed, foreground, .reading, order, ⟨rest, ended⟩, call⟩ told)

theorem stepPump_masked : bridge.masked.stepPump.map masked = bridge.stepPump.map masked := by
  have running : bridge.masked.pump.isRunning = bridge.pump.isRunning := by
    obtain ⟨spec, state, cancelled, storageFailed, foreground, pump, order, frames, call⟩ := bridge
    cases pump <;> rfl
  simp only [stepPump, running, show bridge.masked.cancelled = bridge.cancelled from rfl]
  split
  next =>
    split
    next => exact congrArg some (endPump_alike _ rfl)
    next => exact bridge.workPump_masked
  next => rfl

theorem dialedEncoder_masked (dialed : Except Fault Unit) :
    bridge.masked.dialedEncoder (maskFault dialed) = (bridge.dialedEncoder dialed).map masked := by
  obtain ⟨spec, state, cancelled, storageFailed, foreground, pump, order, frames, call⟩ := bridge
  cases foreground with
  | dialing => cases dialed <;> rfl
  | _ => rfl

theorem dialedStorage_masked (dialed : Except Fault Unit) :
    bridge.masked.dialedStorage (maskFault dialed) = (bridge.dialedStorage dialed).map masked := by
  obtain ⟨spec, state, cancelled, storageFailed, foreground, pump, order, frames, call⟩ := bridge
  cases pump with
  | dialing => cases cancelled <;> cases dialed <;> rfl
  | _ => cases cancelled <;> rfl

theorem openedVideo_masked (opened : Except Status Unit) :
    (bridge.masked.openedVideo (maskStatus opened)).map masked = (bridge.openedVideo opened).map masked := by
  obtain ⟨spec, state, cancelled, storageFailed, foreground, pump, order, frames, call⟩ := bridge
  cases pump with
  | opening =>
    cases cancelled with
    | true => rfl
    | false =>
      cases opened with
      | error status => exact congrArg some (endPump_alike _ rfl)
      | ok _ => simp [openedVideo, openVideo, masked, Pump.masked]
  | _ => cases cancelled <;> rfl

theorem generate_masked (videoIds : List String) :
    (bridge.masked.generate videoIds).2 = (bridge.generate videoIds).2.masked := by
  simp only [generate, show bridge.masked.state = bridge.state from rfl]
  split
  next => rfl
  next => split <;> rfl

theorem act_masked (action : Action) :
    (bridge.masked.act action.masked).map masked = (bridge.act action).map masked := by
  have reading : bridge.masked.isReading = bridge.isReading := by
    obtain ⟨spec, state, cancelled, storageFailed, foreground, pump, order, frames, call⟩ := bridge
    cases pump <;> rfl
  have opened : bridge.masked.callOpened = bridge.callOpened := by
    obtain ⟨spec, state, cancelled, storageFailed, foreground, pump, order, frames, call⟩ := bridge
    cases pump <;> rfl
  cases action with
  | foreground => exact bridge.stepForeground_masked
  | pump => exact bridge.stepPump_masked
  | generate videoIds => simp [act, Action.masked, generate_masked]
  | cancel => simp [act, Action.masked, cancel, masked]
  | dialedStorage dialed => simp [act, Action.masked, dialedStorage_masked, Function.comp_def]
  | openedVideo opened => exact bridge.openedVideo_masked opened
  | deliver message =>
    simp only [act, Action.masked, reading]
    split
    next => simp [masked, Source.push_masked]
    next => rfl
  | endStream =>
    simp only [act, Action.masked, reading]
    split
    next => simp [masked, Source.finish_masked]
    next => rfl
  | dialedEncoder dialed => simp [act, Action.masked, dialedEncoder_masked, Function.comp_def]
  | onCall action =>
    simp only [act, Action.masked, opened, show bridge.masked.call = bridge.call.masked from rfl, Call.act_masked]
    split
    next =>
      rw [Option.map_map, Option.map_map, Option.map_map]
      congr 1
      funext call
      simp [masked]
    next => rfl

end Bridge

end VideoRelay
