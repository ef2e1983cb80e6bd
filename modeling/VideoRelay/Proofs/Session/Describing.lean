import VideoRelay.Proofs.Session.Transcoded

set_option autoImplicit false

namespace VideoRelay

def Fault.OfSlot (fault : Fault) : Prop :=
  fault = .ofViolation .descriptorTwice \/ fault = .ofViolation .chunkBeforeDescriptor

theorem Fault.not_ofSlot_transport (status : Status) : ¬(Fault.streamTransport status).OfSlot := by
  rintro (same | same) <;> cases same

theorem Framing.offence?_not_ofSlot {headerSeen : Bool} {messages : List StorageMessage} {fault : Fault}
    (offends : offence? headerSeen messages = some fault) : ¬fault.OfSlot := by
  fun_induction offence? headerSeen messages with
  | case1 => cases offends
  | case2 _ status => cases offends; exact Fault.not_ofSlot_transport status
  | case3 | case4 | case5 =>
    cases offends
    simp [Fault.OfSlot, Fault.ofViolation, Violation.message]
  | case6 _ _ ih | case7 _ _ ih => exact ih offends

theorem Forwarder.receive_error_iff {forwarder : Forwarder} {pipeline : Pipeline} {message : StorageMessage}
    {fault : Fault} (slotted : pipeline.slot.isSome = forwarder.order.headerSeen) :
    forwarder.receive pipeline message = .error fault <->
      Framing.offence? forwarder.order.headerSeen [message] = some fault := by
  refine ⟨receive_error forwarder pipeline slotted, fun offends => ?_⟩
  cases received : forwarder.receive pipeline message with
  | error other =>
    rw [receive_error forwarder pipeline slotted received] at offends
    rw [Option.some.inj offends]
  | ok result =>
    rcases receive_ok forwarder pipeline received with ⟨video, rfl, first, -⟩ | ⟨datagram, rfl, later, -⟩
    next => rw [first] at offends; cases offends
    next => rw [later] at offends; cases offends

def faultOf {Value : Type} : Option (Except Fault Value) -> List Fault
  | some (.error fault) => [fault]
  | _ => []

theorem mem_faultOf {Value : Type} {outcome : Option (Except Fault Value)} {fault : Fault} :
    fault ∈ faultOf outcome <-> outcome = some (.error fault) := by
  unfold faultOf
  split
  next other => simp [eq_comm]
  next unfailed => exact ⟨fun among => (by cases among), fun failed => absurd failed (unfailed fault)⟩

def Emitter.faults : Emitter -> List Fault
  | .passthrough emitter => faultOf emitter.outcome? ++ faultOf (emitter.writer?.bind Writer.outcome?)
  | .transcoding transcoder =>
    faultOf transcoder.feeder.outcome? ++ faultOf transcoder.fetcher.outcome? ++
      faultOf (transcoder.writer?.bind Writer.outcome?)

def Transported (faults : List Fault) : Prop :=
  forall fault, fault ∈ faults -> exists status, fault = .streamTransport status

@[simp]
theorem transported_nil : Transported [] :=
  fun _ among => (by cases among)

@[simp]
theorem transported_append {first second : List Fault} :
    Transported (first ++ second) <-> Transported first /\ Transported second :=
  List.forall_mem_append

@[simp]
theorem transported_status (status : Status) : Transported [.streamTransport status] :=
  fun _ among => ⟨status, List.mem_singleton.1 among⟩

theorem Writer.Move.transported {handle : Nat} {sink later : Sink} {writer after : Writer}
    (moved : writer.Move handle sink after later) : Transported (faultOf after.outcome?) := by
  cases moved with
  | count | put | queue => exact transported_nil
  | refuse | abandon => exact transported_status _

namespace Session

variable {session next : Session} {action : Action}

def faults (session : Session) : List Fault :=
  faultOf session.forwarded? ++ (faultOf session.emitted ++ session.emitter.faults)

theorem stored_transported {outcome : Except Fault Unit} (transported : Transported (faultOf (some outcome))) :
    Transported (faultOf (session.stored outcome).emitted ++ (session.stored outcome).emitter.faults) := by
  cases outcome with
  | ok _ => exact transported_nil
  | error fault => exact transported_append.2 ⟨transported, transported_append.2 ⟨transported, transported_nil⟩⟩

theorem Stores.transported {emitter : Passthrough} (moved : session.Stores emitter next)
    (mode : session.emitter = .passthrough emitter)
    (filled : session.pipeline.chunks.place.isSome = true -> session.pipeline.slot.isSome = true)
    (before : Transported (faultOf session.emitted ++ session.emitter.faults)) :
    Transported (faultOf next.emitted ++ next.emitter.faults) := by
  rw [mode] at before
  obtain ⟨emitted, before⟩ := transported_append.1 before
  obtain ⟨-, writing⟩ := transported_append.1 before
  cases moved with
  | first | next | wrote => exact transported_append.2 ⟨emitted, transported_nil⟩
  | write written writer after sink moved => exact transported_append.2 ⟨emitted, moved.transported⟩
  | drain => exact stored_transported transported_nil
  | unwritten written fault => exact stored_transported writing
  -- A chunk that can be taken has its descriptor in the slot.
  | undescribed chunk ready uncommitted unslotted => simp [ready, unslotted] at filled

theorem afterLeg_transported {transcoder : Transcoder} {pipeline : Pipeline} (running : session.emitted = none)
    (legs : Transported (Emitter.transcoding transcoder).faults) :
    Transported (faultOf (session.afterLeg transcoder pipeline).emitted ++
      (session.afterLeg transcoder pipeline).emitter.faults) := by
  rw [afterLeg_emitter]
  refine transported_append.2 ⟨?_, legs⟩
  intro fault among
  -- What the emitter returns is what one of its legs has returned.
  have returned := afterLeg_returned running (mem_faultOf.1 among)
  refine legs fault ?_
  unfold Transcoder.outcome? at returned
  split at returned
  next received sent fetched fed =>
    simp only [Emitter.faults, List.mem_append, mem_faultOf, fetched, fed]
    cases received with
    | ok _ => exact .inl (.inl returned)
    | error other => exact .inl (.inr returned)
  next => cases returned

theorem fetches_transported {transcoder after : Transcoder} {before pipeline : Pipeline}
    (moved : transcoder.Fetches emitterHandle before after pipeline)
    (legs : Transported (Emitter.transcoding transcoder).faults) :
    Transported (Emitter.transcoding after).faults := by
  obtain ⟨earlier, writing⟩ := transported_append.1 legs
  obtain ⟨fed, -⟩ := transported_append.1 earlier
  have leg {fetcher : Fetcher} (same : after.fetcher = fetcher) (feeder : after.feeder = transcoder.feeder)
      (fetched : Transported (faultOf fetcher.outcome?))
      (wrote : Transported (faultOf (after.writer?.bind Writer.outcome?))) :
      Transported (Emitter.transcoding after).faults := by
    simp only [Emitter.faults, transported_append, same, feeder]
    exact ⟨⟨fed, fetched⟩, wrote⟩
  cases moved with
  | answered | receive | wrote => exact leg rfl rfl transported_nil transported_nil
  | skip typed reply rest reading =>
    exact leg reading rfl transported_nil (by simp [Transcoder.writer?, Transcoder.withReplies, reading, faultOf])
  | refused status | broken typed status => exact leg rfl rfl (transported_status status) transported_nil
  | finish => exact leg rfl rfl transported_nil transported_nil
  | write writer later sink _ moved => exact leg rfl rfl transported_nil moved.transported
  | unwritten fault unwritten =>
    simp only [Transcoder.writer?, unwritten] at writing
    exact leg rfl rfl writing transported_nil

theorem feeds_transported {transcoder after : Transcoder} {pipeline : Pipeline}
    (filled : session.pipeline.chunks.place.isSome = true -> session.pipeline.slot.isSome = true)
    (moved : transcoder.Feeds session.pipeline after pipeline)
    (legs : Transported (Emitter.transcoding transcoder).faults) :
    Transported (Emitter.transcoding after).faults := by
  obtain ⟨earlier, writing⟩ := transported_append.1 legs
  obtain ⟨-, fetched⟩ := transported_append.1 earlier
  have unfailed (fault : Fault) : fault ∉ faultOf after.feeder.outcome? :=
    fun among => unfailed_of_feeds filled moved fault (mem_faultOf.1 among)
  simp only [Emitter.faults, transported_append, Transcoder.writer?, moved.call.1]
  exact ⟨⟨fun fault among => absurd among (unfailed fault), fetched⟩, writing⟩

theorem drop_transported {transcoder : Transcoder} {pipeline : Pipeline}
    (legs : Transported (Emitter.transcoding transcoder).faults) :
    Transported (Emitter.transcoding (transcoder.drop emitterHandle pipeline).1).faults := by
  have feeder : (transcoder.drop emitterHandle pipeline).1.feeder = transcoder.feeder := by
    unfold Transcoder.drop
    by_cases fed : transcoder.feeder.outcome?.isSome = true <;>
      by_cases fetched : transcoder.fetcher.outcome?.isSome = true <;>
      simp [fed, fetched, Transcoder.releaseFeeder, Transcoder.releaseFetcher]
  obtain ⟨fetcher, -⟩ := transcoder.drop_fetcher emitterHandle pipeline
  simpa only [Emitter.faults, Transcoder.writer?, feeder, fetcher] using legs

theorem dropEmitter_transported (legs : Transported session.emitter.faults) :
    Transported session.dropEmitter.emitter.faults := by
  cases mode : session.emitter with
  | passthrough emitter => rwa [dropEmitter_passthrough mode, ← mode]
  | transcoding transcoder =>
    rw [mode] at legs
    rw [dropEmitter_transcoder mode]
    exact drop_transported legs

theorem Step.transported (step : session.Step action next)
    (filled : session.pipeline.chunks.place.isSome = true -> session.pipeline.slot.isSome = true)
    (before : Transported (faultOf session.emitted ++ session.emitter.faults)) :
    Transported (faultOf next.emitted ++ next.emitter.faults) := by
  have legs := (transported_append.1 before).2
  cases step with
  | forward _ _ moved => rwa [moved.emitter.1, moved.emitter.2]
  | emit emitter _ _ mode moved => exact moved.transported mode filled before
  | feed transcoder after pipeline _ mode _ running moved =>
    rw [mode] at legs
    exact afterLeg_transported running (feeds_transported filled moved legs)
  | fetch transcoder after pipeline _ mode _ running moved =>
    rw [mode] at legs
    exact afterLeg_transported running (fetches_transported moved legs)
  | abort => exact transported_append.2 ⟨transported_nil, dropEmitter_transported legs⟩
  | leave =>
    have left := session.cutShort_ended
    rw [left.emitted, left.emitter, session.emptied_dropped.emitted]
    refine transported_append.2 ⟨(transported_append.1 before).1, ?_⟩
    unfold emptied
    split
    next => exact legs
    next => exact dropEmitter_transported legs
  | onCall action transcoder call mode =>
    rw [mode] at before
    exact before
  | join | deliver | endStream | receiveHead | receiveFault | takeChunk | takeText | disconnect => exact before

def headerArrival (before after : Session) : List Descriptor :=
  if before.forwarder.order.headerSeen = after.forwarder.order.headerSeen then []
  else (Framing.descriptor? before.pipeline.frames.items).toList

def headersAccepted : Session -> List Action -> List Descriptor :=
  trace act headerArrival

theorem Forwards.slot (moved : session.Forwards next) :
    next.pipeline.slot.toList = session.pipeline.slot.toList ++ session.headerArrival next := by
  cases moved with
  | header video rest reading unclosed ready first unset =>
    simp [headerArrival, Framing.descriptor?, first, ready, unset]
  | datagram | refuse | put | queue | abandon | finish =>
    simp [headerArrival, ended, Forwarder.finish, Forwarder.stop, withSink]

theorem Step.slot (step : session.Step action next) :
    next.pipeline.slot.toList = session.pipeline.slot.toList ++ session.headerArrival next := by
  have unread (forwarder : next.forwarder = session.forwarder) (slot : next.pipeline.slot = session.pipeline.slot) :
      next.pipeline.slot.toList = session.pipeline.slot.toList ++ session.headerArrival next := by
    simp [headerArrival, forwarder, slot]
  have kept := step.keepsStorage
  cases step with
  | forward _ _ moved => exact moved.slot
  | deliver | endStream => exact unread rfl rfl
  | _ => exact unread (kept (by simp)).forwarder (kept (by simp)).slot

theorem slot_of_run {initial last : Session} {actions : List Action} (run : Run initial actions last) :
    last.pipeline.slot.toList = initial.pipeline.slot.toList ++ headersAccepted initial actions := by
  refine run.keeps (fun done last => last.pipeline.slot.toList =
    initial.pipeline.slot.toList ++ headersAccepted initial done) (List.append_nil _).symm ?_
  intro done session action next reached before possible
  rw [headersAccepted, trace_snoc headerArrival reached.reached possible, (step_of_act possible).slot, before,
    List.append_assoc]
  rfl

theorem slot_of_later {initial last : Session} {actions : List Action} {descriptor : Descriptor}
    (known : initial.pipeline.slot = some descriptor) (run : Run initial actions last) :
    last.pipeline.slot = some descriptor /\ headersAccepted initial actions = [] := by
  have same := slot_of_run run
  rw [known] at same
  cases slot : last.pipeline.slot with
  | none => rw [slot] at same; cases same
  | some other =>
    rw [slot] at same
    obtain ⟨rfl, rest⟩ := List.cons_eq_cons.1 same
    exact ⟨rfl, rest.symm⟩

theorem transported_of_run {emitter : Emitter} (fresh : emitter.Fresh) {actions : List Action}
    (run : Run (start emitter) actions session) :
    Transported (faultOf session.emitted ++ session.emitter.faults) := by
  refine run.keeps (fun _ session => Transported (faultOf session.emitted ++ session.emitter.faults)) ?_ ?_
  next => cases fresh <;> exact transported_nil
  next =>
    intro actions session action next run before possible
    exact (step_of_act possible).transported (forwarded_of_run run).filled before

/-- How gate and slot stand to each other in a session after a run. -/
structure Described (initial : Session) (actions : List Action) (session : Session) : Prop where
  slot : session.pipeline.slot.toList = headersAccepted initial actions
  chunked : chunksForwarded initial actions ≠ [] -> exists descriptor,
    session.pipeline.slot = some descriptor /\ session.pipeline.descriptor = .ok descriptor /\
      headersAccepted initial actions = [descriptor] /\ Framing.descriptor? (delivered actions) = some descriptor
  lasting : forall descriptor, session.pipeline.slot = some descriptor -> forall more last, Run session more last ->
    last.pipeline.slot = some descriptor /\ headersAccepted session more = []
  waiting : session.pipeline.chunks.place.isSome = true -> exists descriptor,
    session.pipeline.descriptor = .ok descriptor
  passed : forall descriptor order, session.forwarder.order.accept (.header descriptor) = .ok order ->
    session.pipeline.configure descriptor = .ok { session.pipeline with slot := some descriptor }
  refused : forall message fault, session.forwarder.receive session.pipeline message = .error fault <->
    Framing.offence? session.forwarder.order.headerSeen [message] = some fault
  failed : forall fault, session.forwarded? = some (.error fault) ->
    Framing.offence? false (delivered actions) = some fault
  unfaulted : forall fault, fault ∈ session.faults -> ¬fault.OfSlot

/-- In every session, whatever its emitter, its storage and the order of the moves, the descriptor is there when a
chunk is, and it stays; the faults of the slot are returned nowhere, as the gate refuses the messages that would cause
them. -/
theorem descriptor_precedes_chunks {emitter : Emitter} (fresh : emitter.Fresh) {actions : List Action}
    (run : Run (start emitter) actions session) : Described (start emitter) actions session := by
  have forwarded := forwarded_of_run run
  have slot := slot_of_run run
  rw [show (start emitter).pipeline.slot.toList = [] from rfl, List.nil_append] at slot
  refine ⟨slot, fun something => ?_, fun descriptor known more last later => slot_of_later known later,
    fun ready => ?_, fun descriptor order passed => ?_,
    fun message fault => Forwarder.receive_error_iff forwarded.slotted,
    fun fault returned => (forwarded.failed fault returned).1, fun fault among => ?_⟩
  next =>
    have slotted := forwarded.slotted.trans (forwarded.seen (by simp [something]))
    obtain ⟨descriptor, known⟩ := Option.isSome_iff_exists.1 slotted
    refine ⟨descriptor, known, by simp [Pipeline.descriptor, known], ?_, forwarded.described descriptor known⟩
    rw [← slot, known]
    rfl
  next =>
    obtain ⟨descriptor, known⟩ := Option.isSome_iff_exists.1 (forwarded.filled ready)
    exact ⟨descriptor, by simp [Pipeline.descriptor, known]⟩
  next =>
    have first : session.forwarder.order.headerSeen = false := by
      cases seen : session.forwarder.order.headerSeen with
      | false => rfl
      | true => simp [FrameGate.accept, FrameGate.header, seen] at passed
    have unset : session.pipeline.slot = none := by simpa [first] using forwarded.slotted
    simp [Pipeline.configure, unset]
  next =>
    rcases List.mem_append.1 among with read | emitted
    next => exact Framing.offence?_not_ofSlot (forwarded.failed fault (mem_faultOf.1 read)).1
    next =>
      obtain ⟨status, rfl⟩ := transported_of_run fresh run fault emitted
      exact Fault.not_ofSlot_transport status

def headerAgain : List Action :=
  [.deliver (.ok (.header clip)), .deliver (.ok (.datagram { payload := [1, 2] })), .deliver (.ok (.header clip)),
    .forward, .forward, .forward, .feed, .forward]

theorem headerAgain_described : exists session, Run (transcoding smallPreset) headerAgain session /\
    chunksForwarded (transcoding smallPreset) headerAgain = [[1, 2]] /\
      session.faults = [.ofViolation .headerTwice] /\ session.pipeline.slot = some clip.descriptor /\
        headersAccepted (transcoding smallPreset) headerAgain = [clip.descriptor] /\
          forall fault, fault ∈ session.faults -> ¬fault.OfSlot := by
  obtain ⟨session, reached, put, faults⟩ : exists session,
      follow act (transcoding smallPreset) headerAgain = some session /\
        chunksForwarded (transcoding smallPreset) headerAgain = [[1, 2]] /\
          session.faults = [.ofViolation .headerTwice] := ⟨_, rfl, rfl, rfl⟩
  have run := run_of_follow reached
  have described := descriptor_precedes_chunks (.transcoding smallPreset) run
  have begun : chunksForwarded (transcoding smallPreset) headerAgain ≠ [] := by simp [put]
  obtain ⟨descriptor, slot, -, accepted, first⟩ := described.chunked begun
  cases first
  exact ⟨session, run, put, faults, slot, accepted, described.unfaulted⟩

end Session

end VideoRelay
