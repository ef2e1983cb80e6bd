import VideoRelay.Proofs.Session.Titles

set_option autoImplicit false

namespace VideoRelay

def hasControl (text : String) : Bool :=
  (Text.utf8Bytes text).any fun byte => byte != 9 && (byte < 32 || byte == 127)

def Descriptor.fields (descriptor : Descriptor) : List (String × String) :=
  (if descriptor.mimeType = "" \/ hasControl descriptor.mimeType then []
    else [(contentType, descriptor.mimeType)]) ++
  (if hasControl descriptor.disposition then [] else [(contentDisposition, descriptor.disposition)])

theorem isHeaderText_eq (text : String) : isHeaderText text = !hasControl text := by
  have bytes : isHeaderByte = fun byte => !(byte != 9 && (byte < 32 || byte == 127)) := by
    funext byte
    have least : 32 <= byte <-> ¬ byte < 32 := UInt8.not_lt.symm
    by_cases tab : byte = 9 <;> by_cases small : byte < 32 <;>
      simp [isHeaderByte, bne, tab, small, least]
  rw [isHeaderText, hasControl, List.not_any_eq_all_not, bytes]

namespace Descriptor

theorem typed_entries (descriptor : Descriptor) : (descriptor.typed {}).entries =
    if descriptor.mimeType = "" \/ hasControl descriptor.mimeType then []
    else [(contentType, descriptor.mimeType)] := by
  by_cases untyped : descriptor.mimeType = "" \/ hasControl descriptor.mimeType = true
  next => simp [typed, isHeaderText_eq, untyped]
  next => simp [typed, isHeaderText_eq, untyped, Headers.insert]

theorem headers_entries (descriptor : Descriptor) : descriptor.headers.entries = descriptor.fields := by
  have apart : (contentType != contentDisposition) = true := by decide
  have kept : (descriptor.typed {}).entries.filter (fun entry => entry.1 != contentDisposition) =
      (descriptor.typed {}).entries := by
    rw [typed_entries]
    split <;> simp [apart]
  unfold headers named fields
  rw [isHeaderText_eq, ← typed_entries]
  cases hasControl descriptor.disposition with
  | true => simp
  | false => simp [Headers.insert, kept]

end Descriptor

namespace Session

structure Attended (messages : List StorageMessage) (put written : List Bytes) (session : Session)
    (emitter : Passthrough) : Prop where
  mode : session.emitter = .passthrough emitter
  sound : (forall fault, session.forwarded? ≠ some (.error fault)) ->
    session.sink.commit ≠ .failed /\ emitter.isBroken = false
  drained : emitter = .finished (.ok ()) -> put = written /\ session.forwarded?.isSome = true
  closed : session.pipeline.chunks.receiving = false -> emitter.outcome?.isSome = true
  whole : forall total, session.forwarded? = some (.ok total) ->
    session.pipeline.frames.ended = true /\ put = Framing.intact false messages
  through : session.isOver = true -> session.forwarded?.isSome = true /\ emitter.outcome?.isSome = true

namespace Attended

variable {messages : List StorageMessage} {put written : List Bytes} {session next : Session}
  {emitter : Passthrough}

theorem unfinished (before : Attended messages put written session emitter)
    (unfinished : session.forwarded? = none) : emitter.outcome? = none := by
  cases through : emitter.outcome? with
  | none => rfl
  | some outcome =>
    cases emitter with
    | finished result =>
      cases result with
      | ok _ =>
        have forwarded := (before.drained rfl).2
        simp [unfinished] at forwarded
      | error fault => cases (before.sound (by simp [unfinished])).2
    | _ => cases through

theorem forward (before : Attended messages put written session emitter) (moved : session.Forwards next)
    (after : Forwarded messages (put ++ session.chunkArrival next) next) :
    Attended messages (put ++ session.chunkArrival next) written next emitter := by
  have mode := moved.emitter.1.trans before.mode
  have unfinished := moved.unfinished
  have running := before.unfinished unfinished
  have sound := before.sound (by simp [unfinished])
  have live (receiving : next.pipeline.chunks.receiving = session.pipeline.chunks.receiving)
      (through : next.isOver = session.isOver)
      (sound : (forall fault, next.forwarded? ≠ some (.error fault)) ->
        next.sink.commit ≠ .failed /\ emitter.isBroken = false)
      (whole : forall total, next.forwarded? = some (.ok total) -> next.pipeline.frames.ended = true /\
        put ++ session.chunkArrival next = Framing.intact false messages) :
      Attended messages (put ++ session.chunkArrival next) written next emitter := by
    refine ⟨mode, sound, ?_, ?_, whole, ?_⟩
    next => intro finished; rw [finished] at running; cases running
    next => rw [receiving]; exact before.closed
    next =>
      intro ended
      have forwarded := (before.through (through.symm.trans ended)).1
      simp [unfinished] at forwarded
  cases moved with
  | header | datagram | put | queue =>
    exact live rfl rfl (fun _ => sound) (by simp_all [forwarded?, Forwarder.outcome?])
  | refuse message rest fault =>
    refine live rfl rfl (fun unfailed => ?_) ?_
    next => exact absurd rfl (unfailed fault)
    next => simp [forwarded?, ended, Forwarder.finish, Forwarder.outcome?]
  | abandon _ closed =>
    -- Only an emitter that is through closes the chunk channel, and it outlasts forwarding.
    have finished := before.closed closed
    simp [running] at finished
  | finish reading unclosed =>
    refine live rfl rfl (fun _ => sound) fun total returned => ?_
    rcases (after.stopped total returned).2 with closed | ⟨ended, -, whole⟩
    next => exact absurd (unclosed.symm.trans closed) (by simp)
    next => exact ⟨ended, whole.put⟩

theorem unclosed (before : Attended messages put written session emitter) (running : emitter.outcome? = none) :
    session.pipeline.chunks.receiving = true := by
  cases receiving : session.pipeline.chunks.receiving with
  | true => rfl
  | false =>
    have finished := before.closed receiving
    simp [running] at finished

theorem further (before : Attended messages put written session emitter) {after : Passthrough}
    {more : List Bytes} (going : session.isOver = false) (running : emitter.outcome? = none)
    (still : after.outcome? = none) (mode : next.emitter = .passthrough after)
    (kept : session.KeepsStorage next)
    (receiving : next.pipeline.chunks.receiving = session.pipeline.chunks.receiving)
    (through : next.isOver = session.isOver)
    (sound : session.sink.commit ≠ .failed /\ emitter.isBroken = false ->
      next.sink.commit ≠ .failed /\ after.isBroken = false) :
    Attended messages put (written ++ more) next after := by
  have forwarded : next.forwarded? = session.forwarded? := congrArg Forwarder.outcome? kept.forwarder
  refine ⟨mode, ?_, ?_, ?_, ?_, ?_⟩
  next => rw [forwarded]; exact fun unfailed => sound (before.sound unfailed)
  next => intro finished; rw [finished] at still; cases still
  next =>
    intro closed
    have finished := before.closed (receiving.symm.trans closed)
    simp [running] at finished
  next => rw [forwarded, kept.ended]; exact before.whole
  next => rw [through, going]; intro ended; cases ended

theorem stores (before : Attended messages put written session emitter) (going : session.isOver = false)
    (moved : session.Stores emitter next) (copied : Copied put written session emitter)
    (forwarded : Forwarded messages put session) (present : session.sink.body.receiving = true) :
    exists after, Attended messages put (written ++ session.bodyArrival next) next after := by
  have running := moved.unfinished
  have kept := moved.keepsStorage
  have unclosed := before.unclosed running
  cases moved with
  | first chunk descriptor ready uncommitted =>
    refine ⟨_, before.further going running rfl rfl kept rfl rfl fun sound => ⟨?_, rfl⟩⟩
    show (descriptor.describe session.sink).commit ≠ .failed
    rw [descriptor.describe_eq uncommitted]
    exact sound.1
  | next earlier chunk => exact ⟨_, before.further going running rfl rfl kept rfl rfl fun sound => ⟨sound.1, rfl⟩⟩
  | wrote total => exact ⟨_, before.further going running rfl rfl kept rfl rfl fun sound => ⟨sound.1, rfl⟩⟩
  | undescribed chunk ready uncommitted unslotted =>
    have slotted := forwarded.filled (by simp [ready])
    simp [unslotted] at slotted
  | drain total drained through =>
    have whole := copied.whole unclosed rfl
    have finished := forwarded.isSome_of_senders going through
    have unput : session.bodyArrival (session.stored (.ok ())) = [] :=
      Channel.arrival_of_same Sink.Released.dropHandle.place
    refine ⟨.finished (.ok ()), rfl, ?_, ?_, fun _ => rfl, before.whole, fun ended => ?_⟩
    next => exact fun unfailed => ⟨by simpa [stored, endEmitting, sink] using (before.sound unfailed).1, rfl⟩
    next =>
      intro _
      refine ⟨?_, finished⟩
      simpa [unput, drained, Passthrough.held] using whole
    next => exact absurd (going.symm.trans ended) (by simp)
  | unwritten total fault =>
    refine ⟨.finished (.error fault), rfl, ?_, ?_, fun _ => rfl, before.whole, fun ended => ?_⟩
    next =>
      intro unfailed
      cases (before.sound unfailed).2
    next => intro finished; cases finished
    next => exact absurd (going.symm.trans ended) (by simp)
  | write total writer later sink moved =>
    refine ⟨_, before.further going running rfl rfl kept rfl rfl fun sound => ?_⟩
    cases moved with
    | count chunk _ accepted =>
      have commit := (Sink.beginWrite_cases accepted).1
      exact ⟨by simp [Session.sink, commit], rfl⟩
    | refuse chunk failed => exact absurd failed sound.1
    | put | queue => exact ⟨sound.1, rfl⟩
    | abandon _ chunk offered closed => exact absurd (present.symm.trans closed) (by simp)

theorem act {action : Action}
    (before : Attended messages put written session emitter) (step : session.Step action next)
    (copied : Copied put written session emitter) (forwarded : Forwarded messages put session)
    (after : Forwarded (messages ++ delivered [action]) (put ++ session.chunkArrival next) next)
    (coherent : session.Coherent) (present : next.sink.body.receiving = true) :
    exists later, Attended (messages ++ delivered [action]) (put ++ session.chunkArrival next)
      (written ++ session.bodyArrival next) next later := by
  have mode := before.mode
  have sides := step.aside mode
  have attending := (step.outlet coherent).receiving present
  have aside (foreign : action ≠ .emit) (forwarder : next.forwarder = session.forwarder)
      (chunks : next.pipeline.chunks = session.pipeline.chunks)
      (commit : next.sink.commit = session.sink.commit)
      (through : next.isOver = true -> session.isOver = true \/
        session.forwarded?.isSome = true /\ session.emitted.isSome = true)
      (unread : session.forwarded? = none \/ next.pipeline.frames.ended = session.pipeline.frames.ended /\
        delivered [action] = []) :
      exists later, Attended (messages ++ delivered [action]) (put ++ session.chunkArrival next)
        (written ++ session.bodyArrival next) next later := by
    have same : next.forwarded? = session.forwarded? := congrArg Forwarder.outcome? forwarder
    have unput : session.chunkArrival next = [] := Channel.arrival_of_same (congrArg Channel.place chunks)
    rw [unput, (sides foreign).2, List.append_nil, List.append_nil]
    refine ⟨emitter, (sides foreign).1, ?_, ?_, ?_, ?_, ?_⟩
    next => rw [same, commit]; exact before.sound
    next => rw [same]; exact before.drained
    next => rw [chunks]; exact before.closed
    next =>
      rw [same]
      intro total returned
      rcases unread with unfinished | ⟨ended, nothing⟩
      next => rw [unfinished] at returned; cases returned
      next =>
        rw [ended, nothing, List.append_nil]
        exact before.whole total returned
    next =>
      rw [same]
      intro ended
      rcases through ended with earlier | ⟨finished, emitted⟩
      next => exact before.through earlier
      next => exact ⟨finished, by rw [← coherent emitter mode]; exact emitted⟩
  cases step with
  | forward _ going moved =>
    rw [show delivered [Action.forward] = [] from rfl, List.append_nil] at after ⊢
    rw [(sides (by simp)).2, List.append_nil]
    exact ⟨emitter, before.forward moved after⟩
  | emit stored _ going same moved =>
    obtain rfl : stored = emitter := by
      rw [mode] at same
      cases same
      rfl
    rw [show delivered [Action.emit] = [] from rfl, moved.keepsStorage.chunkArrival, List.append_nil,
      List.append_nil]
    exact before.stores going moved copied forwarded attending
  | feed _ _ _ _ transcoding | fetch _ _ _ _ transcoding | abort _ _ transcoding | onCall _ _ _ transcoding =>
    rw [transcoding] at mode
    cases mode
  | leave going closed => exact absurd (attending.symm.trans closed) (by simp)
  | join going finished emitted =>
    exact aside (by simp) rfl rfl (Sink.dropHandle_commit _) (fun _ => .inr ⟨finished, emitted⟩) (.inr ⟨rfl, rfl⟩)
  | deliver message reading | endStream reading =>
    exact aside (by simp) rfl rfl rfl .inl (.inl (unfinished_of_isReading reading))
  | receiveHead | receiveFault | takeChunk | takeText | disconnect =>
    exact aside (by simp) rfl rfl rfl .inl (.inr ⟨rfl, rfl⟩)

theorem complete (attended : Attended messages put written session emitter) (through : session.isOver = true)
    (unfailed : forall fault, session.forwarded? ≠ some (.error fault)) :
    session.pipeline.frames.ended = true /\ written = Framing.intact false messages := by
  obtain ⟨returned, settled⟩ := attended.through through
  obtain ⟨outcome, returned⟩ := Option.isSome_iff_exists.1 returned
  cases outcome with
  | error fault => exact absurd returned (unfailed fault)
  | ok total =>
    obtain ⟨ended, put⟩ := attended.whole total returned
    have sound := (attended.sound unfailed).2
    cases emitter with
    | finished result =>
      cases result with
      | ok _ => exact ⟨ended, (attended.drained rfl).1.symm.trans put⟩
      | error fault => cases sound
    | _ => cases settled

end Attended

theorem attended_of_run {session : Session} {actions : List Action} (run : Run passthrough actions session)
    (present : session.sink.body.receiving = true) :
    exists emitter, Attended (delivered actions) (chunksForwarded passthrough actions)
      (chunksWritten passthrough actions) session emitter := by
  refine run.keeps (fun done session => session.sink.body.receiving = true -> exists emitter, Attended (delivered done)
    (chunksForwarded passthrough done) (chunksWritten passthrough done) session emitter) (fun _ => ?_) ?_ present
  next =>
    exact ⟨.start, rfl, fun _ => ⟨by decide, rfl⟩, fun finished => (by cases finished),
      fun closed => (by cases closed), fun _ returned => (by cases returned), fun through => (by cases through)⟩
  next =>
    intro actions session action next run before possible present
    have step := step_of_act possible
    obtain ⟨coherent, -⟩ := answered_of_run .passthrough run
    -- A body that is wanted now was wanted all along.
    obtain ⟨emitter, attended⟩ := before ((step.outlet coherent).receiving present)
    obtain ⟨other, copied⟩ := copied_of_run run
    cases attended.mode.symm.trans copied.mode
    have forwarded := forwarded_of_run run
    rw [delivered_append, chunksForwarded, chunksWritten, trace_snoc chunkArrival run.reached possible,
      trace_snoc bodyArrival run.reached possible]
    exact attended.act step copied forwarded (forwarded.act step) coherent present

/-- Whatever storage sends and in whatever order the parties move, the client takes a beginning of the payloads that
stand before the first offence; a whole video that is read to its end is received as a whole. -/
theorem passthrough_fidelity {stream : List StorageMessage} {actions : List Action} {session : Session}
    (run : Run passthrough actions session) (follows : Follows actions stream) :
    ((forall head, head ∈ headsReceived actions -> head.status = 200) /\
          framesTaken actions <+: Framing.intact false stream \/
        headsReceived actions = [.plain 500] /\ framesTaken actions <+: [faultText]) /\
      forall video datagrams, stream = Framing.framed video datagrams -> datagrams ≠ [] ->
        session.reader.read session.sink = some .finished ->
        framesTaken actions = datagrams.map Datagram.payload /\
          headsReceived actions = [{ status := 200, headers := { entries := video.descriptor.fields } }] := by
  have forwarded := forwarded_of_run run
  obtain ⟨coherent, answered⟩ := answered_of_run .passthrough run
  obtain ⟨emitter, copied⟩ := copied_of_run run
  obtain ⟨other, titled⟩ := titled_of_run run
  cases copied.mode.symm.trans titled.mode
  refine ⟨?_, ?_⟩
  next =>
    have written := (List.prefix_append _ _).trans copied.order
    have before := written.trans forwarded.accepted
    obtain ⟨rest, rfl⟩ := follows.messages
    have taken := before.trans (Framing.intact_mono false (delivered actions) rest)
    exact answered.told.got.imp (fun streamed => ⟨streamed.1, streamed.2.trans taken⟩) id
  next =>
    rintro video datagrams rfl nonempty finished
    have unfailed : forall fault, session.forwarded? ≠ some (.error fault) := by
      obtain ⟨rest, whole⟩ := follows.messages
      exact forwarded.unfailed (by rw [whole]; exact Framing.offence?_framed video datagrams)
    -- Only a failed read is answered with a fault, and this one cannot fail.
    have unfaulted : forall status text, session.sink.head ≠ some (.failed status text) := by
      intro status text decided
      obtain ⟨fault, failed⟩ := titled.blamed status text decided
      exact unfailed fault failed
    obtain ⟨streaming, present, drained, through⟩ := answered.through_of_finished unfaulted finished
    have told := answered.told
    rw [streaming] at told
    obtain ⟨headers, decided, heads⟩ := told.of_body
    obtain ⟨third, attended⟩ := attended_of_run run present
    obtain ⟨ended, written⟩ := attended.complete through unfailed
    rw [follows.complete ((ended_of_run run).1 ended), Framing.intact_framed] at written
    have taken : framesTaken actions = datagrams.map Datagram.payload := by
      have content := written.symm.trans (answered.content present)
      rw [drained] at content
      simpa using content.symm
    -- There are payloads, and the write of the first one has decided the head.
    have committed : session.sink.commit ≠ .pending := by
      intro pending
      have unwritten := written.symm.trans (answered.pending pending).1
      exact nonempty (List.map_eq_nil_iff.1 unwritten)
    obtain ⟨descriptor, slotted, same⟩ := titled.titled committed headers decided
    have described := forwarded.described descriptor slotted
    rw [follows.complete ((ended_of_run run).1 ended)] at described
    cases described
    refine ⟨taken, heads.trans ?_⟩
    rw [same, ← Descriptor.headers_entries]

def clipRelayed : List Action :=
  (Framing.framed clip clipDatagrams).map .deliver ++
    [.forward, .forward, .forward, .emit, .emit, .emit, .forward, .forward, .emit, .emit, .emit, .emit, .forward,
      .forward, .receiveHead { status := 200, headers := { entries := clip.descriptor.fields } },
      .takeFrame [1, 2], .emit, .emit, .emit, .endStream, .forward, .emit, .emit, .takeFrame [], .emit, .emit,
      .emit, .join, .takeFrame [3]]

theorem clip_relayed :
    framesTaken clipRelayed = [[1, 2], [], [3]] /\
      headsReceived clipRelayed = [{ status := 200, headers := { entries := [
        ("content-type", "video/webm"), ("content-disposition", "attachment; filename=clip.webm")] } }] := by
  obtain ⟨session, followed, finished⟩ : exists session, follow act passthrough clipRelayed = some session /\
      session.reader.read session.sink = some .finished := ⟨_, rfl, rfl⟩
  have follows : Follows clipRelayed (Framing.framed clip clipDatagrams) := ⟨List.prefix_rfl, fun _ => rfl⟩
  have whole := (passthrough_fidelity (run_of_follow followed) follows).2 clip clipDatagrams rfl (by decide) finished
  exact whole

end Session

end VideoRelay
