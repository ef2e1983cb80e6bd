import VideoRelay.Proofs.Session.Uploading

set_option autoImplicit false

namespace VideoRelay

open Wire

namespace Session

structure Listened (preset : Preset) (messages : List StorageMessage) (put : List Bytes)
    (sent : List EncodeVideoRequest) (session : Session) (transcoder : Transcoder) : Prop where
  drained : transcoder.feeder.outcome?.isSome = true -> session.forwarded?.isSome = true /\
    forall descriptor, (put ≠ [] -> session.pipeline.slot = some descriptor) ->
      sent = upload descriptor.totalLength preset.id put
  closed : session.pipeline.chunks.receiving = false -> transcoder.feeder.outcome?.isSome = true
  whole : forall total, session.forwarded? = some (.ok total) -> session.pipeline.frames.ended = true /\
    put = Framing.intact false messages /\ Framing.offence? false messages = none

namespace Listened

variable {preset : Preset} {messages : List StorageMessage} {put : List Bytes} {sent : List EncodeVideoRequest}
  {session next : Session} {transcoder after : Transcoder}

theorem unclosed (before : Listened preset messages put sent session transcoder)
    (running : transcoder.feeder.outcome?.isSome ≠ true) : session.pipeline.chunks.receiving = true := by
  cases receiving : session.pipeline.chunks.receiving with
  | true => rfl
  | false => exact absurd (before.closed receiving) running

theorem forward (before : Listened preset messages put sent session transcoder) (moved : session.Forwards next)
    (forwarded : Forwarded messages (put ++ session.chunkArrival next) next) :
    Listened preset messages (put ++ session.chunkArrival next) sent next transcoder := by
  have unfinished := moved.unfinished
  have running : transcoder.feeder.outcome?.isSome ≠ true := by
    intro through
    have returned := (before.drained through).1
    simp [unfinished] at returned
  have unclosed := before.unclosed running
  have still : next.pipeline.chunks.receiving = session.pipeline.chunks.receiving := by cases moved <;> rfl
  refine ⟨fun through => absurd through running, ?_, fun total returned => ?_⟩
  next =>
    rw [still]
    exact before.closed
  next =>
    rcases (forwarded.stopped total returned).2 with closed | ⟨ended, clean, whole⟩
    next => exact absurd (unclosed.symm.trans (still.symm.trans closed)) (by simp)
    next => exact ⟨ended, whole.put, clean⟩

theorem feed (before : Listened preset messages put sent session transcoder) {pipeline : Pipeline}
    (moved : transcoder.Feeds session.pipeline after pipeline) (going : session.isOver = false)
    (feeding : Feeding session transcoder) (forwarded : Forwarded messages put session)
    {descriptor : Descriptor} {consumed : List Bytes}
    (uploading : Uploading preset put sent session transcoder descriptor consumed)
    (held : transcoder.call.held = true) (listening : transcoder.call.requests.receiving = true) :
    Listened preset messages put (sent ++ transcoder.call.requests.arrival after.call.requests)
      (session.afterLeg after pipeline) after := by
  have kept := feed_keepsStorage moved
  have same : (session.afterLeg after pipeline).forwarded? = session.forwarded? :=
    congrArg Forwarder.outcome? kept.forwarder
  obtain ⟨-, -, chunks⟩ := session.afterLeg_keeps after pipeline
  have unfinished := moved.unfinished
  have unclosed := before.unclosed (by simp [unfinished])
  have further (still : after.feeder.outcome? = none)
      (receiving : pipeline.chunks.receiving = session.pipeline.chunks.receiving) :
      Listened preset messages put (sent ++ transcoder.call.requests.arrival after.call.requests)
        (session.afterLeg after pipeline) after := by
    refine ⟨fun through => ?_, fun closed => ?_, ?_⟩
    next => simp [still] at through
    next =>
      rw [chunks, receiving, unclosed] at closed
      cases closed
    next => rw [same, kept.ended]; exact before.whole
  cases moved with
  | first | next | queue => exact further rfl rfl
  | put request pending => exact further (by cases pending <;> rfl) rfl
  | undescribed chunk reading going ready unsent unslotted =>
    have slotted := forwarded.filled (by simp [ready])
    simp [unslotted] at slotted
  | drain reading open_ drained through =>
    obtain ⟨counted, inHand⟩ := uploading.inHand unfinished
    have whole := uploading.whole unclosed
    simp only [drained, Option.toList_none, List.append_nil] at whole
    subst whole
    -- The chunk channel is at its end, which only the end of forwarding brings about.
    have returned := forwarded.isSome_of_senders going through
    have sends := inHand.rest
    simp only [reading, FeedPhase.request, FeedPhase.pending, datagramsFrom, List.map_nil, List.append_nil] at sends
    refine ⟨fun _ => ⟨by rw [same]; exact returned, fun later slotted => ?_⟩, fun _ => rfl, ?_⟩
    next =>
      rw [kept.slot] at slotted
      have unput : transcoder.call.requests.arrival
          (transcoder.finishFeeder session.pipeline (.ok ())).1.call.requests = [] := Channel.arrival_of_same rfl
      rw [unput, List.append_nil, ← sends]
      by_cases begun : put = []
      next => rw [begun]; rfl
      next =>
        cases (uploading.slotted begun).symm.trans (slotted begun)
        rfl
    next => rw [same, kept.ended]; exact before.whole
  | stop running through =>
    rcases through with done | refusing
    next => rw [feeding.holds.done, held] at done; cases done
    next => exact absurd (listening.symm.trans refusing) (by simp)

theorem act {action : Action} {descriptor : Descriptor} {consumed : List Bytes}
    (before : transcoder.call.held = true -> transcoder.call.requests.receiving = true ->
      Listened preset messages put sent session transcoder)
    (step : session.Step action next) (feeding : Feeding session transcoder) (fed : Feeding next after)
    (forwarded : Forwarded messages put session)
    (further : Forwarded (messages ++ delivered [action]) (put ++ session.chunkArrival next) next)
    (uploading : Uploading preset put sent session transcoder descriptor consumed)
    (held : after.call.held = true) (listening : after.call.requests.receiving = true) :
    Listened preset (messages ++ delivered [action]) (put ++ session.chunkArrival next)
      (sent ++ session.requestArrival next) next after := by
  rw [requestArrival_eq feeding.mode fed.mode]
  have kept := step.keepsStorage
  have aside (foreign : action ≠ .feed) (forwarder : next.forwarder = session.forwarder)
      (unput : session.chunkArrival next = []) (slot : next.pipeline.slot = session.pipeline.slot)
      (chunks : next.pipeline.chunks.receiving = session.pipeline.chunks.receiving)
      (unread : session.forwarded? = none \/ next.pipeline.frames.ended = session.pipeline.frames.ended /\
        delivered [action] = []) :
      Listened preset (messages ++ delivered [action]) (put ++ session.chunkArrival next)
        (sent ++ transcoder.call.requests.arrival after.call.requests) next after := by
    obtain ⟨same, mode, keeps⟩ := step.keepsFeeding feeding.mode feeding.holds foreign
    cases mode.symm.trans fed.mode
    -- A request channel that is open now was open all along.
    have earlier : transcoder.call.requests.receiving = true := by
      cases receiving : transcoder.call.requests.receiving with
      | true => rfl
      | false => exact absurd (listening.symm.trans (keeps.requests.receiving receiving)) (by simp)
    obtain ⟨drained, closed, whole⟩ := before (keeps.held held).1 earlier
    have returned : next.forwarded? = session.forwarded? := congrArg Forwarder.outcome? forwarder
    rw [unput, keeps.requests.arrival, List.append_nil, List.append_nil]
    refine ⟨?_, ?_, ?_⟩
    next => rw [keeps.feeder, returned, slot]; exact drained
    next => rw [keeps.feeder, chunks]; exact closed
    next =>
      rw [returned]
      intro total came
      rcases unread with unfinished | ⟨ended, nothing⟩
      next => rw [unfinished] at came; cases came
      next => rw [ended, nothing, List.append_nil]; exact whole total came
  cases step with
  | forward _ _ moved =>
    cases (moved.emitter.1.trans feeding.mode).symm.trans fed.mode
    rw [show delivered [Action.forward] = [] from rfl, List.append_nil] at further ⊢
    rw [Channel.arrival_of_same rfl, List.append_nil]
    exact (before held listening).forward moved further
  | feed earlier later pipeline going mode unaborted running moved =>
    cases feeding.mode.symm.trans mode
    cases (afterLeg_emitter session later pipeline).symm.trans fed.mode
    have kept := kept (by simp)
    have still : transcoder.call.requests.receiving = true := by
      cases moved <;> exact listening
    have holding := moved.call.2.2.symm.trans held
    rw [show delivered [Action.feed] = [] from rfl, List.append_nil, kept.chunkArrival, List.append_nil]
    exact (before holding still).feed moved going feeding forwarded uploading holding still
  | emit _ _ _ mode => cases feeding.mode.symm.trans mode
  | fetch earlier later pipeline going mode unaborted running moved =>
    have kept := kept (by simp)
    have same := (session.afterLeg_keeps later pipeline).2.2.trans moved.chunks
    exact aside (by simp) kept.forwarder kept.chunkArrival kept.slot (congrArg Channel.receiving same)
      (.inr ⟨kept.ended, rfl⟩)
  | abort => cases (fed.running held).1
  | join | leave => cases (fed.running held).2
  | deliver message reading | endStream reading =>
    exact aside (by simp) rfl (Channel.arrival_of_same rfl) rfl rfl (.inl (unfinished_of_isReading reading))
  | onCall | receiveHead | receiveFault | takeChunk | takeText | disconnect =>
    exact aside (by simp) rfl (Channel.arrival_of_same rfl) rfl rfl (.inr ⟨rfl, rfl⟩)

end Listened

theorem listened_of_run {preset : Preset} {session : Session} {actions : List Action}
    (run : Run (transcoding preset) actions session) {transcoder : Transcoder}
    (mode : session.emitter = .transcoding transcoder) (held : transcoder.call.held = true)
    (listening : transcoder.call.requests.receiving = true) :
    Listened preset (delivered actions) (chunksForwarded (transcoding preset) actions)
      (requestsSent (transcoding preset) actions) session transcoder := by
  refine run.keeps (fun done session => forall transcoder, session.emitter = .transcoding transcoder ->
    transcoder.call.held = true -> transcoder.call.requests.receiving = true ->
    Listened preset (delivered done) (chunksForwarded (transcoding preset) done)
      (requestsSent (transcoding preset) done) session transcoder) ?_ ?_ transcoder mode held listening
  next =>
    intro first mode _ _
    cases mode
    exact ⟨fun through => (by cases through), fun closed => (by cases closed), fun _ returned => (by cases returned)⟩
  next =>
    intro actions session action next run before possible after later held listening
    have step := step_of_act possible
    obtain ⟨transcoder, descriptor, consumed, feeding, uploading⟩ := uploading_of_run run
    obtain ⟨same, fed⟩ := feeding.act step
    cases fed.mode.symm.trans later
    have forwarded := forwarded_of_run run
    rw [delivered_append, chunksForwarded, requestsSent, trace_snoc chunkArrival run.reached possible,
      trace_snoc requestArrival run.reached possible]
    exact Listened.act (before transcoder feeding.mode) step feeding fed forwarded (forwarded.act step) uploading held
      listening

theorem Feeding.finished_of_halfClosed {session : Session} {transcoder : Transcoder}
    (feeding : Feeding session transcoder) (held : transcoder.call.held = true)
    (closed : transcoder.call.isHalfClosed = true) : transcoder.feeder.outcome?.isSome = true := by
  have senders := feeding.senders held
  simp only [Call.isHalfClosed, Bool.and_eq_true, decide_eq_true_eq] at closed
  rw [closed.1.2] at senders
  split at senders
  next through => exact through
  next => cases senders

theorem Feeding.halfClosed_of_finished {session : Session} {transcoder : Transcoder}
    (feeding : Feeding session transcoder) (held : transcoder.call.held = true)
    (fed : transcoder.feeder.outcome?.isSome = true) (empty : transcoder.call.requests.place = none) :
    transcoder.call.isHalfClosed = true := by
  have senders := feeding.senders held
  rw [fed] at senders
  simp [Call.isHalfClosed, held, senders, empty]

theorem requests_empty_of_untaken {session : Session} {transcoder : Transcoder}
    (mode : session.emitter = .transcoding transcoder)
    (takes : forall request, session.act (.onCall (.takeRequest request)) = none) :
    transcoder.call.requests.place = none := by
  cases place : transcoder.call.requests.place with
  | none => rfl
  | some request =>
    have stuck := takes request
    simp [act, call?, mode, Call.act, Channel.take, place] at stuck

theorem fed_or_unread {session : Session} {transcoder : Transcoder} {messages : List StorageMessage}
    {put : List Bytes} (forwarded : Forwarded messages put session) (going : session.isOver = false)
    (done : transcoder.call.done = false) (forwards : session.forward = none)
    (feeds : transcoder.feed session.pipeline = none)
    (unblocked : forall request, transcoder.call.requests.offer Feeder.requestSender request ≠ .blocked) :
    transcoder.feeder.outcome?.isSome = true \/ session.forwarder.phase = .reading /\
      session.pipeline.frames.items = [] /\ session.pipeline.frames.ended = false := by
  rcases Transcoder.feed_stuck done feeds with finished | ⟨-, drained, unended⟩ | ⟨request, blocked⟩
  next => exact .inl finished
  next =>
    rcases forward_stuck forwards with finished | unread | ⟨payload, -, blocked⟩
    next =>
      have alone := forwarded.senders going
      rw [finished] at alone
      exact absurd alone unended
    next => exact .inr unread
    next =>
      have unclosed := (Channel.offer_eq_blocked_iff.1 blocked).1
      have full := (forwarded.served unclosed).place_of_blocked blocked
      simp [drained] at full
  next => exact absurd blocked (unblocked request)

theorem isHalfClosed_of_stuck {session : Session} {transcoder : Transcoder} {messages : List StorageMessage}
    {put : List Bytes} (feeding : Feeding session transcoder) (forwarded : Forwarded messages put session)
    (held : transcoder.call.held = true) (listening : transcoder.call.requests.receiving = true)
    (ended : session.pipeline.frames.ended = true) (clean : Framing.offence? false messages = none)
    (forwards : session.act .forward = none) (feeds : session.act .feed = none)
    (takes : forall request, session.act (.onCall (.takeRequest request)) = none) :
    transcoder.call.isHalfClosed = true := by
  obtain ⟨running, going⟩ := feeding.running held
  have unaborted : session.abort = false := by
    cases abort : session.abort with
    | false => rfl
    | true =>
      obtain ⟨fault, failed⟩ := feeding.aborted abort
      rw [(forwarded.failed fault failed).1] at clean
      cases clean
  have done : transcoder.call.done = false := by rw [feeding.holds.done, held]; rfl
  have empty := requests_empty_of_untaken feeding.mode takes
  simp only [act, own, going, feeding.mode, unaborted, running, Bool.false_eq_true, ↓reduceIte] at feeds forwards
  refine feeding.halfClosed_of_finished held ?_ empty
  cases through : transcoder.feeder.outcome? with
  | some outcome => rfl
  | none =>
    have unblocked (request : EncodeVideoRequest) :
        transcoder.call.requests.offer Feeder.requestSender request ≠ .blocked := by
      intro blocked
      have full := (feeding.served listening through).place_of_blocked blocked
      simp [empty] at full
    rcases fed_or_unread forwarded going done forwards (Option.map_eq_none_iff.1 feeds) unblocked with
      finished | ⟨-, -, unread⟩
    next => simp [through] at finished
    next => exact absurd (ended.symm.trans unread) (by simp)

/-- Whatever storage and encoder do and in whatever order the parties move, the requests are a beginning of one header
and a datagram for each payload; they are all of them once an encoder that listens has come to the end of its input,
and nothing keeps it from coming there after storage has ended cleanly. -/
theorem upload_framing {preset : Preset} {stream : List StorageMessage} {actions : List Action}
    {session : Session} (run : Run (transcoding preset) actions session) (follows : Follows actions stream)
    (bounded : byteCount (Framing.intact false stream) < UInt64.size) :
    exists descriptor, (Framing.intact false stream ≠ [] -> Framing.descriptor? stream = some descriptor) /\
      chunksForwarded (transcoding preset) actions <+: Framing.intact false stream /\
      requestsSent (transcoding preset) actions <+:
        upload descriptor.totalLength preset.id (chunksForwarded (transcoding preset) actions) /\
      (forall index datagram, (datagramsFrom 0 (Framing.intact false stream))[index]? = some datagram ->
        (Framing.intact false stream)[index]? = some datagram.payload /\
          datagram.offset.toNat = byteCount ((Framing.intact false stream).take index)) /\
      forall call, session.call? = some call -> call.held = true -> call.requests.receiving = true ->
        call.isHalfClosed = true \/
          .endStream ∈ actions /\ Framing.offence? false stream = none /\ session.act .forward = none /\
            session.act .feed = none /\ (forall request, session.act (.onCall (.takeRequest request)) = none) ->
        requestsSent (transcoding preset) actions =
          upload descriptor.totalLength preset.id (Framing.intact false stream) := by
  obtain ⟨transcoder, slotted, consumed, feeding, uploading⟩ := uploading_of_run run
  have forwarded := forwarded_of_run run
  have beginning : Framing.intact false (delivered actions) <+: Framing.intact false stream := by
    obtain ⟨rest, rfl⟩ := follows.messages
    exact Framing.intact_mono false _ rest
  obtain ⟨descriptor, described, filled⟩ := forwarded.descriptor_of_follows follows.messages
  refine ⟨descriptor, described, forwarded.accepted.trans beginning, ?_, ?_, ?_⟩
  next =>
    have begun := uploading.begun
    -- Before the first chunk the descriptor need not be known, but nothing is sent either.
    by_cases fresh : consumed = []
    next =>
      rw [fresh, upload_nil, List.prefix_nil] at begun
      rw [begun]
      exact List.nil_prefix
    next =>
      rw [filled slotted (uploading.slotted fresh)] at begun
      exact begun.trans (upload_mono descriptor.totalLength preset.id uploading.order)
  next =>
    intro index datagram found
    refine ⟨?_, ?_⟩
    next =>
      have payload := congrArg (Option.map Datagram.payload) found
      rwa [← List.getElem?_map, datagramsFrom_payloads] at payload
    next => simpa using datagramsFrom_offset (by simpa using bounded) found
  next =>
    intro call same held listening finished
    obtain rfl : transcoder.call = call := by simpa [call?, feeding.mode] using same
    have closed : transcoder.call.isHalfClosed = true := by
      rcases finished with closed | ⟨ended, clean, forwards, feeds, takes⟩
      next => exact closed
      next =>
        rw [← follows.complete ended] at clean
        exact isHalfClosed_of_stuck feeding forwarded held listening ((ended_of_run run).2 ended) clean forwards feeds
          takes
    have through := feeding.finished_of_halfClosed held closed
    have listened := listened_of_run run feeding.mode held listening
    obtain ⟨returned, sent⟩ := listened.drained through
    obtain ⟨outcome, returned⟩ := Option.isSome_iff_exists.1 returned
    cases outcome with
    | error fault => simp [(feeding.failed fault returned).1] at through
    | ok total =>
      obtain ⟨ended, whole, -⟩ := listened.whole total returned
      rw [follows.complete ((ended_of_run run).1 ended)] at whole
      rw [← whole]
      refine sent descriptor fun something => ?_
      have seen := forwarded.slotted.trans
        (forwarded.seen fun nothing => something (List.append_eq_nil_iff.1 nothing).1)
      obtain ⟨known, slot⟩ := Option.isSome_iff_exists.1 seen
      rw [slot, filled known slot]

def clipUploaded : List Action :=
  (Framing.framed clip clipDatagrams).map .deliver ++
    [.endStream, .forward, .forward, .forward, .feed, .feed, .forward, .forward,
      .onCall (.takeRequest (uploadHeader 3 "small")), .feed, .feed, .feed, .forward, .forward,
      .onCall (.takeRequest (uploadDatagram 0 [1, 2])), .feed, .forward, .feed, .feed,
      .onCall (.takeRequest (uploadDatagram 2 [])), .feed, .feed,
      .onCall (.takeRequest (uploadDatagram 2 [3]))]

theorem clip_uploaded :
    requestsSent (transcoding smallPreset) clipUploaded = [uploadHeader 3 "small", uploadDatagram 0 [1, 2],
      uploadDatagram 2 [], uploadDatagram 2 [3]] := by
  obtain ⟨session, call, followed, same, held, listening, closed⟩ : exists session call,
      follow act (transcoding smallPreset) clipUploaded = some session /\ session.call? = some call /\
        call.held = true /\ call.requests.receiving = true /\ call.isHalfClosed = true :=
    ⟨_, _, rfl, rfl, rfl, rfl, rfl⟩
  have follows : Follows clipUploaded (Framing.framed clip clipDatagrams) := ⟨List.prefix_rfl, fun _ => rfl⟩
  obtain ⟨descriptor, described, -, -, -, sent⟩ := upload_framing (run_of_follow followed) follows (by decide)
  cases described (by decide)
  exact sent call same held listening (.inl closed)

end Session

end VideoRelay
