import VideoRelay.Proofs.Session.Feeding
import VideoRelay.Proofs.Upload

set_option autoImplicit false

namespace VideoRelay

open Wire

def FeedPhase.pending : FeedPhase -> List Bytes
  | sending _ pending | waiting _ pending => pending.toList
  | reading | finished _ => []

def FeedPhase.request : FeedPhase -> List EncodeVideoRequest
  | sending request _ | waiting request _ => [request]
  | reading | finished _ => []

namespace Feeder

structure InHand (feeder : Feeder) (whole sent : List EncodeVideoRequest) (counted consumed : List Bytes) :
    Prop where
  consumed : consumed = counted ++ feeder.phase.pending
  first : feeder.phase.pending ≠ [] -> counted = []
  counts : feeder.offsets.total = .ofNat (byteCount counted)
  header : feeder.headerSent = true <-> counted ≠ []
  rest : whole = sent ++ feeder.phase.request ++
    (datagramsFrom (byteCount counted) feeder.phase.pending).map .datagram

namespace InHand

variable {feeder : Feeder} {totalLength : UInt64} {presetId : String} {sent : List EncodeVideoRequest}
  {counted consumed : List Bytes}

theorem begun {whole : List EncodeVideoRequest} (inHand : feeder.InHand whole sent counted consumed) :
    sent <+: whole := by
  rw [inHand.rest, List.append_assoc]
  exact List.prefix_append _ _

theorem opening (inHand : feeder.InHand (upload totalLength presetId consumed) sent counted consumed)
    (reading : feeder.phase = .reading) (unsent : feeder.headerSent = false) (length : UInt64) (chunk : Bytes) :
    consumed = [] /\ InHand { feeder with phase := .sending (uploadHeader length presetId) (some chunk) }
      (upload length presetId [chunk]) sent [] [chunk] := by
  obtain ⟨consumes, -, counts, header, rest⟩ := inHand
  -- Without a header nothing was counted, and with nothing counted nothing was sent.
  have uncounted : counted = [] := by
    cases counted with
    | nil => rfl
    | cons _ _ => simp [unsent] at header
  subst uncounted
  simp only [reading, FeedPhase.pending, List.append_nil] at consumes
  subst consumes
  have unput : sent = [] := by simpa [reading, FeedPhase.request, FeedPhase.pending, datagramsFrom] using rest.symm
  refine ⟨rfl, rfl, fun _ => rfl, counts, header, ?_⟩
  simp [unput, upload, FeedPhase.request, FeedPhase.pending, byteCount]

theorem datagram (inHand : feeder.InHand (upload totalLength presetId consumed) sent counted consumed)
    (reading : feeder.phase = .reading) (later : feeder.headerSent = true) (chunk : Bytes) :
    consumed ≠ [] /\ (feeder.datagram chunk).InHand (upload totalLength presetId (consumed ++ [chunk])) sent
      (consumed ++ [chunk]) (consumed ++ [chunk]) := by
  obtain ⟨consumes, -, counts, header, rest⟩ := inHand
  have counting := header.1 later
  simp only [reading, FeedPhase.pending, List.append_nil] at consumes
  subst consumes
  simp only [reading, FeedPhase.request, FeedPhase.pending, datagramsFrom, List.map_nil, List.append_nil] at rest
  have advance := RunningOffset.advance_eq counts chunk
  refine ⟨counting, ?_⟩
  constructor
  case consumed => simp [Feeder.datagram, FeedPhase.pending]
  case first => simp [Feeder.datagram, FeedPhase.pending]
  case counts => simp [Feeder.datagram, advance]
  case header => simp [Feeder.datagram]
  case rest =>
    rw [upload_append totalLength presetId counting, rest]
    simp [Feeder.datagram, advance, FeedPhase.request, FeedPhase.pending, datagramsFrom, uploadDatagram]

theorem put {whole : List EncodeVideoRequest} (inHand : feeder.InHand whole sent counted consumed)
    {request : EncodeVideoRequest} {pending : Option Bytes}
    (offered : feeder.phase = .sending request pending \/ feeder.phase = .waiting request pending) :
    exists later, (feeder.sent pending).InHand whole (sent ++ [request]) later consumed := by
  obtain ⟨consumes, first, counts, header, rest⟩ := inHand
  have behind : feeder.phase.pending = pending.toList := by rcases offered with phase | phase <;> rw [phase] <;> rfl
  have offers : feeder.phase.request = [request] := by rcases offered with phase | phase <;> rw [phase] <;> rfl
  rw [behind] at consumes first rest
  rw [offers] at rest
  cases pending with
  | none =>
    refine ⟨counted, consumes, fun none => absurd rfl none, counts, header, ?_⟩
    simpa [Feeder.sent, FeedPhase.request, FeedPhase.pending, datagramsFrom] using rest
  | some chunk =>
    have uncounted := first (by simp)
    subst uncounted
    have advance := RunningOffset.advance_eq counts chunk
    refine ⟨[chunk], ?_⟩
    constructor
    case consumed => simpa [Feeder.sent, Feeder.datagram, FeedPhase.pending] using consumes
    case first => simp [Feeder.sent, Feeder.datagram, FeedPhase.pending]
    case counts => simp [Feeder.sent, Feeder.datagram, advance]
    case header => simp [Feeder.sent, Feeder.datagram]
    case rest =>
      rw [rest]
      simp [Feeder.sent, Feeder.datagram, advance, FeedPhase.request, FeedPhase.pending, datagramsFrom,
        uploadDatagram]

theorem queue {whole : List EncodeVideoRequest} (inHand : feeder.InHand whole sent counted consumed)
    {request : EncodeVideoRequest} {pending : Option Bytes}
    (offered : feeder.phase = .sending request pending \/ feeder.phase = .waiting request pending) :
    InHand { feeder with phase := .waiting request pending } whole sent counted consumed := by
  obtain ⟨consumes, first, counts, header, rest⟩ := inHand
  have behind : feeder.phase.pending = pending.toList := by rcases offered with phase | phase <;> rw [phase] <;> rfl
  have offers : feeder.phase.request = [request] := by rcases offered with phase | phase <;> rw [phase] <;> rfl
  rw [behind] at consumes first rest
  rw [offers] at rest
  exact ⟨consumes, first, counts, header, rest⟩

end InHand

end Feeder

namespace Session

/-- A session whose feeder has consumed these of the chunks that were forwarded, and has sent these requests. -/
structure Uploading (preset : Preset) (put : List Bytes) (sent : List EncodeVideoRequest) (session : Session)
    (transcoder : Transcoder) (descriptor : Descriptor) (consumed : List Bytes) : Prop where
  mode : session.emitter = .transcoding transcoder
  chosen : transcoder.preset = preset
  slotted : consumed ≠ [] -> session.pipeline.slot = some descriptor
  order : consumed <+: put
  whole : session.pipeline.chunks.receiving = true -> put = consumed ++ session.pipeline.chunks.place.toList
  begun : sent <+: upload descriptor.totalLength preset.id consumed
  inHand : transcoder.feeder.outcome? = none -> exists counted,
    transcoder.feeder.InHand (upload descriptor.totalLength preset.id consumed) sent counted consumed

theorem requestArrival_eq {session next : Session} {transcoder after : Transcoder}
    (mode : session.emitter = .transcoding transcoder) (later : next.emitter = .transcoding after) :
    session.requestArrival next = transcoder.call.requests.arrival after.call.requests := by
  simp only [requestArrival, call?, mode, later]

namespace Uploading

variable {preset : Preset} {put : List Bytes} {sent : List EncodeVideoRequest} {session next : Session}
  {transcoder after : Transcoder} {descriptor : Descriptor} {consumed : List Bytes}

theorem aside (before : Uploading preset put sent session transcoder descriptor consumed)
    (mode : next.emitter = .transcoding after) (kept : transcoder.KeepsFeeding after)
    (slot : next.pipeline.slot = session.pipeline.slot)
    (chunks : next.pipeline.chunks.receiving = true -> session.pipeline.chunks.receiving = true /\
      next.pipeline.chunks.place = session.pipeline.chunks.place) :
    Uploading preset put sent next after descriptor consumed := by
  refine ⟨mode, kept.preset.trans before.chosen, ?_, before.order, fun unclosed => ?_, before.begun, ?_⟩
  next => rw [slot]; exact before.slotted
  next =>
    rw [(chunks unclosed).2]
    exact before.whole (chunks unclosed).1
  next => rw [kept.feeder]; exact before.inHand

theorem forward (before : Uploading preset put sent session transcoder descriptor consumed)
    (moved : session.Forwards next)
    (served : session.pipeline.chunks.receiving = true ->
      session.pipeline.chunks.Serves Forwarder.chunkSender session.forwarder.phase.isWaiting) :
    Uploading preset (put ++ session.chunkArrival next) sent next transcoder descriptor consumed := by
  have mode := moved.emitter.1.trans before.mode
  have unput (same : next.pipeline.chunks.place = session.pipeline.chunks.place)
      (still : next.pipeline.chunks.receiving = session.pipeline.chunks.receiving)
      (slotted : consumed ≠ [] -> next.pipeline.slot = some descriptor) :
      Uploading preset (put ++ session.chunkArrival next) sent next transcoder descriptor consumed := by
    rw [chunkArrival, Channel.arrival_of_same same, List.append_nil]
    refine ⟨mode, before.chosen, slotted, before.order, ?_, before.begun, before.inHand⟩
    rw [same, still]
    exact before.whole
  cases moved with
  | header video rest reading unclosed ready first unset =>
    refine unput rfl rfl fun begun => ?_
    -- The slot is filled for the first time, so that nothing was consumed before.
    have slotted := before.slotted begun
    rw [unset] at slotted
    cases slotted
  | datagram | refuse | queue | abandon | finish => exact unput rfl rfl before.slotted
  | put payload held unclosed granted =>
    have empty := (served unclosed).place_of_granted granted
    refine ⟨mode, before.chosen, before.slotted, before.order.trans (List.prefix_append _ _), fun _ => ?_,
      before.begun, before.inHand⟩
    have whole := before.whole unclosed
    simp only [empty, Option.toList_none, List.append_nil] at whole
    simp only [chunkArrival, Channel.arrival, empty, whole]

theorem unput {requests : Channel EncodeVideoRequest} (same : requests.place = transcoder.call.requests.place)
    (kept : exists later rest, Uploading preset put sent next after later rest) :
    exists later rest, Uploading preset put (sent ++ transcoder.call.requests.arrival requests) next after later
      rest := by
  rw [Channel.arrival_of_same same, List.append_nil]
  exact kept

theorem of_inHand (mode : session.emitter = .transcoding transcoder) (chosen : transcoder.preset = preset)
    (slotted : consumed ≠ [] -> session.pipeline.slot = some descriptor)
    (whole : put = consumed ++ session.pipeline.chunks.place.toList)
    (inHand : exists counted, transcoder.feeder.InHand (upload descriptor.totalLength preset.id consumed) sent
      counted consumed) :
    Uploading preset put sent session transcoder descriptor consumed := by
  obtain ⟨counted, inHand⟩ := inHand
  exact ⟨mode, chosen, slotted, whole ▸ List.prefix_append _ _, fun _ => whole, inHand.begun,
    fun _ => ⟨counted, inHand⟩⟩

theorem feed (before : Uploading preset put sent session transcoder descriptor consumed) {pipeline : Pipeline}
    (moved : transcoder.Feeds session.pipeline after pipeline) (feeding : Feeding session transcoder)
    (lost : session.pipeline.chunks.receiving = false -> session.pipeline.chunks.place = none) :
    exists later rest, Uploading preset put (sent ++ transcoder.call.requests.arrival after.call.requests)
      (session.afterLeg after pipeline) after later rest := by
  obtain ⟨-, -, chunks⟩ := session.afterLeg_keeps after pipeline
  have slot := (feed_keepsStorage moved).slot
  have mode := afterLeg_emitter session after pipeline
  have unfinished := moved.unfinished
  obtain ⟨counted, inHand⟩ := before.inHand unfinished
  have taken (chunk : Bytes) (ready : session.pipeline.chunks.place = some chunk) : put = consumed ++ [chunk] := by
    rw [before.whole (Channel.receiving_of_place lost ready), ready]
    rfl
  cases moved with
  | first chunk described reading going ready unsent slotted =>
    have whole := taken chunk ready
    -- As long as nothing is consumed any descriptor will do; from here on it is the one in the slot.
    obtain ⟨rfl, opening⟩ := inHand.opening reading unsent described.totalLength chunk
    refine unput rfl ⟨described, [chunk], of_inHand mode before.chosen (fun _ => slot.trans slotted) ?_ ?_⟩
    next => rw [chunks, whole]; rfl
    next => exact ⟨[], before.chosen ▸ opening⟩
  | next chunk reading going ready later =>
    have whole := taken chunk ready
    obtain ⟨begun, datagram⟩ := inHand.datagram reading later chunk
    refine unput rfl ⟨descriptor, consumed ++ [chunk], of_inHand mode before.chosen ?_ ?_ ⟨_, datagram⟩⟩
    next => exact fun _ => slot.trans (before.slotted begun)
    next => rw [chunks, whole]; simp [Channel.taken]
  | undescribed | drain | stop =>
    refine unput rfl ⟨descriptor, consumed, mode, before.chosen, fun begun => ?_, before.order, fun unclosed => ?_,
      before.begun, fun through => (by cases through)⟩
    next => exact slot.trans (before.slotted begun)
    next => rw [chunks] at unclosed; cases unclosed
  | put request pending offered going open_ granted =>
    have empty := (feeding.served open_ unfinished).place_of_granted granted
    have arrival : transcoder.call.requests.arrival _ = [request] := Channel.arrival_of_put empty
    obtain ⟨later, put⟩ := inHand.put offered
    refine ⟨descriptor, consumed, mode, before.chosen, fun begun => slot.trans (before.slotted begun), before.order,
      ?_, ?_, fun _ => ⟨later, ?_⟩⟩
    next => rw [chunks]; exact before.whole
    next => exact arrival ▸ put.begun
    next => exact arrival ▸ put
  | queue request pending offered =>
    refine unput rfl ⟨descriptor, consumed, mode, before.chosen, fun begun => slot.trans (before.slotted begun),
      before.order, ?_, before.begun, fun _ => ⟨counted, inHand.queue offered⟩⟩
    rw [chunks]
    exact before.whole

theorem act {action : Action} {messages : List StorageMessage}
    (before : Uploading preset put sent session transcoder descriptor consumed) (step : session.Step action next)
    (feeding : Feeding session transcoder) (forwarded : Forwarded messages put session) :
    exists after later rest, Uploading preset (put ++ session.chunkArrival next) (sent ++ session.requestArrival next)
      next after later rest := by
  have aside (foreign : action ≠ .feed) (unput : session.chunkArrival next = [])
      (slot : next.pipeline.slot = session.pipeline.slot)
      (chunks : next.pipeline.chunks.receiving = true -> session.pipeline.chunks.receiving = true /\
        next.pipeline.chunks.place = session.pipeline.chunks.place) :
      exists after later rest, Uploading preset (put ++ session.chunkArrival next)
        (sent ++ session.requestArrival next) next after later rest := by
    obtain ⟨after, mode, kept⟩ := step.keepsFeeding before.mode feeding.holds foreign
    rw [unput, requestArrival_eq before.mode mode, kept.requests.arrival, List.append_nil, List.append_nil]
    exact ⟨after, descriptor, consumed, before.aside mode kept slot chunks⟩
  have kept := step.keepsStorage
  cases step with
  | forward _ _ moved =>
    have mode := moved.emitter.1.trans before.mode
    rw [requestArrival_eq before.mode mode, Channel.arrival_of_same rfl, List.append_nil]
    exact ⟨transcoder, descriptor, consumed, before.forward moved forwarded.served⟩
  | feed earlier after pipeline going mode unaborted running moved =>
    cases before.mode.symm.trans mode
    have kept := kept (by simp)
    rw [kept.chunkArrival, requestArrival_eq before.mode (afterLeg_emitter _ _ _), List.append_nil]
    exact ⟨after, before.feed moved feeding forwarded.lost⟩
  | emit _ _ _ mode => cases before.mode.symm.trans mode
  | fetch earlier after pipeline going mode unaborted running moved =>
    have kept := kept (by simp)
    refine aside (by simp) kept.chunkArrival kept.slot fun unclosed => ?_
    have same := (session.afterLeg_keeps after pipeline).2.2.trans moved.chunks
    rw [same] at unclosed ⊢
    exact ⟨unclosed, rfl⟩
  | abort =>
    have kept := kept (by simp)
    exact aside (by simp) kept.chunkArrival kept.slot session.dropEmitter_dropped.unclosed
  | leave =>
    have kept := kept (by simp)
    exact aside (by simp) kept.chunkArrival kept.slot cutShort_unclosed
  | join | onCall | deliver | endStream | receiveHead | receiveFault | takeChunk | takeText | disconnect =>
    exact aside (by simp) (Channel.arrival_of_same rfl) rfl fun unclosed => ⟨unclosed, rfl⟩

end Uploading

theorem uploading_of_run {preset : Preset} {session : Session} {actions : List Action}
    (run : Run (transcoding preset) actions session) : exists transcoder descriptor consumed,
      Feeding session transcoder /\ Uploading preset (chunksForwarded (transcoding preset) actions)
        (requestsSent (transcoding preset) actions) session transcoder descriptor consumed := by
  refine run.keeps (fun done session => exists transcoder descriptor consumed, Feeding session transcoder /\
    Uploading preset (chunksForwarded (transcoding preset) done) (requestsSent (transcoding preset) done) session
      transcoder descriptor consumed) ?_ ?_
  next =>
    refine ⟨{ preset }, { id := "", totalLength := 0, mimeType := "", fileName := "" }, [], feeding_start preset, ?_⟩
    refine .of_inHand rfl rfl (fun begun => absurd rfl begun) rfl ⟨[], rfl, fun none => absurd rfl none, rfl, ?_, rfl⟩
    exact ⟨fun sent => (by cases sent), fun begun => absurd rfl begun⟩
  next =>
    intro actions session action next run before possible
    obtain ⟨transcoder, descriptor, consumed, feeding, before⟩ := before
    have step := step_of_act possible
    obtain ⟨after, fed⟩ := feeding.act step
    rw [chunksForwarded, requestsSent, trace_snoc chunkArrival run.reached possible,
      trace_snoc requestArrival run.reached possible]
    obtain ⟨same, later, rest, uploading⟩ := before.act step feeding (forwarded_of_run run)
    cases fed.mode.symm.trans uploading.mode
    exact ⟨after, later, rest, fed, uploading⟩

end Session

end VideoRelay
