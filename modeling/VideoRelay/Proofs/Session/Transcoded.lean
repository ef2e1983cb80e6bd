import VideoRelay.Proofs.Session.Typing

set_option autoImplicit false

namespace VideoRelay

open Wire

namespace Session

def Action.endsCall : Action -> Bool
  | onCall action => action.endsCall
  | _ => false

def Action.breaksCall : Action -> Bool
  | onCall (.answer (.error _)) | onCall (.reply (.error _)) => true
  | _ => false

theorem Action.endsCall_of_breaksCall {action : Action} (breaks : action.breaksCall = true) :
    action.endsCall = true := by
  unfold breaksCall at breaks
  split at breaks
  next => rfl
  next => rfl
  next => cases breaks

variable {session next : Session} {action : Action} {actions done : List Action} {transcoder : Transcoder}

structure Hearing (done : List Action) (transcoder : Transcoder) : Prop where
  answered : forall answer, transcoder.call.answer = some answer -> .onCall (.answer answer) ∈ done
  replied : forall reply, reply ∈ transcoder.call.replies.items -> .onCall (.reply reply) ∈ done
  ceased : (exists action, action ∈ done /\ action.endsCall = true) -> transcoder.call.isOver = true
  ended : .onCall .endReplies ∈ done -> transcoder.call.answer = some (.ok ()) /\
    forall action, action ∈ done -> action.breaksCall = false

structure KeepsCall (before after : Transcoder) : Prop where
  answer : after.call.answer = before.call.answer
  replies : exists taken, before.call.replies.items = taken ++ after.call.replies.items
  ceased : before.call.isOver = true -> after.call.isOver = true

theorem drop_keepsCall (handle : Nat) (transcoder : Transcoder) (pipeline : Pipeline) :
    KeepsCall transcoder (transcoder.drop handle pipeline).1 := by
  unfold Transcoder.drop
  by_cases fed : transcoder.feeder.outcome?.isSome = true <;>
    by_cases fetched : transcoder.fetcher.outcome?.isSome = true <;>
    simp only [fed, fetched, Transcoder.releaseFeeder, Transcoder.releaseFetcher, Bool.false_eq_true, ↓reduceIte]
  next => exact ⟨rfl, ⟨[], rfl⟩, id⟩
  next => exact ⟨rfl, ⟨[], rfl⟩, fun _ => rfl⟩
  next => exact ⟨rfl, ⟨[], rfl⟩, id⟩
  next => exact ⟨rfl, ⟨[], rfl⟩, fun _ => rfl⟩

theorem fetch_keepsCall {handle : Nat} {after : Transcoder} {before pipeline : Pipeline}
    (moved : transcoder.Fetches handle before after pipeline) : KeepsCall transcoder after := by
  cases moved with
  | answered | write | wrote => exact ⟨rfl, ⟨[], rfl⟩, id⟩
  | refused | finish | unwritten => exact ⟨rfl, ⟨[], rfl⟩, fun _ => rfl⟩
  | broken _ status _ _ ready => exact ⟨rfl, ⟨[.error status], ready⟩, fun _ => rfl⟩
  | skip _ reply rest _ ready | receive _ reply rest _ _ ready =>
    refine ⟨rfl, ⟨[.ok reply], ready⟩, fun ceased => ?_⟩
    simpa [Call.isOver, Call.isRefused, Transcoder.withReplies, ready] using ceased

theorem Step.keepsCall (step : session.Step action next) (mode : session.emitter = .transcoding transcoder)
    (foreign : forall move, action ≠ .onCall move) :
    exists after, next.emitter = .transcoding after /\ KeepsCall transcoder after := by
  have refl : KeepsCall transcoder transcoder := ⟨rfl, ⟨[], rfl⟩, id⟩
  cases step with
  | onCall move => exact absurd rfl (foreign move)
  | emit _ _ _ stored => cases mode.symm.trans stored
  | forward _ _ moved => exact ⟨transcoder, moved.emitter.1.trans mode, refl⟩
  | feed earlier after pipeline _ same _ _ moved =>
    cases mode.symm.trans same
    exact ⟨after, afterLeg_emitter _ _ _, by cases moved <;> exact ⟨rfl, ⟨[], rfl⟩, id⟩⟩
  | fetch earlier after pipeline _ same _ _ moved =>
    cases mode.symm.trans same
    exact ⟨after, afterLeg_emitter _ _ _, fetch_keepsCall moved⟩
  | abort => exact ⟨_, dropEmitter_transcoder mode, drop_keepsCall _ _ _⟩
  | leave =>
    have cut := cutShort_transcoder mode
    split at cut
    next => exact ⟨transcoder, cut, refl⟩
    next => exact ⟨_, cut, drop_keepsCall _ _ _⟩
  | join | deliver | endStream | receiveHead | receiveFault | takeChunk | takeText | disconnect =>
    exact ⟨transcoder, mode, refl⟩

namespace Hearing

theorem aside (before : Hearing done transcoder) {after : Transcoder} (kept : KeepsCall transcoder after)
    (foreign : forall move, action ≠ .onCall move) : Hearing (done ++ [action]) after := by
  have unended : action.endsCall = false /\ action.breaksCall = false := by
    cases action with
    | onCall move => exact absurd rfl (foreign move)
    | _ => exact ⟨rfl, rfl⟩
  obtain ⟨taken, split⟩ := kept.replies
  refine ⟨fun answer known => ?_, fun reply waiting => ?_, fun told => ?_, fun told => ?_⟩
  next => exact List.mem_append_left _ (before.answered answer (kept.answer.symm.trans known))
  next => exact List.mem_append_left _ (before.replied reply (split ▸ List.mem_append_right taken waiting))
  next =>
    obtain ⟨ending, among, ends⟩ := told
    rcases List.mem_append.1 among with earlier | now
    next => exact kept.ceased (before.ceased ⟨ending, earlier, ends⟩)
    next => rw [List.mem_singleton.1 now, unended.1] at ends; cases ends
  next =>
    rcases List.mem_append.1 told with earlier | now
    next =>
      obtain ⟨accepted, intact⟩ := before.ended earlier
      refine ⟨kept.answer.trans accepted, fun other among => ?_⟩
      rcases List.mem_append.1 among with earlier | now
      next => exact intact other earlier
      next => rw [List.mem_singleton.1 now]; exact unended.2
    next => exact absurd (List.mem_singleton.1 now).symm (foreign _)

theorem onCall (before : Hearing done transcoder) {move : CallAction EncodeHeader} {call : EncodeCall}
    (acted : transcoder.call.act move = some call) :
    Hearing (done ++ [.onCall move]) { transcoder with call } := by
  have ceased (told : exists ending, ending ∈ done ++ [.onCall move] /\ ending.endsCall = true) :
      call.isOver = true := by
    obtain ⟨ending, among, ends⟩ := told
    rcases List.mem_append.1 among with earlier | now
    next => exact Call.over_of_act acted (before.ceased ⟨ending, earlier, ends⟩)
    next => rw [List.mem_singleton.1 now] at ends; exact Call.over_of_endsCall acted ends
  have still (answer : Except Status Unit) (known : transcoder.call.answer = some answer) :
      .onCall (.answer answer) ∈ done ++ [.onCall move] := List.mem_append_left _ (before.answered answer known)
  have waits (reply : Except Status EncodeVideoResponse) (waiting : reply ∈ transcoder.call.replies.items) :
      .onCall (.reply reply) ∈ done ++ [.onCall move] := List.mem_append_left _ (before.replied reply waiting)
  have later (further : move ≠ .endReplies) (answer : call.answer = transcoder.call.answer)
      (unbroken : Action.breaksCall (.onCall move) = false \/ transcoder.call.isOver = false)
      (told : .onCall .endReplies ∈ done ++ [.onCall move]) :
      call.answer = some (.ok ()) /\ forall action, action ∈ done ++ [.onCall move] -> action.breaksCall = false := by
    have earlier : .onCall .endReplies ∈ done := by simpa [further.symm] using told
    obtain ⟨accepted, intact⟩ := before.ended earlier
    have through := before.ceased ⟨_, earlier, rfl⟩
    refine ⟨answer.trans accepted, fun other among => ?_⟩
    rcases List.mem_append.1 among with before | now
    next => exact intact other before
    next =>
      rw [List.mem_singleton.1 now]
      exact unbroken.resolve_right (by simp [through])
  cases Call.move_of_act acted with
  | takeRequest | closeRequests => exact ⟨still, waits, ceased, later (by simp) rfl (.inl rfl)⟩
  | reply reply =>
    refine ⟨still, fun other waiting => ?_, ceased,
      later (by simp) rfl (.inr (Call.going_of_canReply (Call.able_of_reply acted)))⟩
    rcases List.mem_append.1 waiting with earlier | now
    next => exact waits other earlier
    next => rw [List.mem_singleton.1 now]; simp
  | answer answer =>
    have unanswered := Call.unanswered_of_act acted
    refine ⟨fun given known => ?_, waits, ceased, fun told => ?_⟩
    next => cases known; simp
    next =>
      -- A call that was ended was answered before.
      have earlier : .onCall .endReplies ∈ done := by simpa using told
      cases unanswered.symm.trans (before.ended earlier).1
  | endReplies =>
    have able := Call.able_of_endReplies acted
    have accepted := Call.accepted_of_canReply able
    refine ⟨still, waits, ceased, fun _ => ⟨accepted, fun other among => ?_⟩⟩
    rcases List.mem_append.1 among with earlier | now
    next =>
      -- What breaks a call off ends it, and nothing comes after its end.
      cases breaks : other.breaksCall with
      | false => rfl
      | true =>
        have through := before.ceased ⟨other, earlier, Action.endsCall_of_breaksCall breaks⟩
        cases (Call.going_of_canReply able).symm.trans through
    next => rw [List.mem_singleton.1 now]; rfl

theorem act (before : Hearing done transcoder) (step : session.Step action next)
    (mode : session.emitter = .transcoding transcoder) :
    exists after, next.emitter = .transcoding after /\ Hearing (done ++ [action]) after := by
  by_cases heard : exists move, action = .onCall move
  next =>
    obtain ⟨move, rfl⟩ := heard
    cases step with
    | onCall _ earlier call same acted =>
      cases mode.symm.trans same
      exact ⟨{ transcoder with call }, rfl, before.onCall acted⟩
  next =>
    have foreign (move : CallAction EncodeHeader) : action ≠ .onCall move := fun same => heard ⟨move, same⟩
    obtain ⟨after, mode, kept⟩ := step.keepsCall mode foreign
    exact ⟨after, mode, before.aside kept foreign⟩

end Hearing

theorem hearing_of_run {preset : Preset} (run : Run (transcoding preset) actions session) :
    exists transcoder, session.emitter = .transcoding transcoder /\ Hearing actions transcoder := by
  refine run.keeps (fun done session => exists transcoder, session.emitter = .transcoding transcoder /\
    Hearing done transcoder) ⟨{ preset }, rfl, fun _ known => (by cases known), fun _ waiting => (by cases waiting),
      fun told => (by simp at told), fun told => (by cases told)⟩ ?_
  rintro actions session action next run ⟨transcoder, mode, before⟩ possible
  exact before.act (step_of_act possible) mode

structure Sound (session : Session) (transcoder : Transcoder) : Prop where
  mode : session.emitter = .transcoding transcoder
  commit : session.sink.commit ≠ .failed
  fetcher : transcoder.fetcher.isBroken = false
  feeder : forall fault, transcoder.feeder.outcome? ≠ some (.error fault)
  returned : forall outcome, session.emitted = some outcome -> transcoder.outcome? = some outcome

theorem outcome_of_sound (fetcher : transcoder.fetcher.isBroken = false)
    (feeder : forall fault, transcoder.feeder.outcome? ≠ some (.error fault)) (fault : Fault) :
    transcoder.outcome? ≠ some (.error fault) := by
  intro failed
  unfold Transcoder.outcome? at failed
  split at failed
  next received sent fetched fed =>
    cases received with
    | error broken =>
      cases phase : transcoder.fetcher with
      | finished outcome =>
        rw [phase] at fetched fetcher
        cases fetched
        cases fetcher
      | calling | reading | writing => rw [phase] at fetched; cases fetched
    | ok _ => exact feeder fault (fed.trans failed)
  next => cases failed

theorem unfailed_of_feeds (filled : session.pipeline.chunks.place.isSome = true -> session.pipeline.slot.isSome = true)
    {after : Transcoder} {pipeline : Pipeline} (moved : transcoder.Feeds session.pipeline after pipeline)
    (fault : Fault) : after.feeder.outcome? ≠ some (.error fault) := by
  cases moved with
  | first | next | queue => simp [Feeder.outcome?, Transcoder.withFeeder, Transcoder.withRequests, Feeder.datagram]
  | put _ pending =>
    cases pending <;>
      simp [Feeder.outcome?, Transcoder.withFeeder, Transcoder.withRequests, Feeder.sent, Feeder.datagram]
  | drain | stop => simp [Transcoder.finishFeeder, Transcoder.releaseFeeder, Feeder.finish, Feeder.outcome?]
  -- No chunk comes before the header.
  | undescribed _ _ _ ready _ unslotted =>
    have slotted := filled (by simp [ready])
    rw [unslotted] at slotted
    cases slotted

theorem fetched_of_outcome {outcome : Except Fault Unit} (sound : transcoder.fetcher.isBroken = false)
    (returned : transcoder.outcome? = some outcome) : transcoder.fetcher = .finished (.ok ()) := by
  unfold Transcoder.outcome? at returned
  cases fetcher : transcoder.fetcher with
  | calling | reading | writing => simp [fetcher, Fetcher.outcome?] at returned
  | finished received =>
    cases received with
    | ok _ => rfl
    | error fault => rw [fetcher] at sound; cases sound

namespace Sound

variable {heads : List ResponseHead} {written frames : List Bytes}

theorem fetch (before : Sound session transcoder) (hearing : Hearing done transcoder)
    (intact : forall action, action ∈ done -> action.breaksCall = false)
    (unclosed : session.sink.body.receiving = true) {after : Transcoder} {pipeline : Pipeline}
    (moved : transcoder.Fetches emitterHandle session.pipeline after pipeline) :
    after.fetcher.isBroken = false /\ after.feeder = transcoder.feeder := by
  cases moved with
  | answered | receive | wrote | finish => exact ⟨rfl, rfl⟩
  | skip => exact ⟨before.fetcher, rfl⟩
  | refused status _ refusal => cases intact _ (hearing.answered _ refusal)
  | broken _ status _ _ ready => cases intact _ (hearing.replied (.error status) (by simp [ready]))
  | unwritten fault writing =>
    have sound := before.fetcher
    rw [writing] at sound
    cases sound
  | write _ _ _ _ moved =>
    cases moved with
    | count | put | queue => exact ⟨rfl, rfl⟩
    | refuse _ failed => exact absurd failed before.commit
    | abandon _ _ _ closed => cases unclosed.symm.trans closed

theorem act (before : Sound session transcoder) (step : session.Step action next) (hearing : Hearing done transcoder)
    (intact : forall action, action ∈ done -> action.breaksCall = false) (feeding : Feeding session transcoder)
    (unclosed : session.sink.body.receiving = true) (coherent : session.Coherent)
    (filled : session.pipeline.chunks.place.isSome = true -> session.pipeline.slot.isSome = true)
    (unfailed : forall fault, next.forwarded? ≠ some (.error fault)) : exists after, Sound next after := by
  have unaborted (aborted : session.abort = true) : False := by
    obtain ⟨fault, failed⟩ := feeding.aborted aborted
    exact unfailed fault ((step.keepsForwarded (by simp [failed])).trans failed)
  have aside (after : Transcoder) (mode : next.emitter = .transcoding after)
      (fetcher : after.fetcher = transcoder.fetcher) (feeder : after.feeder = transcoder.feeder)
      (emitted : next.emitted = session.emitted) : exists after, next.emitter = .transcoding after /\
        after.fetcher.isBroken = false /\ (forall fault, after.feeder.outcome? ≠ some (.error fault)) /\
        forall outcome, next.emitted = some outcome -> after.outcome? = some outcome := by
    refine ⟨after, mode, by rw [fetcher]; exact before.fetcher, by rw [feeder]; exact before.feeder, ?_⟩
    rw [emitted, Transcoder.outcome?, fetcher, feeder]
    exact before.returned
  obtain ⟨after, mode, fetcher, feeder, returned⟩ : exists after, next.emitter = .transcoding after /\
      after.fetcher.isBroken = false /\ (forall fault, after.feeder.outcome? ≠ some (.error fault)) /\
      forall outcome, next.emitted = some outcome -> after.outcome? = some outcome := by
    cases step with
    | emit _ _ _ stored => cases before.mode.symm.trans stored
    | abort _ _ _ aborted => exact (unaborted aborted).elim
    | leave _ closed => cases unclosed.symm.trans closed
    | feed earlier after pipeline _ mode _ running moved =>
      cases before.mode.symm.trans mode
      exact ⟨after, afterLeg_emitter _ _ _, by rw [(feeds_fetcher moved).1]; exact before.fetcher,
        unfailed_of_feeds filled moved, fun _ => afterLeg_returned running⟩
    | fetch earlier after pipeline _ mode _ running moved =>
      cases before.mode.symm.trans mode
      obtain ⟨fetcher, feeder⟩ := before.fetch hearing intact unclosed moved
      exact ⟨after, afterLeg_emitter _ _ _, fetcher, by rw [feeder]; exact before.feeder,
        fun _ => afterLeg_returned running⟩
    | forward _ _ moved => exact aside transcoder (moved.emitter.1.trans before.mode) rfl rfl moved.emitter.2
    | onCall _ earlier call mode =>
      cases before.mode.symm.trans mode
      exact aside { transcoder with call } rfl rfl rfl rfl
    | join | deliver | endStream | receiveHead | receiveFault | takeChunk | takeText | disconnect =>
      exact aside transcoder before.mode rfl rfl rfl
  refine ⟨after, mode, ?_, fetcher, feeder, returned⟩
  rcases step.blames coherent with ⟨⟨fault, failed | failed⟩, -⟩ | kept
  next => exact absurd failed (unfailed fault)
  next => exact absurd (returned _ failed) (outcome_of_sound fetcher feeder fault)
  next => exact fun failed => before.commit (kept.commit.1 failed)

end Sound

theorem Step.gone (step : session.Step action next) (coherent : session.Coherent) (gone : session.reader = .gone) :
    next.reader = .gone :=
  (step.outlet coherent).gone gone

theorem sound_of_run {preset : Preset} (run : Run (transcoding preset) actions session)
    (present : session.reader ≠ .gone) (unfailed : forall fault, session.forwarded? ≠ some (.error fault))
    (intact : forall action, action ∈ actions -> action.breaksCall = false) :
    exists transcoder, Sound session transcoder := by
  refine run.keeps (fun done session => session.reader ≠ .gone ->
    (forall fault, session.forwarded? ≠ some (.error fault)) ->
    (forall action, action ∈ done -> action.breaksCall = false) -> exists transcoder, Sound session transcoder)
    (fun _ _ _ => ⟨{ preset }, rfl, by simp [transcoding, start, sink], rfl, fun _ failed => (by cases failed),
      fun _ returned => (by cases returned)⟩) ?_ present unfailed intact
  intro actions session action next run before possible present unfailed intact
  have step := step_of_act possible
  obtain ⟨coherent, answered⟩ := answered_of_run (.transcoding preset) run
  have stays : session.reader ≠ .gone := fun gone => present (step.gone coherent gone)
  have earlier (other : Action) (among : other ∈ actions) : other.breaksCall = false :=
    intact other (List.mem_append_left _ among)
  obtain ⟨transcoder, sound⟩ := before stays
    (fun fault failed => unfailed fault ((step.keepsForwarded (by simp [failed])).trans failed)) earlier
  obtain ⟨other, mode, hearing⟩ := hearing_of_run run
  cases sound.mode.symm.trans mode
  have feeding := feeding_of_fresh (.transcoding preset) run mode
  -- Only a fault makes a client that stays give up the body.
  have unclosed : session.sink.body.receiving = true := by
    cases receiving : session.sink.body.receiving with
    | true => rfl
    | false =>
      rcases (answered.refusing receiving).2 with gone | ⟨rest, answer⟩
      next => exact absurd gone stays
      next =>
        have told := answered.told
        rw [answer] at told
        obtain ⟨typed, typing⟩ := typing_of_run run
        exact absurd (typing.failed _ _ told.of_message) sound.commit
  exact sound.act step hearing earlier feeding unclosed coherent (forwarded_of_run run).filled unfailed

theorem heads_of_transcoded {preset : Preset} (run : Run (transcoding preset) actions session) (head : ResponseHead)
    (got : head ∈ headsReceived actions) :
    chunksAccepted (transcoding preset) actions ≠ [] /\ head = { status := 200, headers := transcodedHeaders } \/
      chunksAccepted (transcoding preset) actions = [] /\ (head = { status := 200 } \/ head = .plain 500) := by
  obtain ⟨transcoder, typing⟩ := typing_of_run run
  obtain ⟨-, answered⟩ := answered_of_run (.transcoding preset) run
  have ruled := (accounts_of_run (.transcoding preset) run).ruled
  obtain ⟨decided, known, rfl⟩ := typing.received head got
  cases decided with
  | failed status text =>
    obtain ⟨rfl, -, -, -⟩ := answered.failure status text known
    rw [show session.outlet.sink.commit = .failed from typing.failed _ text known] at ruled
    rcases ruled.of_failed with ⟨unaccepted, -⟩ | ⟨-, headers, stream⟩
    next => exact .inr ⟨unaccepted, .inr rfl⟩
    next => cases known.symm.trans stream
  | stream headers =>
    rw [show session.outlet.sink.head = some (.stream headers) from known] at ruled
    rcases typing.streamed headers known with ⟨committed, rfl⟩ | ⟨pending, untyped⟩
    next =>
      generalize same : session.outlet.sink.commit = commit at ruled
      cases ruled with
      | undecided => exact absurd same committed
      | streamed _ _ _ begun => exact .inl ⟨begun, rfl⟩
    next =>
      rw [show session.outlet.sink.commit = .pending from pending] at ruled
      rcases untyped with rfl | ⟨-, unheard⟩
      next =>
        cases ruled with
        | undecided _ unaccepted => exact .inr ⟨unaccepted, .inl rfl⟩
        | streamed _ _ committed => exact absurd rfl committed
      next => rw [unheard] at got; cases got

/-- Whatever the encoder and storage send and in whatever order the parties move, the client takes a beginning of the
payloads of the encoder, or the text of a fault. The head has the transcoded type exactly if a payload has decided it,
and nothing of what is stored. If storage is read without a fault and the encoder ends its call in good order, a client
that reads to the end takes all payloads. -/
theorem transcoded_fidelity {preset : Preset} (run : Run (transcoding preset) actions session) :
    chunksAccepted (transcoding preset) actions <+: payloadsOf (replied actions) /\
      ((forall head, head ∈ headsReceived actions -> head.status = 200) /\
          framesTaken actions <+: payloadsOf (replied actions) \/
        headsReceived actions = [.plain 500] /\ framesTaken actions <+: [faultText]) /\
      (forall head, head ∈ headsReceived actions -> head.headers.get? contentDisposition = none /\
        (head.headers.get? contentType = some transcodedType <-> chunksAccepted (transcoding preset) actions ≠ [])) /\
      forall total, session.forwarded? = some (.ok total) -> .onCall .endReplies ∈ actions ->
        session.reader.read session.sink = some .finished ->
        framesTaken actions = payloadsOf (replied actions) /\ headsReceived actions =
          [{ status := 200, headers := if payloadsOf (replied actions) = [] then {} else transcodedHeaders }] := by
  obtain ⟨transcoder, fetching⟩ := fetching_of_run run
  obtain ⟨-, answered⟩ := answered_of_run (.transcoding preset) run
  have accounts := accounts_of_run (.transcoding preset) run
  refine ⟨fetching.ordered, ?_, fun head got => ?_, fun total forwarded ended finished => ?_⟩
  next =>
    have begun := accounts.placed.trans fetching.ordered
    exact answered.told.got.imp (fun streamed => ⟨streamed.1, streamed.2.trans begun⟩) id
  next =>
    rcases heads_of_transcoded run head got with ⟨begun, rfl⟩ | ⟨unaccepted, rfl | rfl⟩
    next => exact ⟨by decide, iff_of_true (by decide) begun⟩
    next => exact ⟨by decide, iff_of_false (by decide) (by simp [unaccepted])⟩
    next => exact ⟨by decide, iff_of_false (by decide) (by simp [unaccepted])⟩
  next =>
    have present : session.reader ≠ .gone := by
      intro gone
      rw [gone] at finished
      cases finished
    obtain ⟨other, mode, hearing⟩ := hearing_of_run run
    obtain ⟨third, sound⟩ := sound_of_run run present (by simp [forwarded]) (hearing.ended ended).2
    cases fetching.mode.symm.trans sound.mode
    obtain ⟨typed, typing⟩ := typing_of_run run
    obtain ⟨streaming, unclosed, drained, through⟩ := answered.through_of_finished
      (fun status text decided => sound.commit (typing.failed status text decided)) finished
    have told := answered.told
    rw [streaming] at told
    obtain ⟨headers, -, heads⟩ := told.of_body
    -- The session has ended on its own, so that the emitter has returned, and it has not failed.
    obtain ⟨-, returned⟩ := (reported_of_run (.transcoding preset) run).returned through unclosed
    obtain ⟨outcome, returned⟩ := Option.isSome_iff_exists.1 returned
    have fetched : transcoder.fetcher = .finished (.ok ()) :=
      fetched_of_outcome sound.fetcher (sound.returned outcome returned)
    obtain ⟨all, placed⟩ := fetching.through fetched
    have content := answered.content unclosed
    rw [drained, Option.toList_none, List.append_nil] at content
    refine ⟨content.symm.trans (placed.symm.trans all.symm), ?_⟩
    rw [heads, all]
    rcases heads_of_transcoded run _ (heads ▸ List.mem_singleton_self _) with ⟨begun, same⟩ | ⟨unaccepted, same | same⟩
    next => rw [if_neg begun, same]
    next => rw [if_pos unaccepted, same]
    next => cases same

def clipTranscoded : List Action :=
  [.deliver (.ok (.header clip)), .deliver (.ok (.datagram { payload := [1, 2] })), .forward, .forward, .forward,
    .onCall (.answer (.ok ())), .fetch, .onCall (.reply (.ok { datagram := some { payload := [] } })), .fetch, .fetch,
    .fetch, .fetch, .feed, .endStream, .forward, .feed, .onCall (.takeRequest (uploadHeader 3 "small")), .feed,
    .onCall (.takeRequest (uploadDatagram 0 [1, 2])), .feed, .onCall (.reply (.ok {})),
    .onCall (.reply (.ok { datagram := some { payload := [9] } })), .onCall .endReplies, .fetch, .fetch, .fetch,
    .receiveHead { status := 200, headers := transcodedHeaders }, .takeFrame [], .fetch, .fetch, .fetch, .join,
    .takeFrame [9]]

theorem clip_transcoded : exists session, Run (transcoding smallPreset) clipTranscoded session /\
    framesTaken clipTranscoded = [[], [9]] /\ headsReceived clipTranscoded =
      [{ status := 200, headers := { entries := [("content-type", "video/mp4")] } }] := by
  obtain ⟨session, reached, forwarded, finished⟩ : exists session,
      follow act (transcoding smallPreset) clipTranscoded = some session /\ session.forwarded? = some (.ok 2) /\
        session.reader.read session.sink = some .finished := ⟨_, rfl, rfl, rfl⟩
  have run := run_of_follow reached
  obtain ⟨taken, heads⟩ := (transcoded_fidelity run).2.2.2 2 forwarded (by simp [clipTranscoded]) finished
  exact ⟨session, run, taken, heads⟩

end Session

end VideoRelay
