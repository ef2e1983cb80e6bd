import VideoRelay.Proofs.Session.Feeding
import VideoRelay.Proofs.Session.Reading

set_option autoImplicit false

namespace VideoRelay

open Wire

theorem Writer.Move.commit {handle : Nat} {sink after : Sink} {writer later : Writer}
    (moved : writer.Move handle sink later after) : after.commit = .failed <-> sink.commit = .failed := by
  cases moved with
  | count chunk _ accepted =>
    obtain ⟨commit, ⟨streaming, -⟩ | ⟨pending, -⟩⟩ := Sink.beginWrite_cases accepted
    next => simp [commit, streaming]
    next => simp [commit, pending]
  | refuse | put | queue | abandon => exact Iff.rfl

theorem Transcoder.Fetches.commit {handle : Nat} {transcoder after : Transcoder} {before pipeline : Pipeline}
    (moved : transcoder.Fetches handle before after pipeline) :
    pipeline.sink.commit = .failed <-> before.sink.commit = .failed := by
  cases moved with
  | answered | skip | wrote => exact Iff.rfl
  | refused | broken | finish | unwritten => simp [finishFetcher, releaseFetcher]
  | receive typed =>
    obtain ⟨headers, typing, -⟩ := before.sink.setHeader_settable contentType transcodedType
    cases typed <;> simp [typing]
  | write _ _ _ _ moved => exact moved.commit

namespace Session

variable {session next last : Session} {actions : List Action}

def HasFailed (session : Session) : Prop :=
  exists fault, session.forwarded? = some (.error fault) \/ session.emitted = some (.error fault)

structure KeepsFaults (before after : Session) : Prop where
  forwarded : forall fault, after.forwarded? = some (.error fault) <-> before.forwarded? = some (.error fault)
  emitted : forall fault, after.emitted = some (.error fault) <-> before.emitted = some (.error fault)
  commit : after.sink.commit = .failed <-> before.sink.commit = .failed

theorem KeepsFaults.hasFailed (kept : session.KeepsFaults next) : next.HasFailed <-> session.HasFailed := by
  simp only [HasFailed, kept.forwarded, kept.emitted]

theorem KeepsFaults.of_same (forwarded : next.forwarded? = session.forwarded?)
    (emitted : next.emitted = session.emitted) (commit : next.sink.commit = session.sink.commit) :
    session.KeepsFaults next := by
  refine ⟨?_, ?_, ?_⟩
  next => simp [forwarded]
  next => simp [emitted]
  next => rw [commit]

def Blames (before after : Session) : Prop :=
  after.HasFailed /\ after.sink.commit = .failed \/ before.KeepsFaults after

theorem Forwards.blames (moved : session.Forwards next) : session.Blames next := by
  have unfinished := moved.unfinished
  have faultless (forwarded : forall fault, next.forwarded? ≠ some (.error fault))
      (commit : next.sink.commit = session.sink.commit) : session.Blames next := by
    refine .inr ⟨?_, ?_, ?_⟩
    next => simp [unfinished, forwarded]
    next => simp [moved.emitter.2]
    next => rw [commit]
  cases moved with
  | refuse message rest fault => exact .inl ⟨⟨fault, .inl rfl⟩, Sink.failInternal_commit _⟩
  | header => exact .inr (.of_same rfl rfl rfl)
  | datagram | put | queue | abandon | finish => exact faultless (fun fault failed => (by cases failed)) rfl

theorem Forwards.aborts (moved : session.Forwards next) (aborted : next.abort = true) :
    session.abort = true \/ exists fault, next.forwarded? = some (.error fault) := by
  cases moved with
  | refuse message rest fault => exact .inr ⟨fault, rfl⟩
  | header | datagram | put | queue | abandon | finish => exact .inl aborted

theorem Stores.blames {emitter : Passthrough} (moved : session.Stores emitter next)
    (running : session.emitted = none) : session.Blames next := by
  cases moved with
  | first chunk descriptor ready uncommitted =>
    have commit : (descriptor.describe session.sink).commit = session.sink.commit := by
      rw [descriptor.describe_eq uncommitted]
    exact .inr (.of_same rfl rfl commit)
  | next | wrote => exact .inr (.of_same rfl rfl rfl)
  | undescribed | unwritten => exact .inl ⟨⟨_, .inr rfl⟩, Sink.failInternal_commit _⟩
  | drain =>
    refine .inr ⟨fun _ => Iff.rfl, fun fault => ?_, ?_⟩
    next => simp [stored, endEmitting, running]
    next => simp [stored, endEmitting, sink]
  | write _ _ _ _ moved => exact .inr ⟨fun _ => Iff.rfl, fun _ => Iff.rfl, moved.commit⟩

theorem afterLeg_blames (running : session.emitted = none) (transcoder : Transcoder) (pipeline : Pipeline)
    (commit : pipeline.sink.commit = .failed <-> session.sink.commit = .failed) :
    session.Blames (session.afterLeg transcoder pipeline) := by
  unfold afterLeg
  split
  next => exact .inr ⟨fun _ => Iff.rfl, fun _ => Iff.rfl, commit⟩
  next outcome _ =>
    cases outcome with
    | ok _ => exact .inr ⟨fun _ => Iff.rfl, fun fault => (by simp [endEmitting, running]), commit⟩
    | error fault => exact .inl ⟨⟨fault, .inr rfl⟩, Sink.failInternal_commit _⟩

theorem Step.blames {action : Action} (step : session.Step action next) (coherent : session.Coherent) :
    session.Blames next := by
  have released (forwarder : next.forwarder = session.forwarder) (emitted : next.emitted = session.emitted)
      (kept : session.sink.Released next.sink) : session.Blames next :=
    .inr (.of_same (congrArg Forwarder.outcome? forwarder) emitted kept.commit)
  cases step with
  | forward _ _ moved => exact moved.blames
  | emit emitter _ _ mode moved => exact moved.blames ((coherent emitter mode).trans moved.unfinished)
  | feed transcoder after pipeline _ _ _ running moved =>
    exact afterLeg_blames running _ _ (by rw [(feeds_fetcher moved).2]; exact Iff.rfl)
  | fetch transcoder after pipeline _ _ _ running moved => exact afterLeg_blames running _ _ moved.commit
  | abort transcoder _ _ _ running =>
    have dropped := session.dropEmitter_dropped
    refine .inr ⟨fun fault => ?_, fun fault => ?_, ?_⟩
    next => rw [show session.abortEmitter.forwarded? = _ from congrArg Forwarder.outcome? dropped.forwarder]; rfl
    next => simp [abortEmitter, running]
    next => rw [show session.abortEmitter.sink.commit = _ from dropped.sink.commit]
  | leave =>
    have left := session.cutShort_ended
    have emptied := session.emptied_dropped
    exact released (left.forwarder.trans emptied.forwarder) (left.emitted.trans emptied.emitted)
      session.cutShort_released
  | join => exact released rfl rfl .dropHandle
  | deliver | endStream | onCall | receiveHead | receiveFault | takeChunk | takeText | disconnect =>
    exact .inr (.of_same rfl rfl rfl)

/-- A session in which the sink knows of every failure and of nothing else, and which ends by itself only after both
sides have returned. -/
structure Reported (session : Session) : Prop where
  failed : session.sink.commit = .failed <-> session.HasFailed
  aborted : session.abort = true -> exists fault, session.forwarded? = some (.error fault)
  returned : session.isOver = true -> session.sink.body.receiving = true ->
    session.forwarded?.isSome = true /\ session.emitted.isSome = true

theorem Step.returned {action : Action} (step : session.Step action next) (through : next.isOver = true)
    (unclosed : next.sink.body.receiving = true) :
    (session.isOver = true \/ session.forwarded?.isSome = true /\ session.emitted.isSome = true) /\
      next.forwarded? = session.forwarded? /\ next.emitted = session.emitted := by
  have still := step.keepsOver
  cases step with
  | forward _ going | emit _ _ going | feed _ _ _ going | fetch _ _ _ going | abort _ going =>
    exact absurd (going.symm.trans ((still (by simp)).symm.trans through)) (by decide)
  | join _ forwarded emitted => exact ⟨.inr ⟨forwarded, emitted⟩, rfl, rfl⟩
  | leave _ closed =>
    -- Only a client that is gone makes it leave, and the slot of such a client does not receive.
    exact absurd (closed.symm.trans (session.cutShort_released.receiving.symm.trans unclosed)) (by decide)
  | deliver | endStream | onCall | receiveHead | receiveFault | takeChunk | takeText | disconnect =>
    exact ⟨.inl through, rfl, rfl⟩

theorem Reported.act {action : Action} (before : Reported session) (step : session.Step action next)
    (coherent : session.Coherent) : Reported next := by
  refine ⟨?_, ?_, ?_⟩
  next =>
    rcases step.blames coherent with ⟨failed, told⟩ | kept
    next => exact iff_of_true told failed
    next => rw [kept.commit, kept.hasFailed, before.failed]
  next =>
    intro aborted
    by_cases forwards : action = .forward
    next =>
      subst forwards
      cases step with
      | forward _ _ moved =>
        rcases moved.aborts aborted with earlier | failed
        next =>
          -- A read that goes on has not failed, so that nothing was aborted before.
          obtain ⟨fault, failed⟩ := before.aborted earlier
          rw [moved.unfinished] at failed
          cases failed
        next => exact failed
    next =>
      obtain ⟨fault, failed⟩ := before.aborted ((step.keepsAbort forwards).symm.trans aborted)
      exact ⟨fault, (step.keepsForwarded (by simp [failed])).trans failed⟩
  next =>
    intro through unclosed
    obtain ⟨earlier, forwarded, emitted⟩ := step.returned through unclosed
    rw [forwarded, emitted]
    rcases earlier with through | returned
    next => exact before.returned through ((step.outlet coherent).receiving unclosed)
    next => exact returned

theorem reported_of_run {emitter : Emitter} (fresh : emitter.Fresh) (run : Run (start emitter) actions session) :
    Reported session := by
  have initial : Reported (start emitter) := by
    refine ⟨iff_of_false (by simp [start, sink]) ?_, fun aborted => (by cases aborted), fun ended => (by cases ended)⟩
    rintro ⟨fault, failed | failed⟩ <;> cases failed
  exact run.keeps (fun _ session => Reported session) initial fun actions session action next run before possible =>
    before.act (step_of_act possible) (answered_of_run fresh run).1

theorem stays_failed {emitter : Emitter} {before after : List Action} (fresh : emitter.Fresh)
    (run : Run (start emitter) before session) (failed : session.HasFailed) (later : Run session after last) :
    last.HasFailed /\ chunksAccepted session after = [] := by
  -- Both are carried at once: the sink that knows of a failure is the one that refuses the next chunk.
  refine later.keeps (fun done last => last.HasFailed /\ chunksAccepted session done = []) ⟨failed, rfl⟩ ?_
  rintro done middle action next reached ⟨failing, unaccepted⟩ possible
  have step := step_of_act possible
  obtain ⟨coherent, -⟩ := answered_of_run fresh (run.append reached)
  have reported := reported_of_run fresh (run.append reached)
  have told := reported.act step coherent
  have still : next.HasFailed := by
    rcases step.blames coherent with ⟨failed, -⟩ | kept
    next => exact failed
    next => exact kept.hasFailed.2 failing
  refine ⟨still, ?_⟩
  rw [chunksAccepted, trace_snoc acceptance reached.reached possible, ← chunksAccepted, unaccepted, List.nil_append]
  exact (step.outlet coherent).unaccepted (told.failed.2 still)

theorem chunksAccepted_append {initial : Session} {before after : List Action} (run : Run initial before session)
    (rest : chunksAccepted session after = []) :
    chunksAccepted initial (before ++ after) = chunksAccepted initial before := by
  rw [chunksAccepted, trace_append acceptance run.reached, ← chunksAccepted, rest, List.append_nil]

theorem answered_of_failed {emitter : Emitter} (fresh : emitter.Fresh) (run : Run (start emitter) actions session)
    (stays : .disconnect ∉ actions) (failed : session.HasFailed) :
    (chunksAccepted (start emitter) actions = [] -> Answers actions session (.plain 500 internalFaultText)) /\
      (chunksAccepted (start emitter) actions ≠ [] ->
        exists headers, Streams (start emitter) actions session headers) := by
  obtain ⟨-, answered⟩ := answered_of_run fresh run
  have ruled := (accounts_of_run fresh run).ruled
  rw [show session.outlet.sink.commit = .failed from (reported_of_run fresh run).failed.2 failed] at ruled
  rcases ruled.of_failed with ⟨unaccepted, status, text, decided⟩ | ⟨begun, headers, decided⟩
  next =>
    refine ⟨fun _ => answers_of_fault answered (present_of_run run stays) ?_, fun begun => absurd unaccepted begun⟩
    -- A session fails its sink with one status and one text.
    obtain ⟨rfl, rfl, -, -⟩ := answered.failure status text decided
    exact decided
  next => exact ⟨fun unaccepted => absurd unaccepted begun, fun _ => ⟨headers, streams_of_run fresh run stays decided⟩⟩

/-- From its first failure on, a session that the client does not leave is answered in one way: with the fault exactly
if no chunk was accepted before, and otherwise with a stream that gets no further chunk. An empty chunk counts as well,
so that a session that fails before its first byte is sure to be answered with the fault only without such chunks. -/
theorem failure_answered {emitter : Emitter} {before after : List Action} {failed : Session} (fresh : emitter.Fresh)
    (run : Run (start emitter) before failed) (failure : failed.HasFailed) (later : Run failed after last)
    (stays : .disconnect ∉ before ++ after) :
    failed.sink.written = .ofNat (byteCount (chunksAccepted (start emitter) before)) /\
      (byteCount (chunksAccepted (start emitter) before) = 0 <->
        forall chunk, chunk ∈ chunksAccepted (start emitter) before -> chunk = []) /\
      (chunksAccepted (start emitter) before = [] ->
        Answers (before ++ after) last (.plain 500 internalFaultText)) /\
      (chunksAccepted (start emitter) before ≠ [] -> chunksAccepted failed after = [] /\
        exists headers, Streams (start emitter) (before ++ after) last headers) := by
  obtain ⟨still, rest⟩ := stays_failed fresh run failure later
  obtain ⟨fault, stream⟩ := answered_of_failed fresh (run.append later) stays still
  -- What was accepted in the whole run is what was accepted up to the failure.
  rw [chunksAccepted_append run rest] at fault stream
  exact ⟨(accounts_of_run fresh run).bytes, byteCount_eq_zero, fault, fun begun => ⟨rest, stream begun⟩⟩

def clipHead : ResponseHead where
  status := 200
  headers := { entries := [("content-type", "video/webm"), ("content-disposition", "attachment; filename=clip.webm")] }

def clipTruncated : List Action :=
  [.deliver (.ok (.header clip)), .deliver (.ok (.datagram { payload := [1, 2] })), .forward, .forward, .forward, .emit,
    .emit, .deliver (.error diskFailure), .forward]

def clipCut : List Action :=
  [.emit, .receiveHead clipHead, .emit, .takeFrame [1, 2],
    .emit, .join]

theorem clip_truncated : exists failed last, Run passthrough clipTruncated failed /\ Run failed clipCut last /\
    failed.sink.written = 2 /\ chunksAccepted failed clipCut = [] /\
      exists headers, Streams passthrough (clipTruncated ++ clipCut) last headers := by
  obtain ⟨failed, last, reached, cut, failure⟩ : exists failed last,
      follow act passthrough clipTruncated = some failed /\ follow act failed clipCut = some last /\
        failed.forwarded? = some (.error (.streamTransport diskFailure)) := ⟨_, _, rfl, rfl, rfl⟩
  have run := run_of_follow reached
  have later := run_of_follow cut
  have begun : chunksAccepted passthrough clipTruncated ≠ [] := List.cons_ne_nil [1, 2] []
  obtain ⟨counted, -, -, stream⟩ := failure_answered .passthrough run ⟨_, .inl failure⟩ later
    (by simp [clipTruncated, clipCut])
  obtain ⟨rest, streams⟩ := stream begun
  exact ⟨failed, last, run, later, counted, rest, streams⟩

def emptyChunk : List Action :=
  [.deliver (.ok (.header clip)), .deliver (.ok (.datagram { payload := [] })), .forward, .forward, .forward, .emit,
    .emit, .deliver (.error diskFailure), .forward]

theorem empty_chunk_streams : exists failed last, Run passthrough emptyChunk failed /\ failed.HasFailed /\
    failed.sink.written = 0 /\ Run failed [.receiveHead clipHead] last /\
      .disconnect ∉ emptyChunk ++ [.receiveHead clipHead] /\
      ¬ Answers (emptyChunk ++ [.receiveHead clipHead]) last (.plain 500 internalFaultText) := by
  obtain ⟨failed, last, reached, told, failure, unwritten⟩ : exists failed last,
      follow act passthrough emptyChunk = some failed /\ follow act failed [.receiveHead clipHead] = some last /\
        failed.forwarded? = some (.error (.streamTransport diskFailure)) /\ failed.sink.written = 0 :=
    ⟨_, _, rfl, rfl, rfl, rfl⟩
  refine ⟨failed, last, run_of_follow reached, ⟨_, .inl failure⟩, unwritten, run_of_follow told,
    by simp [emptyChunk], ?_⟩
  rintro ⟨heads, frames, end_, -, received, -⟩
  cases received

theorem unfailed_of_stream {emitter : Emitter} (fresh : emitter.Fresh) (run : Run (start emitter) actions session)
    (stays : .disconnect ∉ actions) (unaccepted : chunksAccepted (start emitter) actions = []) {headers : Headers}
    (decided : session.sink.head = some (.stream headers)) :
    session.isOver = true /\ ¬ session.HasFailed /\ session.forwarded?.isSome = true /\
      session.emitted.isSome = true := by
  obtain ⟨-, answered⟩ := answered_of_run fresh run
  have reported := reported_of_run fresh run
  have ruled := (accounts_of_run fresh run).ruled
  have pending : session.sink.commit = .pending := by
    rw [unaccepted, show session.outlet.sink.head = _ from decided] at ruled
    generalize same : session.outlet.sink.commit = commit at ruled
    cases ruled with
    | undecided => exact same
    | streamed _ _ _ begun => exact absurd rfl begun
  -- While the session goes on, only a write decides a stream.
  have through : session.isOver = true := by
    cases going : session.isOver with
    | true => rfl
    | false =>
      have undecided := (answered.pending pending).2.2 going
      rw [show session.outlet.sink.head = _ from decided] at undecided
      cases undecided
  have unfailed : ¬ session.HasFailed := by
    rw [← reported.failed, pending]
    decide
  exact ⟨through, unfailed, reported.returned through (answered.receiving_of_stream (present_of_run run stays) decided)⟩

/-- A session that fails before a chunk is accepted is answered with the fault alone, also if its emitter returns as
aborted; an empty success says that storage and emitter have both returned without a fault. -/
theorem empty_success_is_unfailed {emitter : Emitter} {before after : List Action} (fresh : emitter.Fresh)
    (run : Run (start emitter) before session) (later : Run session after last) (stays : .disconnect ∉ before ++ after)
    (unaccepted : chunksAccepted (start emitter) before = []) :
    (session.HasFailed -> Answers (before ++ after) last (.plain 500 internalFaultText)) /\
      (session.abort = true -> session.HasFailed) /\
      forall headers, session.sink.head = some (.stream headers) ->
        (exists total, session.forwarded? = some (.ok total)) /\ session.emitted = some (.ok ()) /\
          session.abort = false /\ Answers before session { head := { status := 200, headers } } := by
  have reported := reported_of_run fresh run
  have stayed : .disconnect ∉ before := fun left => stays (List.mem_append_left after left)
  have blamed (aborted : session.abort = true) : session.HasFailed := by
    obtain ⟨fault, failed⟩ := reported.aborted aborted
    exact ⟨fault, .inl failed⟩
  refine ⟨fun failed => ?_, blamed, fun headers decided => ?_⟩
  next =>
    obtain ⟨still, rest⟩ := stays_failed fresh run failed later
    rw [← chunksAccepted_append run rest] at unaccepted
    exact (answered_of_failed fresh (run.append later) stays still).1 unaccepted
  next =>
    obtain ⟨through, unfailed, forwarded, emitted⟩ := unfailed_of_stream fresh run stayed unaccepted decided
    have streams := streams_of_run fresh run stayed decided
    have unwritten : chunksWritten (start emitter) before = [] :=
      List.prefix_nil.1 (unaccepted ▸ streams.placed)
    have whole := streams.whole through
    rw [unwritten] at whole
    refine ⟨?_, ?_, Bool.eq_false_iff.2 fun aborted => unfailed (blamed aborted), whole⟩
    next =>
      obtain ⟨outcome, returned⟩ := Option.isSome_iff_exists.1 forwarded
      cases outcome with
      | ok total => exact ⟨total, returned⟩
      | error fault => exact absurd ⟨fault, .inl returned⟩ unfailed
    next =>
      obtain ⟨outcome, returned⟩ := Option.isSome_iff_exists.1 emitted
      cases outcome with
      | ok _ => exact returned
      | error fault => exact absurd ⟨fault, .inr returned⟩ unfailed

def clipUnread : List Action :=
  [.deliver (.ok (.header clip)), .deliver (.error diskFailure), .forward, .onCall (.answer (.ok ())), .forward]

def clipAborted : List Action :=
  [.abort, .join, .receiveHead (.plain 500), .takeFrame faultText]

theorem clip_aborted : exists failed last, Run (transcoding smallPreset) clipUnread failed /\
    Run failed clipAborted last /\ last.emitted = some (.ok ()) /\
      Answers (clipUnread ++ clipAborted) last (.plain 500 internalFaultText) := by
  obtain ⟨failed, last, reached, aborted, failure, returned⟩ : exists failed last,
      follow act (transcoding smallPreset) clipUnread = some failed /\ follow act failed clipAborted = some last /\
        failed.forwarded? = some (.error (.streamTransport diskFailure)) /\ last.emitted = some (.ok ()) :=
    ⟨_, _, rfl, rfl, rfl, rfl⟩
  have run := run_of_follow reached
  have later := run_of_follow aborted
  obtain ⟨answered, -⟩ := empty_success_is_unfailed (.transcoding smallPreset) run later
    (by simp [clipUnread, clipAborted]) rfl
  exact ⟨failed, last, run, later, returned, answered ⟨_, .inl failure⟩⟩

end Session

end VideoRelay
