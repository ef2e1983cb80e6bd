import VideoRelay.Proofs.Session.Answer
import VideoRelay.Proofs.Session.Uploading

set_option autoImplicit false

namespace VideoRelay

open Wire

namespace Session

variable {session next last : Session} {transcoder : Transcoder} {fault : Fault}

theorem Feeding.unfinished_of_failed (before : Feeding session transcoder) {actions : List Action}
    (later : Run session actions last) (failed : last.forwarded? = some (.error fault)) :
    transcoder.feeder.outcome? = none := by
  induction later generalizing transcoder with
  | done => exact (before.failed fault failed).1
  | @act session next _ action rest possible _ ih =>
    have step := step_of_act possible
    obtain ⟨after, fed⟩ := before.act step
    by_cases feeds : action = .feed
    next =>
      subst feeds
      cases step with
      | feed _ _ _ _ mode _ _ moved =>
        cases before.mode.symm.trans mode
        exact moved.unfinished
    next =>
      -- Nobody but the feeder changes the feeder.
      obtain ⟨same, mode, kept⟩ := step.keepsFeeding before.mode before.holds feeds
      cases mode.symm.trans fed.mode
      rw [← kept.feeder]
      exact ih fed failed

theorem Feeding.still (before : Feeding session transcoder) (failed : session.forwarded? = some (.error fault))
    {action : Action} (step : session.Step action next) :
    session.requestArrival next = [] /\ session.bodyArrival next = [] /\ next.sink.written = session.sink.written := by
  have aborted := (before.failed fault failed).2
  have unsent (foreign : action ≠ .feed) : session.requestArrival next = [] := by
    obtain ⟨after, mode, kept⟩ := step.keepsFeeding before.mode before.holds foreign
    rw [requestArrival_eq before.mode mode]
    exact kept.requests.arrival
  have released (foreign : action ≠ .feed) (moved : session.sink.Released next.sink) :
      session.requestArrival next = [] /\ session.bodyArrival next = [] /\
        next.sink.written = session.sink.written :=
    ⟨unsent foreign, Channel.arrival_of_same moved.place, moved.written⟩
  cases step with
  | forward _ _ moved => rw [moved.unfinished] at failed; cases failed
  | emit _ _ _ mode => cases before.mode.symm.trans mode
  | feed _ _ _ _ _ unaborted | fetch _ _ _ _ _ unaborted =>
    rw [aborted] at unaborted
    cases unaborted
  | abort => exact released (by simp) session.dropEmitter_dropped.sink
  | join => exact released (by simp) .dropHandle
  | leave => exact released (by simp) session.cutShort_released
  | deliver | endStream | onCall | receiveHead | takeText => exact released (by simp) .refl
  | receiveFault | takeChunk | disconnect => exact ⟨unsent (by simp), Channel.arrival_of_empty rfl, rfl⟩

theorem still_of_run {preset : Preset} {before after : List Action} (run : Run (transcoding preset) before session)
    (failed : session.forwarded? = some (.error fault)) (later : Run session after last) :
    last.forwarded? = some (.error fault) /\ requestsSent session after = [] /\ chunksWritten session after = [] /\
      last.sink.written = session.sink.written := by
  refine later.keeps (fun done last => last.forwarded? = some (.error fault) /\ requestsSent session done = [] /\
    chunksWritten session done = [] /\ last.sink.written = session.sink.written) ⟨failed, rfl, rfl, rfl⟩ ?_
  intro done middle action next reached before possible
  obtain ⟨failing, unsent, unwritten, counted⟩ := before
  have step := step_of_act possible
  obtain ⟨transcoder, feeding⟩ := feeding_of_run (run.append reached)
  obtain ⟨requests, chunks, count⟩ := feeding.still failing step
  refine ⟨(step.keepsForwarded (by simp [failing])).trans failing, ?_, ?_, count.trans counted⟩
  next =>
    rw [requestsSent, trace_snoc requestArrival reached.reached possible, requests, List.append_nil]
    exact unsent
  next =>
    rw [chunksWritten, trace_snoc bodyArrival reached.reached possible, chunks, List.append_nil]
    exact unwritten

/-- Whenever storage fails, before or after the state looked at, and whoever moves when: as long as the call is held,
the transport does not find the end of its requests, so that the encoder sends nothing for having seen it. Once the
read has failed, no request and no chunk is put anywhere, the client gets what was written before, and the session can
drop the call. -/
theorem failed_read_hides_end {preset : Preset} {before after : List Action} {session last : Session} {fault : Fault}
    (run : Run (transcoding preset) before session) (later : Run session after last)
    (failed : last.forwarded? = some (.error fault)) :
    (forall call, session.call? = some call -> call.held = true ->
        call.requests.senders = 1 /\ call.requests.take ≠ .finished) /\
      (forall reply, session.act (.onCall (.reply reply)) ≠ none ->
        exists call, session.call? = some call /\ call.requests.senders = 1) /\
      (session.forwarded? = some (.error fault) ->
        requestsSent session after = [] /\ chunksWritten session after = [] /\
        last.sink.written = session.sink.written /\
        ((forall head, head ∈ headsReceived (before ++ after) -> head.status = 200) /\
            framesTaken (before ++ after) <+: chunksWritten (transcoding preset) before \/
          headsReceived (before ++ after) = [.plain 500] /\ framesTaken (before ++ after) <+: [faultText])) /\
      forall call, last.call? = some call -> call.held = true -> exists aborted dropped,
        last.act .abort = some aborted /\ aborted.call? = some dropped /\ dropped.held = false := by
  obtain ⟨transcoder, feeding⟩ := feeding_of_run run
  have unfinished := feeding.unfinished_of_failed later failed
  -- A feeder that is not through keeps its sender.
  have open_ (held : transcoder.call.held = true) : transcoder.call.requests.senders = 1 := by
    have senders := feeding.senders held
    rwa [unfinished] at senders
  refine ⟨?_, ?_, ?_, ?_⟩
  next =>
    intro call same held
    obtain rfl : transcoder.call = call := by simpa [call?, feeding.mode] using same
    refine ⟨open_ held, fun through => ?_⟩
    have gone := (Channel.take_eq_finished_iff.1 through).2
    simp [open_ held] at gone
  next =>
    intro reply possible
    refine ⟨transcoder.call, by simp [call?, feeding.mode], open_ ?_⟩
    by_cases held : transcoder.call.held = true
    next => exact held
    next => simp [act, call?, feeding.mode, Call.act, Call.canReply, held] at possible
  next =>
    intro failed
    obtain ⟨-, unsent, unwritten, counted⟩ := still_of_run run failed later
    obtain ⟨-, answered⟩ := answered_of_run (.transcoding preset) (run.append later)
    have written : chunksWritten (transcoding preset) (before ++ after) =
        chunksWritten (transcoding preset) before := by
      have split := trace_append bodyArrival run.reached after
      rw [show trace act bodyArrival session after = [] from unwritten, List.append_nil] at split
      exact split
    refine ⟨unsent, unwritten, counted, ?_⟩
    have got := answered.told.got
    rwa [show chunksWritten (start (.transcoding { preset })) (before ++ after) = _ from written] at got
  next =>
    intro call same held
    obtain ⟨other, feeding⟩ := feeding_of_run (run.append later)
    obtain rfl : other.call = call := by simpa [call?, feeding.mode] using same
    obtain ⟨running, going⟩ := feeding.running held
    have aborted := (feeding.failed fault failed).2
    refine ⟨last.abortEmitter, (other.drop emitterHandle last.pipeline).1.call, ?_, ?_, drop_held feeding.holds _⟩
    next => simp [act, own, going, feeding.mode, aborted, running]
    next => simp [call?, abortEmitter, dropEmitter_transcoder feeding.mode]

def clipFailing : List Action :=
  [.deliver (.ok (.header clip)), .deliver (.ok (.datagram { payload := [1, 2] })), .forward, .forward, .forward,
    .feed, .feed, .onCall (.takeRequest (uploadHeader 3 "small")), .feed,
    .onCall (.takeRequest (uploadDatagram 0 [1, 2])), .onCall (.answer (.ok ())), .fetch,
    .onCall (.reply (.ok { datagram := some { payload := [9] } })), .fetch, .fetch, .fetch, .fetch,
    .onCall (.reply (.ok { datagram := some { payload := [8] } })), .fetch, .fetch, .fetch,
    .deliver (.error diskFailure), .forward]

def clipDropped : List Action :=
  [.onCall (.reply (.ok { datagram := some { payload := [7] } })),
    .receiveHead { status := 200, headers := { entries := [("content-type", "video/mp4")] } }, .takeFrame [9],
    .abort, .join]

theorem clip_dropped : exists failing last,
    Run (transcoding smallPreset) clipFailing failing /\ Run failing clipDropped last /\
      requestsSent failing clipDropped = [] /\ chunksWritten failing clipDropped = [] /\
      last.sink.written = failing.sink.written := by
  obtain ⟨failing, last, reached, dropped, failed, still⟩ : exists failing last,
      follow act (transcoding smallPreset) clipFailing = some failing /\ follow act failing clipDropped = some last /\
        failing.forwarded? = some (.error (.streamTransport diskFailure)) /\
        last.forwarded? = some (.error (.streamTransport diskFailure)) :=
    ⟨_, _, rfl, rfl, rfl, rfl⟩
  have run := run_of_follow reached
  have later := run_of_follow dropped
  obtain ⟨-, -, after, -⟩ := failed_read_hides_end run later still
  obtain ⟨unsent, unwritten, counted, -⟩ := after failed
  exact ⟨failing, last, run, later, unsent, unwritten, counted⟩

end Session

end VideoRelay
