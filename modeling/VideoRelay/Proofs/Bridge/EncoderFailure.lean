import VideoRelay.Proofs.Bridge.Conclusion

set_option autoImplicit false

namespace VideoRelay

open Wire

namespace Status

/-- Whether the phrase stands somewhere in the message, its ASCII letters in either case. -/
def Mentions (status : Status) (phrase : String) : Prop :=
  exists before spelling after, status.message.toList = before ++ spelling ++ after /\
    spelling.map Char.toLower = phrase.toList

theorem occursIn_iff (part chars : List Char) : occursIn part chars = true <-> part <:+: chars := by
  induction chars with
  | nil => simp [occursIn]
  | cons c rest ih => simp only [occursIn, Bool.or_eq_true, List.isPrefixOf_iff_prefix, ih, List.infix_cons_iff]

theorem mentions_iff (status : Status) (phrase : String) :
    status.Mentions phrase <-> occursIn phrase.toList (lowerAscii status.message.toList) = true := by
  rw [occursIn_iff, lowerAscii]
  constructor
  next =>
    rintro ⟨before, spelling, after, split, same⟩
    exact ⟨before.map Char.toLower, after.map Char.toLower, by simp [split, same]⟩
  next =>
    rintro ⟨before, after, split⟩
    obtain ⟨front, late, message, early, -⟩ := List.map_eq_append_iff.1 split.symm
    obtain ⟨start, spelling, rfl, -, same⟩ := List.map_eq_append_iff.1 early
    exact ⟨start, spelling, late, message, same⟩

theorem isTornDown_iff (status : Status) :
    status.isTornDown = true <-> status.Mentions "broken pipe" \/ status.Mentions "connection reset" := by
  simp [isTornDown, tearDownPhrases, mentions_iff]

end Status

theorem frames_of_intact {replies : List (Except Status DownloadResponse)}
    (intact : forall status, .error status ∉ replies) :
    exists frames : List DownloadResponse, replies = frames.map .ok := by
  induction replies with
  | nil => exact ⟨[], rfl⟩
  | cons reply rest ih =>
    obtain ⟨frames, rfl⟩ := ih fun status found => intact status (List.mem_cons_of_mem _ found)
    cases reply with
    | ok frame => exact ⟨frame :: frames, rfl⟩
    | error status => exact absurd List.mem_cons_self (intact status)

namespace Bridge

variable {spec : ImageSpec} {bridge next ended : Bridge} {action : Action} {status : Status}
  {before done : List Action}

structure Opened (done : List Action) (bridge : Bridge) : Prop where
  collecting : forall image, bridge.foreground = .collecting image -> bridge.call.answer = some (.ok ())
  unaccepted : bridge.call.answer ≠ some (.ok ()) -> replied done = []

theorem Opened.act (before : Opened done bridge) (step : bridge.Step action next) :
    Opened (done ++ [action]) next := by
  have keep (collecting : forall image, next.foreground = .collecting image -> next.call.answer = some (.ok ()))
      (answer : next.call.answer = bridge.call.answer) (quiet : replied [action] = []) :
      Opened (done ++ [action]) next := by
    refine ⟨collecting, ?_⟩
    rw [answer, replied_append, quiet, List.append_nil]
    exact before.unaccepted
  cases step with
  | accepted _ _ answered => exact keep (fun _ _ => answered) rfl rfl
  | collect image _ _ collecting => exact keep (fun _ _ => before.collecting image collecting) rfl rfl
  | abandon | refused | broken | complete | settle | needless | begin | start | unreachable =>
    exact keep (fun _ collecting => (by cases collecting)) rfl rfl
  | onCall move call _ acted =>
    cases Call.move_of_act acted with
    | takeRequest | closeRequests | endReplies => exact keep before.collecting rfl rfl
    | reply =>
      have answered := Call.accepted_of_reply acted
      exact ⟨before.collecting, fun unaccepted => absurd answered unaccepted⟩
    | answer =>
      have unanswered := Call.unanswered_of_act acted
      refine ⟨fun image collecting => ?_, fun _ => ?_⟩
      next => cases unanswered.symm.trans (before.collecting image collecting)
      next =>
        rw [replied_append, before.unaccepted (by simp [unanswered])]
        rfl
  | again | stop | translate | offend | drain | put | queue | unread | cancel | dialed | undialed | opened | unopened
  | deliver | endStream => exact keep before.collecting rfl rfl

theorem opened_of_run (run : Run { spec } before bridge) : Opened before bridge := by
  refine run.keeps Opened ⟨fun _ collecting => (by cases collecting), fun _ => rfl⟩ fun _ _ _ _ _ earlier possible =>
    earlier.act (step_of_act possible)

theorem calling_of_unaccepted (opened : Opened before bridge) (working : bridge.foreground.isWorking = true)
    (unaccepted : bridge.call.answer ≠ some (.ok ())) : bridge.foreground = .calling := by
  cases foreground : bridge.foreground with
  | calling => rfl
  | collecting image => exact absurd (opened.collecting image foreground) unaccepted
  | unused | dialing | joining | returned => rw [foreground] at working; cases working

theorem working_of_held (custody : Custody bridge) (begun : bridge.callOpened = true)
    (held : bridge.call.held = true) : bridge.foreground.isWorking = true := by
  refine (custody.held fun unstarted => ?_).symm.trans held
  simp [callOpened, unstarted] at begun

theorem refusal_concludes (run : Run { spec } before bridge)
    (possible : bridge.act (.onCall (.answer (.error status))) = some ended) :
    replied before = [] /\ ended.Concludes (.error (.streamTransport status)) := by
  have opened := opened_of_run run
  cases step_of_act possible with
  | onCall _ call begun acted =>
    have unanswered := Call.unanswered_of_act acted
    cases Call.move_of_act acted with
    | answer _ held =>
      have working := working_of_held (custody_of_run run) begun held
      have calling := calling_of_unaccepted opened working (by simp [unanswered])
      exact ⟨opened.unaccepted (by simp [unanswered]),
        concludes_of_awaits (run_of_follow (follow_snoc run.reached possible)) (.refused status calling rfl)⟩

theorem failure_concludes (run : Run { spec } before bridge)
    (possible : bridge.act (.onCall (.reply (.error status))) = some ended) :
    exists frames, replied before = frames.map .ok /\ ended.Concludes
      (if status.isTornDown then .ok (imageOf frames) else .error (.streamTransport status)) := by
  cases step_of_act possible with
  | onCall _ call begun acted =>
    have answered := Call.accepted_of_reply acted
    cases Call.move_of_act acted with
    | reply _ held intact =>
      have working := working_of_held (custody_of_run run) begun held
      have there : bridge.foreground.hasLeft = false := by
        cases foreground : bridge.foreground <;> simp [foreground, Foreground.isWorking, Foreground.hasLeft] at working ⊢
      -- What the foreground has taken and what it has not make up everything that was sent before the status.
      obtain ⟨taken, image, gathered⟩ := (gathers_of_run run).gathered there
      obtain ⟨waiting, ready⟩ := frames_of_intact intact
      have awaits : Awaits { bridge with call := { bridge.call with
          replies := bridge.call.replies.push (.error status) } } _ :=
        .broken status waiting working answered (by simp [Source.push, ready])
      refine ⟨taken ++ waiting, by simp [gathered, ready], ?_⟩
      have concludes := concludes_of_awaits (run_of_follow (follow_snoc run.reached possible)) awaits
      simpa [image, imageOf] using concludes

/-- A status ends the image if it comes behind the frames and tells of a teardown, and is the result otherwise. As the
answer to the call itself it is the result whatever it tells. -/
theorem status_ends_call {move : CallAction ThumbnailHeader} (run : Run { spec } before bridge)
    (possible : bridge.act (.onCall move) = some ended)
    (delivered : move = .answer (.error status) \/ move = .reply (.error status)) :
    exists frames, replied before = frames.map .ok /\
      (move = .reply (.error status) -> status.Mentions "broken pipe" \/ status.Mentions "connection reset" ->
        ended.Concludes (.ok (imageOf frames))) /\
      (move = .answer (.error status) \/ ¬ (status.Mentions "broken pipe" \/ status.Mentions "connection reset") ->
        ended.Concludes (.error (.streamTransport status))) := by
  simp only [← Status.isTornDown_iff]
  rcases delivered with rfl | rfl
  next =>
    obtain ⟨silent, concludes⟩ := refusal_concludes run possible
    exact ⟨[], silent, fun other => (by cases other), fun _ => concludes⟩
  next =>
    obtain ⟨frames, sent, concludes⟩ := failure_concludes run possible
    refine ⟨frames, sent, fun _ torn => ?_, fun other => ?_⟩
    next => simpa [torn] using concludes
    next =>
      have intact : ¬ status.isTornDown = true := other.resolve_left (by simp)
      simpa [intact] using concludes

theorem brokenPipe_mentioned : brokenPipe.Mentions "broken pipe" \/ brokenPipe.Mentions "connection reset" :=
  (Status.isTornDown_iff brokenPipe).1 rfl

def clipAnswered : List Action :=
  [.generate ["a"], .dialedEncoder (.ok ()), .onCall (.answer (.ok ())),
    .onCall (.reply (.ok { datagram := some { payload := [7, 8] } }))]

theorem clip_spared : exists bridge ended, Run {} clipAnswered bridge /\
    bridge.act (.onCall (.reply (.error brokenPipe))) = some ended /\ ended.Concludes (.ok [7, 8]) := by
  obtain ⟨bridge, ended, reached, possible⟩ : exists bridge ended, follow act {} clipAnswered = some bridge /\
      bridge.act (.onCall (.reply (.error brokenPipe))) = some ended := ⟨_, _, rfl, rfl⟩
  obtain ⟨frames, sent, spared, -⟩ := status_ends_call (run_of_follow reached) possible (.inr rfl)
  obtain rfl : frames = [{ datagram := some { payload := [7, 8] } }] := by
    simpa [replied, clipAnswered, List.map_eq_cons_iff, eq_comm] using sent
  exact ⟨bridge, ended, run_of_follow reached, possible, spared rfl brokenPipe_mentioned⟩

def tornAtOnce : List Action :=
  [.generate ["a"], .dialedEncoder (.ok ()), .onCall (.answer (.error brokenPipe)), .foreground, .pump, .foreground]

theorem torn_answer_fails : exists last, Run {} tornAtOnce last /\ last.storageFailed = false /\
    (brokenPipe.Mentions "broken pipe" \/ brokenPipe.Mentions "connection reset") /\
    last.result? = some (.error (.streamTransport brokenPipe)) := by
  obtain ⟨last, reached, unfailed, returned⟩ : exists last, follow act {} tornAtOnce = some last /\
      last.storageFailed = false /\ last.result? = some (.error (.streamTransport brokenPipe)) := ⟨_, rfl, rfl, rfl⟩
  exact ⟨last, run_of_follow reached, unfailed, brokenPipe_mentioned, returned⟩

/-- The foreground looks for a failed storage read before it looks at the call: also an error of the encoder that waits
for it is given up for the fault of the storage read. -/
theorem storage_fault_precedes (run : Run { spec } before bridge)
    (awaits : bridge.Awaits (.error (.streamTransport status))) :
    bridge.Concludes (.error (.streamTransport status)) /\
      forall fault, bridge.pump = .finished (.error fault) -> exists last,
        Run bridge [.foreground, .foreground] last /\ last.result? = some (.error fault) := by
  refine ⟨concludes_of_awaits run awaits, fun fault failed => ?_⟩
  have announced : bridge.storageFailed = true := (heeds_of_run run).announced.2 ⟨fault, failed⟩
  have left : (bridge.leaveCall none).foreground = .joining none bridge.cancelled := rfl
  exact ⟨_, .act (act_abandon awaits.working announced) (.act (act_settle left failed) (.done _)), rfl⟩

def encoderCrash : Status where
  code := .internal
  message := "ffmpeg exited with 1"

def bothRefused : List Action :=
  [.generate ["a"], .dialedEncoder (.ok ()), .dialedStorage (.ok ()), .onCall (.answer (.error encoderCrash)),
    .openedVideo (.error diskFailure)]

theorem encoder_fault_lost : exists bridge last, Run {} bothRefused bridge /\
    bridge.Awaits (.error (.streamTransport encoderCrash)) /\ encoderCrash.isTornDown = false /\
    bridge.storageFailed = true /\ Run bridge [.foreground, .foreground] last /\
    last.result? = some (.error (.streamTransport diskFailure)) := by
  obtain ⟨bridge, last, reached, calling, answered, failed, later, returned⟩ : exists bridge last,
      follow act {} bothRefused = some bridge /\ bridge.foreground = .calling /\
      bridge.call.answer = some (.error encoderCrash) /\ bridge.storageFailed = true /\
      follow act bridge [.foreground, .foreground] = some last /\
      last.result? = some (.error (.streamTransport diskFailure)) := ⟨_, _, rfl, rfl, rfl, rfl, rfl, rfl⟩
  exact ⟨bridge, last, run_of_follow reached, .refused encoderCrash calling answered, rfl, failed,
    run_of_follow later, returned⟩

theorem refusals_ranked : exists early late last, Run {} (bothRefused.take 4) early /\
    early.Returns (.error (.streamTransport encoderCrash)) /\ Run {} bothRefused late /\
    Run late [.foreground, .foreground] last /\ last.result? = some (.error (.streamTransport diskFailure)) := by
  obtain ⟨early, late, before, calling, answered, unfailed, after, still, known, failed⟩ : exists early late,
      follow act {} (bothRefused.take 4) = some early /\ early.foreground = .calling /\
      early.call.answer = some (.error encoderCrash) /\ early.storageFailed = false /\
      follow act {} bothRefused = some late /\ late.foreground = .calling /\
      late.call.answer = some (.error encoderCrash) /\
      late.pump = .finished (.error (.streamTransport diskFailure)) := ⟨_, _, rfl, rfl, rfl, rfl, rfl, rfl, rfl, rfl⟩
  obtain ⟨concludes, -⟩ := storage_fault_precedes (run_of_follow before) (.refused encoderCrash calling answered)
  obtain ⟨-, abandons⟩ := storage_fault_precedes (run_of_follow after) (.refused encoderCrash still known)
  obtain ⟨last, later, returned⟩ := abandons _ failed
  exact ⟨early, late, last, run_of_follow before, concludes.returns unfailed, run_of_follow after, later, returned⟩

end Bridge

end VideoRelay
