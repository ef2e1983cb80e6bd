import VideoRelay.Proofs.Session.Failure

set_option autoImplicit false

namespace VideoRelay

open Wire

def payloadsOf (replies : List (Except Status EncodeVideoResponse)) : List Bytes :=
  replies.filterMap fun reply => match reply with
    | .ok frame => frame.datagram.map Datagram.payload
    | .error _ => none

theorem payloadsOf_append (before after : List (Except Status EncodeVideoResponse)) :
    payloadsOf (before ++ after) = payloadsOf before ++ payloadsOf after :=
  List.filterMap_append

namespace Fetcher

def taken : Fetcher -> List Bytes
  | writing (.starting chunk) => [chunk]
  | writing _ | calling | reading _ | finished _ => []

def isBroken : Fetcher -> Bool
  | writing (.finished (.error _)) | finished (.error _) => true
  | writing _ | calling | reading _ | finished (.ok _) => false

end Fetcher

namespace Outlet

theorem Move.unput {outlet next : Outlet} {heads : List ResponseHead} {frames : List Bytes}
    (moved : outlet.Move heads frames next) (settled : outlet.emitting = false) :
    outlet.sink.body.arrival next.sink.body = [] := by
  cases moved with
  | rest | wrote | receiveHead | takeText => exact Channel.arrival_of_same rfl
  | fail => exact Channel.arrival_of_same (by simp)
  -- Only a write puts something into the slot, and an emitter that is through makes none.
  | begin _ _ emitting | write _ _ _ emitting | settle _ emitting | settleFailed _ emitting =>
    cases settled.symm.trans emitting
  | close =>
    have released : outlet.sink.Released outlet.sink.dropHandle := .dropHandle
    exact Channel.arrival_of_same released.place
  | leave _ _ _ released => exact Channel.arrival_of_same released.place
  | takeChunk | receiveFault | disconnect => exact Channel.arrival_of_empty rfl

theorem Move.gone {outlet next : Outlet} {heads : List ResponseHead} {frames : List Bytes}
    (moved : outlet.Move heads frames next) (gone : outlet.reader = .gone) : next.reader = .gone := by
  cases moved with
  | receiveHead _ asked | receiveFault _ _ asked | takeChunk _ asked | takeText _ asked => cases gone.symm.trans asked
  | disconnect => rfl
  | _ => exact gone

end Outlet

namespace Transcoder

theorem Feeds.replies {transcoder after : Transcoder} {before pipeline : Pipeline}
    (moved : transcoder.Feeds before after pipeline) : after.call.replies = transcoder.call.replies := by
  cases moved <;> rfl

end Transcoder

namespace Session

variable {session next : Session} {action : Action} {actions : List Action} {transcoder : Transcoder}

theorem Step.keepsFetching (step : session.Step action next) (mode : session.emitter = .transcoding transcoder)
    (foreign : action ≠ .fetch) : exists after, next.emitter = .transcoding after /\
      after.fetcher = transcoder.fetcher /\
      after.call.replies.items = transcoder.call.replies.items ++ replied [action] := by
  have aside (after : Transcoder) (same : next.emitter = .transcoding after)
      (fetcher : after.fetcher = transcoder.fetcher) (replies : after.call.replies = transcoder.call.replies)
      (silent : replied [action] = []) : exists after, next.emitter = .transcoding after /\
        after.fetcher = transcoder.fetcher /\
        after.call.replies.items = transcoder.call.replies.items ++ replied [action] :=
    ⟨after, same, fetcher, by rw [replies, silent, List.append_nil]⟩
  have dropped := transcoder.drop_fetcher emitterHandle session.pipeline
  cases step with
  | fetch => exact absurd rfl foreign
  | emit _ _ _ stored => rw [stored] at mode; cases mode
  | forward _ _ moved => exact aside transcoder (moved.emitter.1.trans mode) rfl rfl rfl
  | feed before after pipeline _ same _ _ moved =>
    cases mode.symm.trans same
    exact aside after (afterLeg_emitter _ _ _) moved.call.1 moved.replies rfl
  | abort => exact aside _ (dropEmitter_transcoder mode) dropped.1 dropped.2.2 rfl
  | leave =>
    have cut := cutShort_transcoder mode
    split at cut
    next => exact aside transcoder cut rfl rfl rfl
    next => exact aside _ cut dropped.1 dropped.2.2 rfl
  | onCall move before call same acted =>
    cases mode.symm.trans same
    refine ⟨_, rfl, rfl, ?_⟩
    cases Call.move_of_act acted with
    | reply => rfl
    | answer | takeRequest | closeRequests | endReplies => exact (List.append_nil _).symm
  | join | deliver | endStream | receiveHead | receiveFault | takeChunk | takeText | disconnect =>
    exact aside transcoder mode rfl rfl rfl

theorem writer_of_outlet {writer : Writer} (writing : session.outlet.writer = some writer) :
    session.writer? = some writer := by
  simp only [outlet] at writing
  split at writing
  next => exact writing
  next => cases writing

theorem acceptance_of_writer (same : next.writer? = session.writer?) : session.acceptance next = [] := by
  unfold acceptance Outlet.acceptance
  split
  next chunk other starting offering =>
    have began := same.symm.trans (writer_of_outlet offering)
    cases (writer_of_outlet starting).symm.trans began
  next => rfl

theorem writer_transcoding (mode : session.emitter = .transcoding transcoder) :
    session.writer? = transcoder.writer? := by
  simp only [writer?, mode]

theorem settled_of_fetched (mode : session.emitter = .transcoding transcoder)
    (through : transcoder.fetcher.outcome?.isSome = true) : session.isEmitting = false := by
  simp [isEmitting, mode, through]

theorem finishFetcher_place (session : Session) (transcoder : Transcoder) (outcome : Except Fault Unit) :
    (session.afterLeg (transcoder.finishFetcher emitterHandle session.pipeline outcome).1
      (transcoder.finishFetcher emitterHandle session.pipeline outcome).2).sink.body.place =
        session.sink.body.place := by
  have released : session.sink.Released
      { session.sink with body := session.sink.body.withdraw emitterHandle }.dropHandle :=
    (Sink.Released.withdraw emitterHandle).trans .dropHandle
  unfold afterLeg
  split
  next => exact released.place
  next outcome _ =>
    cases outcome with
    | ok _ => exact released.place
    | error _ => exact (congrArg Channel.place (Sink.failInternal_body _)).trans released.place

structure Fetching (replies : List (Except Status EncodeVideoResponse)) (accepted written : List Bytes)
    (session : Session) (transcoder : Transcoder) : Prop where
  mode : session.emitter = .transcoding transcoder
  ordered : accepted <+: payloadsOf replies
  ahead : transcoder.fetcher.outcome? = none -> transcoder.fetcher.isBroken = false ->
    payloadsOf replies = accepted ++ transcoder.fetcher.taken ++ payloadsOf transcoder.call.replies.items
  through : transcoder.fetcher = .finished (.ok ()) -> payloadsOf replies = accepted /\ accepted = written

namespace Fetching

variable {replies : List (Except Status EncodeVideoResponse)} {accepted written : List Bytes}

theorem aside (before : Fetching replies accepted written session transcoder) (feeding : Feeding session transcoder)
    (step : session.Step action next) (coherent : session.Coherent) (foreign : action ≠ .fetch) :
    exists after, Fetching (replies ++ replied [action]) (accepted ++ session.acceptance next)
      (written ++ session.bodyArrival next) next after := by
  obtain ⟨after, mode, fetcher, items⟩ := step.keepsFetching before.mode foreign
  have unaccepted : session.acceptance next = [] := by
    refine acceptance_of_writer ?_
    rw [writer_transcoding mode, writer_transcoding before.mode, Transcoder.writer?, Transcoder.writer?, fetcher]
  rw [unaccepted, List.append_nil]
  refine ⟨after, mode, ?_, ?_, ?_⟩
  next => rw [payloadsOf_append]; exact before.ordered.trans (List.prefix_append _ _)
  next =>
    rw [fetcher, items, payloadsOf_append, payloadsOf_append]
    intro going sound
    rw [before.ahead going sound, List.append_assoc]
  next =>
    rw [fetcher]
    intro finished
    -- A fetcher that is over has let go of the call, so that no reply can come any more.
    have fetched : transcoder.fetcher.outcome?.isSome = true := by rw [finished]; rfl
    have silent : replied [action] = [] := by
      cases step with
      | onCall move earlier call same acted =>
        cases before.mode.symm.trans same
        cases Call.move_of_act acted with
        | reply _ held => cases (feeding.holds.fetched fetched).symm.trans held
        | answer | takeRequest | closeRequests | endReplies => rfl
      | _ => rfl
    have unput : session.bodyArrival next = [] :=
      (step.outlet coherent).unput (settled_of_fetched before.mode fetched)
    rw [silent, unput, List.append_nil, List.append_nil]
    exact before.through finished

theorem fetch (before : Fetching replies accepted written session transcoder)
    (accounts : session.outlet.Accounts accepted written) (going : session.isOver = false)
    (running : session.emitted = none) {after : Transcoder} {pipeline : Pipeline}
    (moved : transcoder.Fetches emitterHandle session.pipeline after pipeline) :
    Fetching replies (accepted ++ session.acceptance (session.afterLeg after pipeline))
      (written ++ session.bodyArrival (session.afterLeg after pipeline)) (session.afterLeg after pipeline) after := by
  have mode : (session.afterLeg after pipeline).emitter = .transcoding after := afterLeg_emitter _ _ _
  have sorting : session.outlet.writer = transcoder.writer? := by rw [outlet_transcoding going running before.mode]
  have sorted : (session.afterLeg after pipeline).outlet.writer = after.writer? := by
    rw [outlet_afterLeg going running]
  have resting (unwriting : forall chunk, after.writer? ≠ some (.offering chunk)) :
      session.acceptance (session.afterLeg after pipeline) = [] :=
    Outlet.acceptance_of_rest (.inr (by rw [sorted]; exact unwriting))
  have further (unwriting : forall chunk, after.writer? ≠ some (.offering chunk))
      (ahead : after.fetcher.isBroken = false -> payloadsOf replies =
        accepted ++ after.fetcher.taken ++ payloadsOf after.call.replies.items)
      (unfinished : after.fetcher ≠ .finished (.ok ())) :
      Fetching replies (accepted ++ session.acceptance (session.afterLeg after pipeline))
        (written ++ session.bodyArrival (session.afterLeg after pipeline)) (session.afterLeg after pipeline) after := by
    rw [resting unwriting, List.append_nil]
    exact ⟨mode, before.ordered, fun _ => ahead, fun finished => absurd finished unfinished⟩
  have fails (fault : Fault) (failed : after.fetcher = .finished (.error fault)) :
      Fetching replies (accepted ++ session.acceptance (session.afterLeg after pipeline))
        (written ++ session.bodyArrival (session.afterLeg after pipeline)) (session.afterLeg after pipeline) after :=
    further (by simp [Transcoder.writer?, failed]) (fun sound => (by rw [failed] at sound; cases sound))
      (by simp [failed])
  have ahead := before.ahead
  cases moved with
  | refused status => exact fails (.streamTransport status) rfl
  | broken typed status => exact fails (.streamTransport status) rfl
  | unwritten fault => exact fails fault rfl
  | answered calling =>
    refine further (by simp [Transcoder.writer?]) (fun _ => ?_) (by simp)
    simpa [calling, Fetcher.taken] using ahead (by rw [calling]; rfl) (by rw [calling]; rfl)
  | skip typed reply rest reading ready bare =>
    refine further (by simp [Transcoder.writer?, Transcoder.withReplies, reading]) (fun _ => ?_)
      (by simp [Transcoder.withReplies, reading])
    have whole := ahead (by rw [reading]; rfl) (by rw [reading]; rfl)
    simpa [Transcoder.withReplies, ready, payloadsOf, bare] using whole
  | receive typed reply rest datagram reading ready carried =>
    refine further (by simp [Transcoder.writer?]) (fun _ => ?_) (by simp)
    have whole := ahead (by rw [reading]; rfl) (by rw [reading]; rfl)
    simpa [Transcoder.withReplies, reading, ready, payloadsOf, carried, Fetcher.taken] using whole
  | wrote writing =>
    refine further (by simp [Transcoder.writer?]) (fun _ => ?_) (by simp)
    simpa [writing, Fetcher.taken] using ahead (by rw [writing]; rfl) (by rw [writing]; rfl)
  | finish typed reading drained =>
    -- Nothing is in hand and nothing waits, so that the writes have got all there is.
    have whole : payloadsOf replies = accepted := by
      simpa [reading, Fetcher.taken, drained, payloadsOf] using ahead (by rw [reading]; rfl) (by rw [reading]; rfl)
    have unput : session.bodyArrival _ = [] :=
      Channel.arrival_of_same (finishFetcher_place session transcoder (.ok ()))
    have placed : accepted = written := by
      have idle : session.outlet.writer = none := by rw [sorting, Transcoder.writer?, reading]
      have emitting : session.outlet.emitting = true := by
        rw [outlet_transcoding going running before.mode, reading]
        rfl
      rcases accounts.order emitting with ⟨fault, broken⟩ | whole
      next => rw [idle] at broken; cases broken
      next => simpa [Outlet.begun, idle] using whole
    rw [resting (by simp [Transcoder.writer?, Transcoder.finishFetcher, Transcoder.releaseFetcher]), unput,
      List.append_nil, List.append_nil]
    exact ⟨mode, before.ordered, fun unfinished => (by cases unfinished), fun _ => ⟨whole, placed⟩⟩
  | write writer later sink writing moved =>
    have whole (sound : writer.outcome? = none) : payloadsOf replies =
        accepted ++ (Fetcher.writing writer).taken ++ payloadsOf transcoder.call.replies.items := by
      rw [writing] at ahead
      refine ahead rfl ?_
      cases writer with
      | finished outcome => cases sound
      | starting | offering | waiting => rfl
    cases moved with
    | count chunk _ accepts =>
      have begun : session.acceptance (session.afterLeg
          { transcoder with fetcher := .writing (.offering chunk) } { session.pipeline with sink }) = [chunk] := by
        simp [acceptance, Outlet.acceptance, sorting, sorted, Transcoder.writer?, writing]
      have split : payloadsOf replies = accepted ++ [chunk] ++ payloadsOf transcoder.call.replies.items := whole rfl
      rw [begun]
      refine ⟨mode, split ▸ List.prefix_append _ _, fun _ _ => ?_, fun finished => (by cases finished)⟩
      simpa [Fetcher.taken] using split
    | refuse => exact further (by simp [Transcoder.writer?]) (fun sound => (by cases sound)) (by simp)
    | abandon => exact further (by simp [Transcoder.writer?]) (fun sound => (by cases sound)) (by simp)
    | put _ chunk offered | queue _ chunk offered =>
      refine further (by simp [Transcoder.writer?]) (fun _ => ?_) (by simp)
      rcases offered with rfl | rfl <;> simpa [Fetcher.taken] using whole rfl

end Fetching

theorem fetching_of_run {preset : Preset} (run : Run (transcoding preset) actions session) :
    exists transcoder, Fetching (replied actions) (chunksAccepted (transcoding preset) actions)
      (chunksWritten (transcoding preset) actions) session transcoder := by
  refine run.keeps (fun done session => exists transcoder, Fetching (replied done)
    (chunksAccepted (transcoding preset) done) (chunksWritten (transcoding preset) done) session transcoder)
    ⟨{ preset }, rfl, List.nil_prefix, fun _ _ => rfl, fun finished => (by cases finished)⟩ ?_
  rintro actions session action next run ⟨transcoder, before⟩ possible
  have step := step_of_act possible
  obtain ⟨coherent, -⟩ := answered_of_run (.transcoding preset) run
  have accounts := accounts_of_run (.transcoding preset) run
  have feeding := feeding_of_fresh (.transcoding preset) run before.mode
  rw [replied_append, chunksAccepted, chunksWritten, trace_snoc acceptance run.reached possible,
    trace_snoc bodyArrival run.reached possible]
  by_cases foreign : action = .fetch
  next =>
    subst foreign
    cases step with
    | fetch other after pipeline going mode unaborted running moved =>
      cases before.mode.symm.trans mode
      rw [show replied [Action.fetch] = [] from rfl, List.append_nil]
      exact ⟨after, before.fetch accounts going running moved⟩
  next => exact before.aside feeding step coherent foreign

end Session

end VideoRelay
