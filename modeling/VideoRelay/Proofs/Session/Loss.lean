import VideoRelay.Proofs.Session.Abort
import VideoRelay.Proofs.Session.Fidelity
import VideoRelay.Proofs.Session.Reading
import VideoRelay.Proofs.Session.Typing

set_option autoImplicit false

namespace VideoRelay

namespace Outlet

def loss (before after : Outlet) : List Bytes :=
  if before.emitting && !after.emitting then before.begun else []

theorem loss_of_settled {before : Outlet} (settled : before.emitting = false) (after : Outlet) :
    before.loss after = [] := by
  simp [loss, settled]

theorem loss_of_emitting (before : Outlet) {after : Outlet} (emitting : after.emitting = before.emitting) :
    before.loss after = [] := by
  simp [loss, emitting]

theorem loss_of_idle {before : Outlet} (idle : before.begun = []) (after : Outlet) : before.loss after = [] := by
  simp [loss, idle]

theorem begun_of_unbegun {outlet : Outlet} (unbegun : outlet.hasBegun = false) : outlet.begun = [] := by
  unfold hasBegun at unbegun
  unfold begun
  cases writing : outlet.writer with
  | none => rfl
  | some writer => cases writer <;> simp_all [Writer.hasBegun, Writer.begun]

structure Balanced (accepted written lost : List Bytes) (outlet : Outlet) : Prop where
  whole : outlet.sink.body.receiving = true -> accepted = written ++ outlet.begun ++ lost
  spared : outlet.emitting = true -> lost = []
  idle : outlet.emitting = false -> outlet.begun = []

namespace Balanced

variable {accepted written lost : List Bytes} {heads : List ResponseHead} {frames : List Bytes} {outlet next : Outlet}

theorem keep (before : Balanced accepted written lost outlet) (unaccepted : outlet.acceptance next = [])
    (unput : outlet.sink.body.arrival next.sink.body = []) (emitting : next.emitting = outlet.emitting)
    (begun : next.begun = outlet.begun)
    (receiving : next.sink.body.receiving = true -> outlet.sink.body.receiving = true) :
    Balanced (accepted ++ outlet.acceptance next) (written ++ outlet.sink.body.arrival next.sink.body)
      (lost ++ outlet.loss next) next := by
  rw [unaccepted, unput, loss_of_emitting outlet emitting, List.append_nil, List.append_nil, List.append_nil]
  refine ⟨fun unclosed => ?_, fun emits => before.spared (emitting.symm.trans emits), fun settled => ?_⟩
  next => rw [begun]; exact before.whole (receiving unclosed)
  next => rw [begun]; exact before.idle (emitting.symm.trans settled)

theorem settle (before : Balanced accepted written lost outlet) (emitting : outlet.emitting = true)
    (unput : outlet.sink.body.arrival next.sink.body = []) (settled : next.emitting = false)
    (idle : next.writer = none)
    (receiving : next.sink.body.receiving = true -> outlet.sink.body.receiving = true) :
    Balanced (accepted ++ outlet.acceptance next) (written ++ outlet.sink.body.arrival next.sink.body)
      (lost ++ outlet.loss next) next := by
  have unaccepted : outlet.acceptance next = [] := acceptance_of_rest (.inr (by simp [idle]))
  have lost : outlet.loss next = outlet.begun := by simp [loss, emitting, settled]
  have nothing : next.begun = [] := by simp [Outlet.begun, idle]
  rw [unaccepted, unput, lost, before.spared emitting, List.append_nil, List.append_nil, List.nil_append]
  refine ⟨fun unclosed => ?_, fun emits => ?_, fun _ => nothing⟩
  next =>
    have whole := before.whole (receiving unclosed)
    rw [before.spared emitting, List.append_nil] at whole
    rw [nothing, List.append_nil, whole]
  next => rw [settled] at emits; cases emits

theorem write (before : Balanced accepted written lost outlet) (answered : outlet.Answered written heads frames)
    {writer after : Writer} {sink : Sink} (emitting : outlet.emitting = true)
    (writing : outlet.writer = some writer) (moved : writer.Move Session.emitterHandle outlet.sink after sink) :
    Balanced (accepted ++ outlet.acceptance { outlet with writer := some after, sink })
      (written ++ outlet.sink.body.arrival sink.body)
      (lost ++ outlet.loss { outlet with writer := some after, sink }) { outlet with writer := some after, sink } := by
  have still : lost ++ outlet.loss { outlet with writer := some after, sink } = [] := by
    rw [before.spared emitting, List.nil_append]
    exact outlet.loss_of_emitting rfl
  have settles {holds : Prop} (settled : outlet.emitting = false) : holds := by
    rw [emitting] at settled
    cases settled
  have whole (unclosed : outlet.sink.body.receiving = true) : accepted = written ++ writer.begun := by
    simpa [begun, writing, before.spared emitting] using before.whole unclosed
  have begins (chunk : Bytes) (offered : writer = .offering chunk \/ writer = .waiting chunk) :
      writer.begun = [chunk] := by
    rcases offered with rfl | rfl <;> rfl
  rw [still]
  refine ⟨?_, fun _ => rfl, settles⟩
  cases moved with
  | count chunk _ accepts =>
    intro unclosed
    have body := Sink.beginWrite_body accepts
    have acceptance : outlet.acceptance { outlet with writer := some (.offering chunk), sink } = [chunk] := by
      simp [acceptance, writing]
    have earlier := whole (by rw [<- body]; exact unclosed)
    simp only [Writer.begun, List.append_nil] at earlier
    rw [acceptance, body, Channel.arrival_of_same rfl, earlier]
    simp [begun, Writer.begun]
  | refuse chunk failed =>
    intro unclosed
    have earlier := whole unclosed
    rw [acceptance_of_rest (.inr (by simp)), Channel.arrival_of_same rfl, earlier]
    simp [begun, Writer.begun]
  | put _ chunk offered unclosed granted =>
    intro _
    have empty := (answered.served unclosed emitting).place_of_granted granted
    rw [acceptance_of_rest (.inr (by simp)), Channel.arrival_of_put empty, whole unclosed, begins chunk offered]
    simp [begun, Writer.begun]
  | queue _ chunk offered unclosed =>
    intro _
    have unput : outlet.sink.body.arrival
        { outlet.sink.body with waiting := outlet.sink.body.waiting ++ [Session.emitterHandle] } = [] :=
      Channel.arrival_of_same rfl
    rw [acceptance_of_rest (.inr (by simp)), unput, whole unclosed, begins chunk offered]
    simp [begun, Writer.begun]
  | abandon _ chunk offered closed =>
    -- Only a client that is gone refuses a chunk that was counted.
    intro unclosed
    exact absurd (closed.symm.trans unclosed) (by decide)

theorem move (before : Balanced accepted written lost outlet) (answered : outlet.Answered written heads frames)
    {gotHeads : List ResponseHead} {gotFrames : List Bytes} (moved : outlet.Move gotHeads gotFrames next) :
    Balanced (accepted ++ outlet.acceptance next) (written ++ outlet.sink.body.arrival next.sink.body)
      (lost ++ outlet.loss next) next := by
  have receiving := moved.receiving
  cases moved with
  | rest | receiveHead | takeText =>
    exact before.keep (acceptance_of_rest (.inl rfl)) (Channel.arrival_of_same rfl) rfl rfl receiving
  | fail => exact before.keep (acceptance_of_rest (.inl rfl)) (Channel.arrival_of_same (by simp)) rfl rfl receiving
  | takeChunk | receiveFault | disconnect =>
    exact before.keep (acceptance_of_rest (.inl rfl)) (Channel.arrival_of_empty rfl) rfl rfl receiving
  | begin chunk headers emitting idle =>
    exact before.keep (acceptance_of_rest (.inr (by simp))) (Channel.arrival_of_same rfl) rfl
      (by simp [begun, idle, Writer.begun]) receiving
  | wrote writing =>
    exact before.keep (acceptance_of_rest (.inr (by simp))) (Channel.arrival_of_same rfl) rfl
      (by simp [begun, writing, Writer.begun]) receiving
  | write writer after sink emitting writing moved => exact before.write answered emitting writing moved
  | settle body emitting _ place | settleFailed body emitting _ place =>
    exact before.settle emitting (Channel.arrival_of_same (by simpa [Channel.dropSender] using place)) rfl rfl receiving
  | close going settled =>
    have released : outlet.sink.Released outlet.sink.dropHandle := .dropHandle
    exact before.keep (acceptance_of_rest (.inr (by simp))) (Channel.arrival_of_same released.place) settled.symm
      (before.idle settled).symm receiving
  | leave sink going closed released =>
    cases emitting : outlet.emitting with
    | true => exact before.settle emitting (Channel.arrival_of_same released.place) rfl rfl receiving
    | false =>
      exact before.keep (acceptance_of_rest (.inr (by simp))) (Channel.arrival_of_same released.place) emitting.symm
        (before.idle emitting).symm receiving

end Balanced

theorem Answered.ending {written : List Bytes} {heads : List ResponseHead} {frames : List Bytes} {outlet : Outlet}
    (answered : Answered written heads frames outlet) (finished : outlet.reader.read outlet.sink = some .finished) :
    ((exists headers, outlet.sink.head = some (.stream headers)) /\ frames = written /\
        outlet.sink.body.receiving = true) \/
      outlet.sink.head = some (.failed 500 internalFaultText) /\ frames = [faultText] := by
  have told := answered.told
  generalize reading : outlet.reader = reader at told finished
  cases told with
  | nothing | left => cases finished
  | streaming headers frames decided =>
    have unfaulted (status : Nat) (text : String) : outlet.sink.head ≠ some (.failed status text) := by simp [decided]
    obtain ⟨-, unclosed, drained, -⟩ := answered.through_of_finished unfaulted (reading ▸ finished)
    refine .inl ⟨⟨headers, decided⟩, ?_, unclosed⟩
    simpa [drained] using (answered.content unclosed).symm
  | fault => cases finished
  | faultRead decided => exact .inr ⟨decided, rfl⟩

theorem Move.settled {outlet next : Outlet} {heads : List ResponseHead} {frames : List Bytes}
    (moved : outlet.Move heads frames next) (settled : outlet.emitting = false) : next.emitting = false := by
  cases moved with
  | rest | fail | begin | write | wrote | receiveHead | receiveFault | takeChunk | takeText | disconnect =>
    exact settled
  | settle | settleFailed | close | leave => rfl

theorem Move.past {outlet next : Outlet} {heads : List ResponseHead} {frames : List Bytes}
    (moved : outlet.Move heads frames next) (through : outlet.isOver = true) (settled : outlet.emitting = false) :
    next.isOver = true /\ next.sink.head = outlet.sink.head /\ next.sink.written = outlet.sink.written := by
  cases moved with
  | rest | receiveHead | receiveFault | takeChunk | takeText | disconnect | wrote => exact ⟨through, rfl, rfl⟩
  | fail going | settle _ _ going | settleFailed _ _ going | close going | leave _ going =>
    exact absurd (going.symm.trans through) (by decide)
  | begin _ _ emitting | write _ _ _ emitting => exact absurd (settled.symm.trans emitting) (by decide)

end Outlet

namespace Session

variable {session next last : Session} {action : Action} {actions : List Action}

def loss (before after : Session) : List Bytes :=
  before.outlet.loss after.outlet

/-- The chunks that were counted and then lost on their way to the slot. -/
def chunksLost : Session -> List Action -> List Bytes :=
  trace act loss

theorem balanced_of_run {emitter : Emitter} (fresh : emitter.Fresh) (run : Run (start emitter) actions session) :
    session.outlet.Balanced (chunksAccepted (start emitter) actions) (chunksWritten (start emitter) actions)
      (chunksLost (start emitter) actions) := by
  have idle : (start emitter).outlet.begun = [] := by cases fresh <;> rfl
  refine run.keeps (fun done session => session.outlet.Balanced (chunksAccepted (start emitter) done)
    (chunksWritten (start emitter) done) (chunksLost (start emitter) done))
    ⟨fun _ => by simp [idle, chunksAccepted, chunksWritten, chunksLost, trace], fun _ => rfl, fun _ => idle⟩ ?_
  intro actions session action next run before possible
  obtain ⟨coherent, answered⟩ := answered_of_run fresh run
  rw [chunksAccepted, chunksWritten, chunksLost, trace_snoc acceptance run.reached possible,
    trace_snoc bodyArrival run.reached possible, trace_snoc loss run.reached possible]
  exact before.move answered ((step_of_act possible).outlet coherent)

theorem Stores.unlost {emitter : Passthrough} (moved : session.Stores emitter next) (coherent : session.Coherent)
    (going : session.isOver = false) (mode : session.emitter = .passthrough emitter) : session.loss next = [] := by
  have before := outlet_passthrough coherent going mode
  have after := moved.coherent mode coherent
  cases moved with
  | first | next | undescribed | drain | wrote | unwritten =>
    exact Outlet.loss_of_idle (by rw [before]; rfl) _
  | write =>
    refine session.outlet.loss_of_emitting ?_
    rw [before, outlet_passthrough after going rfl]
    rfl

theorem fetch_unlost {transcoder after : Transcoder} {pipeline : Pipeline} (going : session.isOver = false)
    (running : session.emitted = none) (mode : session.emitter = .transcoding transcoder)
    (moved : transcoder.Fetches emitterHandle session.pipeline after pipeline) :
    session.loss (session.afterLeg after pipeline) = [] := by
  have before := outlet_transcoding going running mode
  have idle (unbegun : (transcoder.writer?.map Writer.begun).getD [] = []) :
      session.loss (session.afterLeg after pipeline) = [] :=
    Outlet.loss_of_idle (by rw [before]; exact unbegun) _
  cases moved with
  | answered fetcher | refused _ fetcher | skip _ _ _ fetcher | receive _ _ _ _ fetcher | broken _ _ _ fetcher
  | finish _ fetcher | wrote fetcher | unwritten _ fetcher =>
    exact idle (by simp [Transcoder.writer?, fetcher, Writer.begun])
  | write writer after sink writing =>
    refine session.outlet.loss_of_emitting ?_
    rw [before, outlet_afterLeg going running, writing]
    rfl

theorem Step.unlost (step : session.Step action next) (coherent : session.Coherent)
    (other : action ≠ .abort /\ action ≠ .leave) : session.loss next = [] := by
  cases step with
  | abort => exact absurd rfl other.1
  | leave => exact absurd rfl other.2
  | emit emitter _ going mode moved => exact moved.unlost coherent going mode
  | feed transcoder after pipeline going mode _ running moved =>
    refine session.outlet.loss_of_emitting ?_
    rw [outlet_transcoding going running mode, outlet_afterLeg going running, (feeds_fetcher moved).1]
  | fetch transcoder after pipeline going mode _ running moved => exact fetch_unlost going running mode moved
  | join _ _ emitted =>
    exact Outlet.loss_of_settled (by simp [Session.outlet, isEmitting, Option.isSome_iff_ne_none.1 emitted]) _
  | forward _ _ moved =>
    refine session.outlet.loss_of_emitting ?_
    cases moved <;> rfl
  | onCall action transcoder call mode =>
    refine session.outlet.loss_of_emitting ?_
    simp only [Session.outlet, isEmitting, mode]
  | deliver | endStream | receiveHead | receiveFault | takeChunk | takeText | disconnect =>
    exact session.outlet.loss_of_emitting rfl

theorem Step.keepsEmitted (step : session.Step action next) (coherent : session.Coherent)
    (returned : session.emitted.isSome = true) : next.emitted = session.emitted := by
  have runs {holds : Prop} (running : session.emitted = none) : holds := by
    rw [running] at returned
    cases returned
  cases step with
  | forward _ _ moved => exact moved.emitter.2
  | emit emitter _ _ mode moved => exact runs ((coherent emitter mode).trans moved.unfinished)
  | feed _ _ _ _ _ _ running | fetch _ _ _ _ _ _ running | abort _ _ _ _ running => exact runs running
  | leave => exact session.cutShort_ended.emitted.trans session.emptied_dropped.emitted
  | join | deliver | endStream | onCall | receiveHead | receiveFault | takeChunk | takeText | disconnect => rfl

variable {emitter : Emitter}

theorem unaborted_of_running (fresh : emitter.Fresh) (run : Run (start emitter) actions session)
    (running : session.emitted = none) : .abort ∉ actions := by
  have aborts : .abort ∈ actions -> session.emitted.isSome = true := by
    refine run.keeps (fun done session => .abort ∈ done -> session.emitted.isSome = true) (by simp) ?_
    intro actions session action next run before possible aborted
    have step := step_of_act possible
    rcases List.mem_append.1 aborted with earlier | now
    next =>
      have returned := before earlier
      rwa [step.keepsEmitted (answered_of_run fresh run).1 returned]
    next =>
      cases List.mem_singleton.1 now
      cases step
      rfl
  intro aborted
  have returned := aborts aborted
  rw [running] at returned
  cases returned

theorem unlost_of_settled (fresh : emitter.Fresh) {before after : List Action}
    (run : Run (start emitter) before session) (settled : session.outlet.emitting = false)
    (later : Run session after last) : last.outlet.emitting = false /\ chunksLost session after = [] := by
  refine later.keeps (fun done last => last.outlet.emitting = false /\ chunksLost session done = [])
    ⟨settled, rfl⟩ ?_
  rintro done middle action next reached ⟨settled, unlost⟩ possible
  obtain ⟨coherent, -⟩ := answered_of_run fresh (run.append reached)
  refine ⟨((step_of_act possible).outlet coherent).settled settled, ?_⟩
  rw [chunksLost, trace_snoc loss reached.reached possible, <- chunksLost, unlost, List.nil_append]
  exact Outlet.loss_of_settled settled _

theorem unlost_of_unaborted (fresh : emitter.Fresh) (run : Run (start emitter) actions session)
    (stays : .disconnect ∉ actions) (unaborted : .abort ∉ actions) : chunksLost (start emitter) actions = [] := by
  refine run.keeps (fun done _ => .disconnect ∉ done -> .abort ∉ done -> chunksLost (start emitter) done = [])
    (fun _ _ => rfl) ?_ stays unaborted
  intro actions session action next run before possible stays unaborted
  simp only [List.mem_append, List.mem_singleton, not_or] at stays unaborted
  obtain ⟨coherent, answered⟩ := answered_of_run fresh run
  rw [chunksLost, trace_snoc loss run.reached possible, <- chunksLost, before stays.1 unaborted.1, List.nil_append]
  by_cases leaves : action = .leave
  next =>
    subst leaves
    cases step_of_act possible with
    | leave _ closed =>
      -- The body was given up for the text of a fault, and with a fault decided no write has begun.
      rcases (answered.refusing closed).2 with gone | ⟨rest, answer⟩
      next => exact absurd gone (present_of_run run stays.1)
      next =>
        have told := answered.told
        rw [answer] at told
        obtain ⟨-, -, -, unbegun⟩ := answered.failure _ _ told.of_message
        exact Outlet.loss_of_idle (Outlet.begun_of_unbegun unbegun) _
  next => exact (step_of_act possible).unlost coherent ⟨fun aborts => unaborted.2 aborts.symm, leaves⟩

theorem lost_of_abort {early late : List Action} (fresh : emitter.Fresh) (run : Run (start emitter) early session)
    (stays : .disconnect ∉ early) (aborted : session.act .abort = some next) (later : Run next late last) :
    chunksLost (start emitter) (early ++ .abort :: late) = session.outlet.begun := by
  obtain ⟨coherent, answered⟩ := answered_of_run fresh run
  have balanced := balanced_of_run fresh run
  obtain ⟨running, settled⟩ : session.emitted = none /\ next.outlet.emitting = false := by
    cases step_of_act aborted with
    | abort transcoder going mode _ running => exact ⟨running, by simp [outlet, isEmitting, abortEmitter]⟩
  have before : chunksLost (start emitter) early = [] :=
    unlost_of_unaborted fresh run stays (unaborted_of_running fresh run running)
  have after : chunksLost next late = [] :=
    (unlost_of_settled fresh (run.append (.act aborted (.done next))) settled later).2
  have now : session.loss next = session.outlet.begun := by
    cases emitting : session.outlet.emitting with
    | true => simp [loss, Outlet.loss, emitting, settled]
    | false => rw [balanced.idle emitting]; exact Outlet.loss_of_settled emitting _
  have split : chunksLost (start emitter) (early ++ .abort :: late) =
      chunksLost (start emitter) early ++ (session.loss next ++ chunksLost next late) := by
    rw [chunksLost, trace_append loss run.reached]
    simp only [trace, aborted]
  rw [split, before, now, after, List.nil_append, List.append_nil]

theorem past_of_over (fresh : emitter.Fresh) {before after : List Action} (run : Run (start emitter) before session)
    (through : session.isOver = true) (later : Run session after last) :
    last.sink.head = session.sink.head /\ last.sink.written = session.sink.written /\
      chunksLost session after = [] := by
  have settled : session.outlet.emitting = false := (answered_of_run fresh run).2.settled through
  have kept : last.isOver = true /\ last.sink.head = session.sink.head /\ last.sink.written = session.sink.written := by
    refine later.keeps (fun _ last => last.isOver = true /\ last.sink.head = session.sink.head /\
      last.sink.written = session.sink.written) ⟨through, rfl, rfl⟩ ?_
    rintro done middle action next reached ⟨through, head, written⟩ possible
    obtain ⟨coherent, -⟩ := answered_of_run fresh (run.append reached)
    obtain ⟨still, sameHead, sameCount⟩ := ((step_of_act possible).outlet coherent).past through
      (unlost_of_settled fresh run settled reached).1
    exact ⟨still, sameHead.trans head, sameCount.trans written⟩
  exact ⟨kept.2.1, kept.2.2, (unlost_of_settled fresh run settled later).2⟩

theorem unaborted_of_passthrough (run : Run passthrough actions session) : .abort ∉ actions := by
  refine run.keeps (fun done _ => .abort ∉ done) (by simp) ?_
  intro actions session action next run unaborted possible aborted
  rcases List.mem_append.1 aborted with earlier | now
  next => exact unaborted earlier
  next =>
    cases List.mem_singleton.1 now
    obtain ⟨stored, copied⟩ := copied_of_run run
    cases step_of_act possible with
    | abort transcoder _ mode => cases copied.mode.symm.trans mode

/-- What the count of bytes at the end of a session says of a client that reads on to the end: a stream adds up to the
count, but for the chunk of a write that an abort has found under way; the text of a fault stands against no byte at
all. The write of a passthrough session is never given up. -/
theorem count_of_read_response {before after : List Action} {ended : Session} (fresh : emitter.Fresh)
    (run : Run (start emitter) before ended) (through : ended.isOver = true) (later : Run ended after last)
    (stays : .disconnect ∉ before ++ after) (finished : last.reader.read last.sink = some .finished) :
    ((exists headers, ended.sink.head = some (.stream headers)) /\ ended.sink.written =
          .ofNat (byteCount (framesTaken (before ++ after)) + byteCount (chunksLost (start emitter) before)) \/
        ended.sink.head = some (.failed 500 internalFaultText) /\ framesTaken (before ++ after) = [faultText] /\
          ended.sink.written = 0) /\
      (.abort ∉ before -> chunksLost (start emitter) before = []) /\
      (forall early late middle, before = early ++ .abort :: late -> Run (start emitter) early middle ->
        chunksLost (start emitter) before = middle.outlet.begun) /\
      (emitter = .passthrough .start -> .abort ∉ before) := by
  have stayed : .disconnect ∉ before := fun left => stays (List.mem_append_left after left)
  obtain ⟨head, written, unlost⟩ := past_of_over fresh run through later
  have accounts := accounts_of_run fresh (run.append later)
  have balanced := balanced_of_run fresh (run.append later)
  obtain ⟨-, answered⟩ := answered_of_run fresh (run.append later)
  have settled : last.outlet.emitting = false :=
    (unlost_of_settled fresh run ((answered_of_run fresh run).2.settled through) later).1
  have counted : ended.sink.written = .ofNat (byteCount (chunksAccepted (start emitter) (before ++ after))) :=
    written.symm.trans accounts.bytes
  refine ⟨?_, unlost_of_unaborted fresh run stayed, ?_, ?_⟩
  next =>
    rcases answered.ending finished with ⟨streamed, taken, unclosed⟩ | ⟨failed, taken⟩
    next =>
      have lost : chunksLost (start emitter) (before ++ after) = chunksLost (start emitter) before := by
        have split := trace_append loss run.reached after
        rw [show trace act loss ended after = [] from unlost, List.append_nil] at split
        exact split
      have whole := balanced.whole unclosed
      rw [balanced.idle settled, List.append_nil, lost, <- taken] at whole
      refine .inl ⟨head ▸ streamed, ?_⟩
      rw [counted, whole, byteCount_append]
    next =>
      refine .inr ⟨head ▸ failed, taken, ?_⟩
      have ruled := accounts.ruled
      rw [failed] at ruled
      rw [counted]
      generalize last.outlet.sink.commit = commit at ruled
      cases ruled with
      | undecided _ unaccepted | faulted _ _ unaccepted => rw [unaccepted]; rfl
  next =>
    rintro early late middle rfl reached
    have follows := run.reached
    rw [follow_append, reached.reached, Option.bind_some] at follows
    obtain ⟨next, aborted, rest⟩ := Option.bind_eq_some_iff.1 follows
    exact lost_of_abort fresh reached (fun left => stayed (List.mem_append_left _ left)) aborted (run_of_follow rest)
  next =>
    rintro rfl
    exact unaborted_of_passthrough run

theorem clip_second_lost : exists ended, Run (transcoding smallPreset) (clipFailing ++ clipDropped) ended /\
    ended.sink.written = .ofNat (byteCount [[9]] + byteCount [[8]]) := by
  obtain ⟨ended, reached, through, finished, streaming⟩ : exists ended,
      follow act (transcoding smallPreset) (clipFailing ++ clipDropped) = some ended /\ ended.isOver = true /\
        ended.reader.read ended.sink = some .finished /\ ended.sink.head = some (.stream transcodedHeaders) :=
    ⟨_, rfl, rfl, rfl, rfl⟩
  have run := run_of_follow reached
  obtain ⟨counted, -⟩ := count_of_read_response (.transcoding smallPreset) run through (.done ended)
    (by simp [clipFailing, clipDropped]) finished
  rcases counted with ⟨-, counted⟩ | ⟨failed, -⟩
  next => exact ⟨ended, run, counted⟩
  next => rw [streaming] at failed; cases failed

theorem waiting_chunk_counted : exists ended, Run (transcoding smallPreset) (clipFailing ++ clipDropped) ended /\
    ended.isOver = true /\ .disconnect ∉ clipFailing ++ clipDropped /\
      ended.reader.read ended.sink = some .finished /\
      headsReceived (clipFailing ++ clipDropped) = [{ status := 200, headers := transcodedHeaders }] /\
      framesTaken (clipFailing ++ clipDropped) = [[9]] /\ ended.sink.written ≠ .ofNat (byteCount [[9]]) := by
  obtain ⟨ended, reached, through, finished, counted⟩ : exists ended,
      follow act (transcoding smallPreset) (clipFailing ++ clipDropped) = some ended /\ ended.isOver = true /\
        ended.reader.read ended.sink = some .finished /\ ended.sink.written = 2 :=
    ⟨_, rfl, rfl, rfl, rfl⟩
  refine ⟨ended, run_of_follow reached, through, by simp [clipFailing, clipDropped], finished, rfl, rfl, ?_⟩
  rw [counted]
  decide

end Session

end VideoRelay
