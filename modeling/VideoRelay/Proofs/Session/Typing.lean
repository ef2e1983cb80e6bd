import VideoRelay.Proofs.Session.Fetching

set_option autoImplicit false

namespace VideoRelay

open Wire

def transcodedHeaders : Headers :=
  ({} : Headers).insert contentType transcodedType

def Fetcher.isPastHead : Fetcher -> Bool
  | reading typed => typed
  | writing (.starting _) | calling | finished _ => false
  | writing _ => true

namespace Session

structure Typing (heads : List ResponseHead) (session : Session) (transcoder : Transcoder) : Prop where
  mode : session.emitter = .transcoding transcoder
  begun : transcoder.fetcher.isPastHead = true -> session.sink.commit ≠ .pending
  fields : session.isOver = false -> session.sink.commit = .pending ->
    transcoder.fetcher.taken = [] /\ session.sink.headers = {} \/
      transcoder.fetcher.taken ≠ [] /\ session.sink.headers = transcodedHeaders /\ session.emitted = none
  streamed : forall headers, session.sink.head = some (.stream headers) ->
    session.sink.commit ≠ .pending /\ headers = transcodedHeaders \/
      session.sink.commit = .pending /\ (headers = {} \/ session.reader = .gone /\ heads = [])
  failed : forall status text, session.sink.head = some (.failed status text) -> session.sink.commit = .failed
  received : forall head, head ∈ heads -> exists decided, session.sink.head = some decided /\ decided.response = head

namespace Typing

variable {heads : List ResponseHead} {session next : Session} {transcoder after : Transcoder}

theorem keep (before : Typing heads session transcoder) (mode : next.emitter = .transcoding after)
    (commit : next.sink.commit = session.sink.commit) (headers : next.sink.headers = session.sink.headers)
    (head : next.sink.head = session.sink.head) (going : next.isOver = session.isOver)
    (gone : session.reader = .gone -> next.reader = .gone)
    (begun : after.fetcher.isPastHead = true -> session.sink.commit ≠ .pending)
    (taken : session.sink.commit = .pending -> after.fetcher.taken = transcoder.fetcher.taken)
    (emitted : after.fetcher.taken ≠ [] -> next.emitted = session.emitted) : Typing heads next after := by
  refine ⟨mode, by rw [commit]; exact begun, ?_, ?_, ?_, ?_⟩
  next =>
    rw [commit, headers, going]
    intro going pending
    have taken := taken pending
    rcases before.fields going pending with idle | ⟨holding, typed, running⟩
    next => exact .inl (by rw [taken]; exact idle)
    next => exact .inr ⟨by rw [taken]; exact holding, typed, (emitted (by rw [taken]; exact holding)).trans running⟩
  next =>
    rw [commit, head]
    intro fields decided
    exact (before.streamed fields decided).imp_right
      (And.imp_right (Or.imp_right (And.imp_left gone)))
  next => rw [commit, head]; exact before.failed
  next => rw [head]; exact before.received

theorem fail (before : Typing heads session transcoder) {sink : Sink} (mode : next.emitter = .transcoding after)
    (commit : sink.commit = session.sink.commit) (head : sink.head = session.sink.head)
    (undecided : session.sink.commit = .pending -> session.sink.head = none)
    (failed : next.sink = sink.failInternal.2) : Typing heads next after := by
  have told : next.sink.commit = .failed := by rw [failed]; simp
  have decision : next.sink.head = if session.sink.commit = .pending then some (.failed 500 internalFaultText)
      else session.sink.head := by
    rw [failed, Sink.failInternal_head, commit, head]
    split
    next pending => rw [undecided pending]; rfl
    next => rfl
  have committed : next.sink.commit ≠ .pending := by rw [told]; decide
  refine ⟨mode, fun _ => committed, fun _ pending => absurd pending committed, ?_, fun _ _ _ => told, ?_⟩
  next =>
    rw [decision]
    intro headers decided
    split at decided
    next => cases decided
    next streaming =>
      rcases before.streamed headers decided with ⟨-, typed⟩ | ⟨pending, -⟩
      next => exact .inl ⟨committed, typed⟩
      next => exact absurd pending streaming
  next =>
    intro got among
    obtain ⟨decided, known, same⟩ := before.received got among
    refine ⟨decided, ?_, same⟩
    rw [decision, if_neg fun pending => ?_]
    next => exact known
    next => rw [undecided pending] at known; cases known

theorem release (before : Typing heads session transcoder) (mode : next.emitter = .transcoding after)
    (fetcher : after.fetcher = transcoder.fetcher) (released : session.sink.Released next.sink)
    (reader : next.reader = session.reader)
    (undecided : session.sink.commit = .pending -> session.sink.head = none) (going : session.isOver = false)
    (ceased : session.sink.commit = .pending -> next.isOver = true)
    (left : session.sink.commit = .pending -> session.emitted = none -> session.reader = .gone) :
    Typing heads next after := by
  -- Where the last handle is what decides the head, the client has not got one yet.
  have unheard (pending : session.sink.commit = .pending) : heads = [] := by
    refine List.eq_nil_iff_forall_not_mem.2 fun head among => ?_
    obtain ⟨decided, known, -⟩ := before.received head among
    rw [undecided pending] at known
    cases known
  refine ⟨mode, ?_, ?_, ?_, ?_, ?_⟩
  next => rw [fetcher, released.commit]; exact before.begun
  next =>
    rw [released.commit]
    intro still pending
    cases (ceased pending).symm.trans still
  next =>
    rw [released.commit, reader]
    intro headers decided
    rcases released.head with same | ⟨pending, later⟩
    next => exact before.streamed headers (same.symm.trans decided)
    next =>
      rw [later, undecided pending] at decided
      cases decided
      rcases before.fields going pending with ⟨-, untyped⟩ | ⟨-, -, running⟩
      next => exact .inr ⟨pending, .inl untyped⟩
      next => exact .inr ⟨pending, .inr ⟨left pending running, unheard pending⟩⟩
  next =>
    rw [released.commit]
    intro status text decided
    rcases released.head with same | ⟨pending, later⟩
    next => exact before.failed status text (same.symm.trans decided)
    next => rw [later, undecided pending] at decided; cases decided
  next =>
    intro got among
    rcases released.head with same | ⟨pending, -⟩
    next => rw [same]; exact before.received got among
    next => rw [unheard pending] at among; cases among

theorem leg (before : Typing heads session transcoder) {pipeline : Pipeline}
    (undecided : session.sink.commit = .pending -> session.sink.head = none)
    (commit : pipeline.sink.commit = session.sink.commit) (headers : pipeline.sink.headers = session.sink.headers)
    (head : pipeline.sink.head = session.sink.head)
    (begun : after.fetcher.isPastHead = true -> session.sink.commit ≠ .pending)
    (taken : session.sink.commit = .pending -> after.fetcher.taken = transcoder.fetcher.taken) :
    Typing heads (session.afterLeg after pipeline) after := by
  have mode : (session.afterLeg after pipeline).emitter = .transcoding after := afterLeg_emitter _ _ _
  unfold afterLeg at mode ⊢
  split at mode
  next unfinished => exact before.keep mode commit headers head rfl id begun taken fun _ => rfl
  next outcome through =>
    cases outcome with
    | error fault => exact before.fail mode commit head undecided rfl
    | ok _ =>
      -- Both legs are over, so that no payload is left in the hands of the fetcher.
      refine before.keep mode commit headers head rfl id begun taken fun holding => absurd ?_ holding
      unfold Transcoder.outcome? at through
      cases fetcher : after.fetcher <;> simp [fetcher, Fetcher.outcome?, Fetcher.taken] at through ⊢

theorem finishFetcher (before : Typing heads session transcoder)
    (undecided : session.sink.commit = .pending -> session.sink.head = none)
    (shared : session.sink.body.senders = 2) (idle : session.sink.commit = .pending -> transcoder.fetcher.taken = [])
    (left : Transcoder) (outcome : Except Fault Unit) :
    Typing heads (session.afterLeg (left.finishFetcher emitterHandle session.pipeline outcome).1
      (left.finishFetcher emitterHandle session.pipeline outcome).2)
      (left.finishFetcher emitterHandle session.pipeline outcome).1 := by
  have released : session.sink.Released
      { session.sink with body := session.sink.body.withdraw emitterHandle }.dropHandle :=
    (Sink.Released.withdraw emitterHandle).trans .dropHandle
  refine before.leg undecided released.commit released.headers ?_ (fun past => (by cases past))
    fun pending => (idle pending).symm
  exact Sink.dropHandle_head_of_shared _ ((Channel.withdraw_senders _ _).trans shared)

theorem fetch (before : Typing heads session transcoder) {pipeline : Pipeline} (going : session.isOver = false)
    (running : session.emitted = none)
    (undecided : session.sink.commit = .pending -> session.sink.head = none)
    (shared : transcoder.fetcher.outcome? = none -> session.sink.body.senders = 2)
    (moved : transcoder.Fetches emitterHandle session.pipeline after pipeline) :
    Typing heads (session.afterLeg after pipeline) after := by
  cases moved with
  | answered calling =>
    refine before.leg undecided rfl rfl rfl (fun past => (by cases past)) fun _ => ?_
    rw [calling]
    rfl
  | refused _ calling =>
    refine before.finishFetcher undecided (shared ?_) (fun _ => ?_) _ _ <;> rw [calling] <;> rfl
  | broken _ _ _ reading | finish _ reading =>
    refine before.finishFetcher undecided (shared ?_) (fun _ => ?_) _ _ <;> rw [reading] <;> rfl
  | unwritten _ writing =>
    refine before.finishFetcher undecided (shared ?_) (fun _ => ?_) _ _ <;> rw [writing] <;> rfl
  | skip typed reply rest reading =>
    exact before.leg undecided rfl rfl rfl before.begun fun _ => rfl
  | wrote writing =>
    have committed := before.begun (by rw [writing]; rfl)
    exact before.leg undecided rfl rfl rfl (fun _ => committed) fun pending => absurd pending committed
  | receive typed reply rest datagram reading =>
    obtain ⟨headers, sink, settable⟩ : exists headers,
        (if typed then session.sink else (session.sink.setHeader contentType transcodedType).2) =
          { session.sink with headers } /\
        (session.isOver = false -> session.sink.commit = .pending -> headers = transcodedHeaders) := by
      cases typed with
      | true =>
        have committed := before.begun (by rw [reading]; rfl)
        exact ⟨session.sink.headers, rfl, fun _ pending => absurd pending committed⟩
      | false =>
        cases committed : session.sink.isCommitted with
        | true =>
          refine ⟨session.sink.headers, by simp [Sink.setHeader, committed], fun _ pending => ?_⟩
          cases committed.symm.trans (session.sink.isCommitted_eq_false_iff.2 pending)
        | false =>
          refine ⟨session.sink.headers.insert contentType transcodedType, by simp [Sink.setHeader, committed],
            fun going pending => ?_⟩
          rcases before.fields going pending with ⟨-, untyped⟩ | ⟨holding, -⟩
          next => rw [untyped]; rfl
          next => rw [reading] at holding; exact absurd rfl holding
    rw [show session.pipeline.sink = session.sink from rfl, sink]
    refine ⟨afterLeg_emitter _ _ _, fun past => (by cases past), fun going pending => ?_, before.streamed,
      before.failed, before.received⟩
    exact .inr ⟨List.cons_ne_nil _ _, settable going pending, running⟩
  | write writer later sink writing moved =>
    have past (chunk : Bytes) (offered : writer = .offering chunk \/ writer = .waiting chunk) :
        session.sink.commit ≠ .pending :=
      before.begun (by rcases offered with rfl | rfl <;> rw [writing] <;> rfl)
    cases moved with
    | count chunk _ accepts =>
      have accepts : session.sink.beginWrite chunk = .ok sink := accepts
      obtain ⟨commit, decision⟩ := Sink.beginWrite_cases accepts
      have committed : sink.commit ≠ .pending := by rw [commit]; decide
      refine ⟨afterLeg_emitter _ _ _, fun _ => committed, fun _ pending => absurd pending committed,
        fun headers decided => .inl ⟨committed, ?_⟩, fun status text decided => ?_, fun got among => ?_⟩
      next =>
        rcases decision with ⟨streaming, same⟩ | ⟨pending, first⟩
        next =>
          rcases before.streamed headers (same.symm.trans decided) with ⟨-, typed⟩ | ⟨pending, -⟩
          next => exact typed
          next => cases streaming.symm.trans pending
        next =>
          -- The head is decided here, with the type that was set when the payload was taken.
          rw [show sink.head = some (.stream headers) from decided, undecided pending] at first
          cases first
          rcases before.fields going pending with ⟨idle, -⟩ | ⟨-, typed, -⟩
          next => rw [writing] at idle; cases idle
          next => exact typed
      next =>
        rcases decision with ⟨streaming, same⟩ | ⟨pending, first⟩
        next => cases streaming.symm.trans (before.failed status text (same.symm.trans decided))
        next =>
          rw [show sink.head = some (.failed status text) from decided, undecided pending] at first
          cases first
      next =>
        obtain ⟨known, decided, same⟩ := before.received got among
        rcases decision with ⟨-, still⟩ | ⟨pending, -⟩
        next => exact ⟨known, still.trans decided, same⟩
        next => rw [undecided pending] at decided; cases decided
    | refuse chunk failed =>
      have committed : session.sink.commit ≠ .pending := by rw [show session.sink.commit = .failed from failed]; decide
      exact before.leg undecided rfl rfl rfl (fun _ => committed) fun pending => absurd pending committed
    | put _ chunk offered | queue _ chunk offered | abandon _ chunk offered =>
      have committed := past chunk offered
      exact before.leg undecided rfl rfl rfl (fun _ => committed) fun pending => absurd pending committed

theorem receive (before : Typing heads session transcoder) {head : Head} (mode : next.emitter = .transcoding transcoder)
    (commit : next.sink.commit = session.sink.commit) (headers : next.sink.headers = session.sink.headers)
    (same : next.sink.head = session.sink.head) (going : next.isOver = session.isOver)
    (emitted : next.emitted = session.emitted) (asked : session.reader = .asked)
    (decided : session.sink.head = some head) : Typing (heads ++ [head.response]) next transcoder := by
  have present : session.reader ≠ .gone := by rw [asked]; decide
  have kept : Typing heads next transcoder :=
    before.keep mode commit headers same going (fun gone => absurd gone present) before.begun (fun _ => rfl)
      fun _ => emitted
  refine ⟨mode, kept.begun, kept.fields, fun fields stream => ?_, kept.failed, fun got among => ?_⟩
  next =>
    rw [commit]
    rcases before.streamed fields (same.symm.trans stream) with typed | ⟨pending, untyped | ⟨gone, -⟩⟩
    next => exact .inl typed
    next => exact .inr ⟨pending, .inl untyped⟩
    next => exact absurd gone present
  next =>
    rcases List.mem_append.1 among with earlier | now
    next => exact kept.received got earlier
    next => exact ⟨head, same.trans decided, (List.mem_singleton.1 now).symm⟩

theorem act {written frames : List Bytes} {action : Action}
    (before : Typing heads session transcoder) (step : session.Step action next)
    (answered : session.outlet.Answered written heads frames) (reported : Reported session) :
    exists after, Typing (heads ++ headsReceived [action]) next after := by
  have quiet (after : Transcoder) (silent : headsReceived [action] = []) (typing : Typing heads next after) :
      exists after, Typing (heads ++ headsReceived [action]) next after :=
    ⟨after, by rw [silent, List.append_nil]; exact typing⟩
  have undecided (going : session.isOver = false) (pending : session.sink.commit = .pending) :
      session.sink.head = none := (answered.pending pending).2.2 going
  have dropped := transcoder.drop_fetcher emitterHandle session.pipeline
  cases step with
  | forward _ going moved =>
    refine quiet transcoder rfl ?_
    have mode := moved.emitter.1.trans before.mode
    cases moved with
    | refuse => exact before.fail mode rfl rfl (undecided going) rfl
    | header | datagram | put | queue | abandon | finish =>
      exact before.keep mode rfl rfl rfl rfl id before.begun (fun _ => rfl) fun _ => rfl
  | emit _ _ _ mode => cases before.mode.symm.trans mode
  | feed earlier after pipeline going mode _ running moved =>
    cases before.mode.symm.trans mode
    obtain ⟨fetcher, sink⟩ := feeds_fetcher moved
    refine quiet after rfl (before.leg (undecided going) ?_ ?_ ?_ ?_ ?_)
    next => rw [sink]; rfl
    next => rw [sink]; rfl
    next => rw [sink]; rfl
    next => rw [fetcher]; exact before.begun
    next => rw [fetcher]; exact fun _ => rfl
  | fetch earlier after pipeline going mode _ running moved =>
    cases before.mode.symm.trans mode
    refine quiet after rfl (before.fetch going running (undecided going) (fun unfinished => ?_) moved)
    have senders := answered.senders going
    rw [outlet_transcoding going running mode, unfinished] at senders
    exact senders
  | abort earlier going mode aborted =>
    -- What is aborted has failed, so that nothing is left to decide.
    have committed : session.sink.commit ≠ .pending := by
      obtain ⟨fault, failed⟩ := reported.aborted aborted
      rw [reported.failed.2 ⟨fault, .inl failed⟩]
      decide
    exact quiet _ rfl (before.release (dropEmitter_transcoder before.mode) dropped.1 session.dropEmitter_dropped.sink
      session.dropEmitter_dropped.reader (undecided going) going (fun pending => absurd pending committed)
      fun pending => absurd pending committed)
  | join going _ emitted =>
    refine quiet transcoder rfl (before.release before.mode rfl .dropHandle rfl (undecided going) going (fun _ => rfl)
      fun _ running => ?_)
    rw [running] at emitted
    cases emitted
  | leave going closed =>
    have reader : session.cutShort.reader = session.reader :=
      session.cutShort_ended.reader.trans session.emptied_dropped.reader
    have left (pending : session.sink.commit = .pending) : session.reader = .gone := by
      rcases (answered.refusing closed).2 with gone | ⟨rest, answer⟩
      next => exact gone
      next =>
        have told := answered.told
        rw [answer, show session.outlet.sink.head = none from undecided going pending] at told
        cases told.of_message
    have cut := cutShort_transcoder before.mode
    split at cut
    next =>
      exact quiet transcoder rfl (before.release cut rfl session.cutShort_released reader (undecided going) going
        (fun _ => rfl) fun pending _ => left pending)
    next =>
      exact quiet _ rfl (before.release cut dropped.1 session.cutShort_released reader (undecided going) going
        (fun _ => rfl) fun pending _ => left pending)
  | onCall _ earlier call mode =>
    cases before.mode.symm.trans mode
    exact quiet { transcoder with call } rfl
      (before.keep rfl rfl rfl rfl rfl id before.begun (fun _ => rfl) fun _ => rfl)
  | receiveHead headers asked decided =>
    refine ⟨transcoder, ?_⟩
    show Typing (heads ++ [(Head.stream headers).response]) _ transcoder
    exact before.receive before.mode rfl rfl rfl rfl rfl asked decided
  | receiveFault status text asked decided =>
    refine ⟨transcoder, ?_⟩
    show Typing (heads ++ [(Head.failed status text).response]) _ transcoder
    exact before.receive before.mode rfl rfl rfl rfl rfl asked decided
  | takeChunk _ streaming | takeText _ streaming =>
    refine quiet transcoder rfl (before.keep before.mode rfl rfl rfl rfl (fun gone => ?_) before.begun (fun _ => rfl)
      fun _ => rfl)
    cases streaming.symm.trans gone
  | deliver | endStream | disconnect =>
    exact quiet transcoder rfl (before.keep before.mode rfl rfl rfl rfl (by simp [withSink]) before.begun (fun _ => rfl)
      fun _ => rfl)

end Typing

theorem typing_of_run {preset : Preset} {session : Session} {actions : List Action}
    (run : Run (transcoding preset) actions session) :
    exists transcoder, Typing (headsReceived actions) session transcoder := by
  refine run.keeps (fun done session => exists transcoder, Typing (headsReceived done) session transcoder)
    ⟨{ preset }, rfl, fun past => (by cases past), fun _ _ => .inl ⟨rfl, rfl⟩, fun _ decided => (by cases decided),
      fun _ _ decided => (by cases decided), fun _ among => (by cases among)⟩ ?_
  rintro actions session action next run ⟨transcoder, before⟩ possible
  obtain ⟨-, answered⟩ := answered_of_run (.transcoding preset) run
  rw [headsReceived_append]
  exact before.act (step_of_act possible) answered (reported_of_run (.transcoding preset) run)

end Session

end VideoRelay
