import VideoRelay.Proofs.Session.Accounting
import VideoRelay.Proofs.Session.Feeding
import VideoRelay.Proofs.Session.Fetching

set_option autoImplicit false

namespace VideoRelay

open Wire

namespace Channel

variable {A : Type} {channel next : Channel A}

def departure (before after : Channel A) : List A :=
  if after.receiving && after.place.isNone then before.place.toList else []

def stock (counted : A -> Bool) (channel : Channel A) : Nat :=
  if channel.receiving then channel.place.toList.countP counted else 1

variable (counted : A -> Bool)

theorem stock_le_one (channel : Channel A) : channel.stock counted <= 1 := by
  unfold stock
  split
  next => exact Nat.le_trans List.countP_le_length (by cases channel.place <;> simp)
  next => exact Nat.le_refl _

theorem stock_of_closed (closed : channel.receiving = false) : channel.stock counted = 1 := by
  simp [stock, closed]

theorem stock_of_empty (unclosed : channel.receiving = true) (empty : channel.place = none) :
    channel.stock counted = 0 := by
  simp [stock, unclosed, empty]

theorem stock_of_same (place : next.place = channel.place) (receiving : next.receiving = channel.receiving) :
    next.stock counted = channel.stock counted := by
  simp only [stock, place, receiving]

theorem departure_le_one (before after : Channel A) : (before.departure after).length <= 1 := by
  unfold departure
  split
  next => cases before.place <;> simp
  next => exact Nat.zero_le _

theorem departure_of_same (same : next.place = channel.place) : channel.departure next = [] := by
  unfold departure
  cases place : channel.place <;> simp [same, place]

theorem departure_of_unclosed (same : next.receiving = true -> next.place = channel.place) :
    channel.departure next = [] := by
  cases receiving : next.receiving with
  | true => exact departure_of_same (same receiving)
  | false => simp [departure, receiving]

theorem Drained.stock (drained : channel.Drained next) :
    channel.stock counted <= next.stock counted + (channel.departure next).countP counted := by
  cases drained with
  | same => exact Nat.le_add_right _ _
  | taken senders =>
    cases receiving : channel.receiving with
    | true => simp [Channel.stock, departure, Channel.taken, receiving]
    | false => simp [Channel.stock, Channel.taken, receiving]
  -- What is lost by closing counts as kept.
  | closed refusing =>
    rw [stock_of_closed counted refusing]
    exact Nat.le_trans (channel.stock_le_one counted) (Nat.le_add_right _ _)

end Channel

def Wire.UploadRequest.isDatagram {H : Type} : UploadRequest H -> Bool
  | datagram _ => true
  | empty | header _ => false

def ForwardPhase.stock : ForwardPhase -> Nat
  | reading => 0
  | sending _ | waiting _ | finished _ => 1

def FeedPhase.stock : FeedPhase -> Nat
  | reading => 0
  | sending _ _ | waiting _ _ | finished _ => 1

def FeedPhase.Carries : FeedPhase -> Prop
  | sending request none | waiting request none => request.isDatagram = true
  | sending _ (some _) | waiting _ (some _) | reading | finished _ => True

def Writer.stock : Writer -> Nat
  | finished (.ok _) => 0
  | starting _ | offering _ | waiting _ | finished (.error _) => 1

theorem Writer.stock_le_one (writer : Writer) : writer.stock <= 1 := by
  cases writer with
  | starting | offering | waiting => exact Nat.le_refl _
  | finished outcome =>
    cases outcome with
    | ok _ => exact Nat.zero_le _
    | error _ => exact Nat.le_refl _

theorem ForwardPhase.stock_le_one (phase : ForwardPhase) : phase.stock <= 1 := by
  cases phase with
  | reading => exact Nat.zero_le _
  | sending | waiting | finished => exact Nat.le_refl _

theorem FeedPhase.stock_le_one (phase : FeedPhase) : phase.stock <= 1 := by
  cases phase with
  | reading => exact Nat.zero_le _
  | sending | waiting | finished => exact Nat.le_refl _

namespace Outlet

def intake (before after : Outlet) : List Bytes :=
  match before.writer, after.writer with
  | none, some (.starting chunk) => [chunk]
  | _, _ => []

def stock (outlet : Outlet) : Nat :=
  if outlet.emitting then (outlet.writer.map Writer.stock).getD 0 else 1

theorem intake_of_same {before after : Outlet} (same : after.writer = before.writer) : before.intake after = [] := by
  unfold intake
  rw [same]
  cases before.writer <;> rfl

theorem intake_of_idle {before after : Outlet} (idle : after.writer = none) : before.intake after = [] := by
  unfold intake
  rw [idle]
  cases before.writer <;> rfl

theorem stock_le_one (outlet : Outlet) : outlet.stock <= 1 := by
  unfold stock
  split
  next =>
    cases outlet.writer with
    | none => exact Nat.zero_le _
    | some writer => exact writer.stock_le_one
  next => exact Nat.le_refl _

def Passes (before after : Outlet) : Prop :=
  (before.intake after).length + before.stock + before.sink.body.stock (fun _ => true) <=
    after.stock + after.sink.body.stock (fun _ => true) + (before.sink.body.departure after.sink.body).length

variable {outlet next : Outlet}

theorem Passes.of_kept (unheld : (outlet.intake next).length + outlet.stock <= next.stock)
    (place : next.sink.body.place = outlet.sink.body.place)
    (receiving : next.sink.body.receiving = outlet.sink.body.receiving) : outlet.Passes next := by
  have same := Channel.stock_of_same (fun _ => true) place receiving
  unfold Passes
  omega

theorem Passes.of_idle (idle : next.writer = none) (settled : next.emitting = false)
    (place : next.sink.body.place = outlet.sink.body.place)
    (receiving : next.sink.body.receiving = outlet.sink.body.receiving) : outlet.Passes next := by
  refine .of_kept ?_ place receiving
  rw [intake_of_idle idle]
  simpa [stock, settled] using outlet.stock_le_one

theorem Passes.of_drained (writer : next.writer = outlet.writer) (emitting : next.emitting = outlet.emitting)
    (drained : outlet.sink.body.Drained next.sink.body) : outlet.Passes next := by
  have taken := drained.stock fun _ => true
  have same : next.stock = outlet.stock := by simp only [stock, writer, emitting]
  rw [Passes, intake_of_same writer, same]
  simp only [List.countP_true, List.length_nil] at taken ⊢
  omega

theorem Passes.of_write {written : List Bytes} {heads : List ResponseHead} {frames : List Bytes}
    (answered : outlet.Answered written heads frames) (emitting : outlet.emitting = true) {writer after : Writer}
    {sink : Sink} (writing : outlet.writer = some writer)
    (moved : writer.Move Session.emitterHandle outlet.sink after sink) :
    outlet.Passes { outlet with writer := some after, sink } := by
  have unheld (hold : writer.stock <= after.stock) :
      (outlet.intake { outlet with writer := some after, sink }).length + outlet.stock <=
        stock { outlet with writer := some after, sink } := by
    simpa [intake, stock, emitting, writing] using hold
  cases moved with
  | count chunk _ accepts =>
    have body := Sink.beginWrite_body accepts
    exact .of_kept (unheld (Nat.le_refl _)) (by rw [body]) (by rw [body])
  | refuse => exact .of_kept (unheld (Nat.le_refl _)) rfl rfl
  | queue _ chunk offered | abandon _ chunk offered =>
    exact .of_kept (unheld (by rcases offered with rfl | rfl <;> exact Nat.le_refl _)) rfl rfl
  | put _ chunk offered unclosed granted =>
    have empty := (answered.served unclosed emitting).place_of_granted granted
    rcases offered with rfl | rfl <;>
      simp [Passes, intake, stock, emitting, writing, Writer.stock, Channel.stock, unclosed, empty]

theorem Move.passes {written : List Bytes} {heads gotHeads : List ResponseHead} {frames gotFrames : List Bytes}
    (moved : outlet.Move gotHeads gotFrames next) (answered : outlet.Answered written heads frames) :
    outlet.Passes next := by
  cases moved with
  | rest | receiveHead | takeText => exact .of_drained rfl rfl (.same _)
  | takeChunk _ _ ready => exact .of_drained rfl rfl (.taken _ (by simp [ready]))
  | receiveFault | disconnect => exact .of_drained rfl rfl (.closed rfl rfl)
  | fail => exact .of_drained rfl rfl (by rw [Sink.failInternal_body]; exact .same _)
  | begin chunk headers emitting idle =>
    exact .of_kept (by simp [intake, stock, emitting, idle, Writer.stock]) rfl rfl
  | write writer after sink emitting writing moved => exact .of_write answered emitting writing moved
  | wrote writing =>
    refine .of_kept ?_ rfl rfl
    rw [intake_of_idle rfl]
    simp [stock, writing, Writer.stock]
  | settle body _ _ place receiving | settleFailed body _ _ place receiving =>
    exact .of_idle rfl rfl (by simpa [Channel.dropSender] using place) (by simpa [Channel.dropSender] using receiving)
  | close => exact .of_idle rfl rfl Sink.Released.dropHandle.place Sink.Released.dropHandle.receiving
  | leave _ _ _ released => exact .of_idle rfl rfl released.place released.receiving

end Outlet

namespace Transcoder

theorem Feeds.passes {transcoder after : Transcoder} {before pipeline : Pipeline}
    (moved : transcoder.Feeds before after pipeline) (carries : transcoder.feeder.phase.Carries)
    (served : transcoder.call.requests.receiving = true ->
      transcoder.call.requests.Serves Feeder.requestSender transcoder.feeder.phase.isWaiting) :
    after.feeder.phase.Carries /\
      (before.chunks.departure pipeline.chunks).length + transcoder.feeder.phase.stock +
          transcoder.call.requests.stock UploadRequest.isDatagram <=
        after.feeder.phase.stock + after.call.requests.stock UploadRequest.isDatagram := by
  have one := Channel.departure_le_one before.chunks before.chunks.taken
  have hold := transcoder.feeder.phase.stock_le_one
  cases moved with
  -- A chunk that is taken is in the feeder's hand, as a datagram or behind the header.
  | first chunk descriptor reading | next chunk reading =>
    refine ⟨by trivial, ?_⟩
    rw [reading]
    show (before.chunks.departure before.chunks.taken).length + 0 + _ <= 1 + transcoder.call.requests.stock _
    omega
  | undescribed | drain | stop =>
    refine ⟨trivial, ?_⟩
    rw [Channel.departure_of_unclosed fun unclosed => (by cases unclosed)]
    show 0 + _ + _ <= 1 + transcoder.call.requests.stock _
    omega
  | put request pending offered going unclosed granted =>
    have empty := (served unclosed).place_of_granted granted
    rw [Channel.departure_of_same rfl, Channel.stock_of_empty _ unclosed empty]
    cases pending with
    | some chunk =>
      refine ⟨rfl, ?_⟩
      show 0 + _ + 0 <= 1 + _
      omega
    | none =>
      refine ⟨trivial, ?_⟩
      -- No chunk waits behind this request, so that it is a datagram itself.
      have counts : request.isDatagram = true := by
        rcases offered with phase | phase <;> rw [phase] at carries <;> exact carries
      show 0 + _ + 0 <= 0 + Channel.stock _ { transcoder.call.requests with place := some request, promised := none }
      simpa [Channel.stock, unclosed, counts] using hold
  | queue request pending offered =>
    have kept : (FeedPhase.waiting request pending).Carries := by
      rcases offered with phase | phase <;> rw [phase] at carries <;> cases pending <;> exact carries
    refine ⟨kept, ?_⟩
    rw [Channel.departure_of_same rfl]
    show 0 + _ + _ <= 1 + transcoder.call.requests.stock _
    omega

end Transcoder

namespace Session

def firstDatagram : List StorageMessage -> List Bytes
  | .ok (.datagram datagram) :: _ => [datagram.payload]
  | _ => []

def datagramRead (before after : Session) : List Bytes :=
  match before.forwarder.phase, after.forwarder.phase with
  | .reading, .sending _ | .reading, .finished (.error _) => firstDatagram before.pipeline.frames.items
  | _, _ => []

def payloadReceived (before after : Session) : List Bytes :=
  match before.emitter, after.emitter with
  | .transcoding transcoder, .transcoding later =>
    match transcoder.fetcher, later.fetcher with
    | .reading _, .writing (.starting payload) => [payload]
    | _, _ => []
  | _, _ => []

def chunkDeparture (before after : Session) : List Bytes :=
  before.pipeline.chunks.departure after.pipeline.chunks

def bodyDeparture (before after : Session) : List Bytes :=
  before.sink.body.departure after.sink.body

def datagramDeparture (before after : Session) : List EncodeVideoRequest :=
  match before.call?, after.call? with
  | some before, some after => (before.requests.departure after.requests).filter UploadRequest.isDatagram
  | _, _ => []

def datagramsRead : Session -> List Action -> List Bytes :=
  trace act datagramRead

def payloadsReceived : Session -> List Action -> List Bytes :=
  trace act payloadReceived

def chunksConsumed : Session -> List Action -> List Bytes :=
  trace act chunkDeparture

def chunksTaken : Session -> List Action -> List Bytes :=
  trace act bodyDeparture

def datagramsRequested : Session -> List Action -> List EncodeVideoRequest :=
  trace act datagramDeparture

variable {session next : Session} {action : Action} {actions : List Action}

def front (session : Session) : Nat :=
  session.forwarder.phase.stock + session.pipeline.chunks.stock fun _ => true

theorem front_le_two (session : Session) : session.front <= 2 := by
  have chunks := session.pipeline.chunks.stock_le_one fun _ => true
  have forwarder := session.forwarder.phase.stock_le_one
  unfold front
  omega

theorem datagramRead_of_same (same : next.forwarder = session.forwarder) : session.datagramRead next = [] := by
  unfold datagramRead
  rw [same]
  cases session.forwarder.phase <;> rfl

theorem firstDatagram_le_one (items : List StorageMessage) : (firstDatagram items).length <= 1 := by
  unfold firstDatagram
  split
  next => exact Nat.le_refl _
  next => exact Nat.zero_le _

theorem Forwards.passes {put : List Bytes} {messages : List StorageMessage} (moved : session.Forwards next)
    (forwarded : Forwarded messages put session) :
    (session.datagramRead next).length + session.front <= next.front := by
  have one := firstDatagram_le_one session.pipeline.frames.items
  have hold := session.forwarder.phase.stock_le_one
  have unread (passed : session.datagramRead next = []) (kept : session.front <= next.front) :
      (session.datagramRead next).length + session.front <= next.front := by
    simpa [passed] using kept
  cases moved with
  | header _ _ reading => simp [datagramRead, front, reading]
  | datagram _ _ reading => simpa [datagramRead, front, reading, ForwardPhase.stock] using one
  | refuse _ _ _ reading =>
    simpa [datagramRead, front, reading, ForwardPhase.stock, ended, Forwarder.finish, Channel.dropSender,
      Channel.stock, withSink] using one
  -- The place into which the payload goes was empty, so that the stock does not shrink.
  | put payload held unclosed granted =>
    have empty := (forwarded.served unclosed).place_of_granted granted
    refine unread (by unfold datagramRead; split <;> simp_all) ?_
    show session.forwarder.phase.stock + _ <= 0 + _
    simpa [Channel.stock, unclosed, empty] using hold
  | queue payload held =>
    refine unread (by unfold datagramRead; split <;> simp_all) ?_
    show session.forwarder.phase.stock + _ <= 1 + session.pipeline.chunks.stock _
    exact Nat.add_le_add_right hold _
  | abandon | finish =>
    refine unread (by unfold datagramRead; split <;> simp_all [ended, Forwarder.stop, Forwarder.finish]) ?_
    show session.forwarder.phase.stock + _ <= 1 + session.pipeline.chunks.stock _
    exact Nat.add_le_add_right hold _

theorem Step.front {put : List Bytes} {messages : List StorageMessage} (step : session.Step action next)
    (forwarded : Forwarded messages put session) :
    (session.datagramRead next).length + session.front <= next.front + (session.chunkDeparture next).length := by
  have aside (same : next.forwarder = session.forwarder)
      (drained : session.pipeline.chunks.Drained next.pipeline.chunks) :
      (session.datagramRead next).length + session.front <= next.front + (session.chunkDeparture next).length := by
    have taken := drained.stock fun _ => true
    rw [datagramRead_of_same same, Session.front, Session.front, same]
    simp only [List.countP_true, List.length_nil, chunkDeparture] at taken ⊢
    omega
  have kept := step.keepsStorage
  cases step with
  | forward _ _ moved => exact Nat.le_trans (moved.passes forwarded) (Nat.le_add_right _ _)
  | deliver | endStream => exact aside rfl (.same _)
  | _ => exact aside (kept (by simp)).forwarder (kept (by simp)).chunks

theorem Step.undeparted (step : session.Step action next) (foreign : action ≠ .emit /\ action ≠ .feed) :
    session.chunkDeparture next = [] := by
  cases step with
  | emit => exact absurd rfl foreign.1
  | feed => exact absurd rfl foreign.2
  | forward _ _ moved =>
    cases moved with
    | header | datagram | refuse | queue | abandon | finish => exact Channel.departure_of_same rfl
    | put => simp [chunkDeparture, Channel.departure]
  | fetch _ after pipeline _ _ _ _ moved =>
    have same := (session.afterLeg_keeps after pipeline).2.2.trans moved.chunks
    exact Channel.departure_of_same (by rw [same])
  -- Closing the channel is no way of taking from it.
  | abort => exact Channel.departure_of_unclosed fun unclosed => (session.dropEmitter_dropped.unclosed unclosed).2
  | leave => exact Channel.departure_of_unclosed fun unclosed => (cutShort_unclosed unclosed).2
  | join | deliver | endStream | onCall | receiveHead | receiveFault | takeChunk | takeText | disconnect =>
    exact Channel.departure_of_same rfl

theorem Stores.intake {emitter : Passthrough} (coherent : session.Coherent) (going : session.isOver = false)
    (mode : session.emitter = .passthrough emitter) (moved : session.Stores emitter next) :
    (session.chunkDeparture next).length <= (session.outlet.intake next.outlet).length := by
  have before := outlet_passthrough coherent going mode
  have after := moved.coherent mode coherent
  have undeparted (same : next.pipeline.chunks.receiving = true ->
      next.pipeline.chunks.place = session.pipeline.chunks.place) :
      (session.chunkDeparture next).length <= (session.outlet.intake next.outlet).length := by
    simp [chunkDeparture, Channel.departure_of_unclosed same]
  cases moved with
  | first chunk | next _ chunk =>
    rw [before, outlet_passthrough after going rfl]
    have one := Channel.departure_le_one session.pipeline.chunks session.pipeline.chunks.taken
    simpa [chunkDeparture, Outlet.intake, Passthrough.writer?] using one
  | undescribed | drain | unwritten => exact undeparted fun unclosed => (by cases unclosed)
  | write | wrote => exact undeparted fun _ => rfl

theorem Step.intake {emitter : Passthrough} (step : session.Step action next) (coherent : session.Coherent)
    (mode : session.emitter = .passthrough emitter) :
    (session.chunkDeparture next).length <= (session.outlet.intake next.outlet).length := by
  have undeparted := step.undeparted
  cases step with
  | emit other _ going same moved =>
    cases mode.symm.trans same
    exact moved.intake coherent going mode
  | feed _ _ _ _ same => cases mode.symm.trans same
  | _ => simp [undeparted (by simp)]

theorem payloadReceived_of_same {transcoder after : Transcoder} (mode : session.emitter = .transcoding transcoder)
    (later : next.emitter = .transcoding after) (same : after.fetcher = transcoder.fetcher) :
    session.payloadReceived next = [] := by
  simp only [payloadReceived, mode, later, same]
  cases transcoder.fetcher <;> rfl

theorem Step.receipt {transcoder : Transcoder} (step : session.Step action next)
    (mode : session.emitter = .transcoding transcoder) :
    (session.payloadReceived next).length <= (session.outlet.intake next.outlet).length := by
  have aside (foreign : action ≠ .fetch) :
      (session.payloadReceived next).length <= (session.outlet.intake next.outlet).length := by
    obtain ⟨after, later, fetcher, -⟩ := step.keepsFetching mode foreign
    simp [payloadReceived_of_same mode later fetcher]
  cases step with
  | fetch earlier after pipeline going same _ running moved =>
    cases mode.symm.trans same
    have later := afterLeg_emitter session after pipeline
    rw [outlet_transcoding going running mode, outlet_afterLeg going running]
    simp only [payloadReceived, mode, later, Outlet.intake, Transcoder.writer?]
    split
    next reading writing => simp [reading, writing]
    next => exact Nat.zero_le _
  | _ => exact aside (by simp)

def middle (session : Session) : Nat :=
  match session.emitter with
  | .passthrough _ => 0
  | .transcoding transcoder =>
    transcoder.feeder.phase.stock + transcoder.call.requests.stock UploadRequest.isDatagram

theorem middle_transcoding {transcoder : Transcoder} (mode : session.emitter = .transcoding transcoder) :
    session.middle = transcoder.feeder.phase.stock + transcoder.call.requests.stock UploadRequest.isDatagram := by
  simp only [middle, mode]

theorem datagramDeparture_transcoding {transcoder after : Transcoder} (mode : session.emitter = .transcoding transcoder)
    (later : next.emitter = .transcoding after) : session.datagramDeparture next =
      (transcoder.call.requests.departure after.call.requests).filter UploadRequest.isDatagram := by
  simp only [datagramDeparture, call?, mode, later]

theorem Step.middle {transcoder : Transcoder} (step : session.Step action next) (feeding : Feeding session transcoder)
    (carries : transcoder.feeder.phase.Carries) :
    exists after, next.emitter = .transcoding after /\ after.feeder.phase.Carries /\
      (session.chunkDeparture next).length + session.middle <=
        next.middle + (session.datagramDeparture next).length := by
  have mode := feeding.mode
  by_cases foreign : action = .feed
  next =>
    subst foreign
    cases step with
    | feed earlier after pipeline _ same _ _ moved =>
      cases mode.symm.trans same
      have later := afterLeg_emitter session after pipeline
      have chunks := (session.afterLeg_keeps after pipeline).2.2
      obtain ⟨kept, passes⟩ := moved.passes carries fun unclosed => feeding.served unclosed moved.unfinished
      refine ⟨after, later, kept, ?_⟩
      rw [middle_transcoding mode, middle_transcoding later, chunkDeparture, chunks]
      omega
  next =>
    obtain ⟨after, later, kept⟩ := step.keepsFeeding mode feeding.holds foreign
    refine ⟨after, later, kept.feeder ▸ carries, ?_⟩
    have taken := kept.requests.stock UploadRequest.isDatagram
    rw [List.countP_eq_length_filter] at taken
    have emits : action ≠ .emit := by
      rintro rfl
      cases step with
      | emit _ _ _ stored => cases mode.symm.trans stored
    rw [step.undeparted ⟨emits, foreign⟩, middle_transcoding mode, middle_transcoding later, kept.feeder,
      datagramDeparture_transcoding mode later, List.length_nil]
    omega

def back (session : Session) : Nat :=
  session.outlet.stock + session.sink.body.stock fun _ => true

theorem back_le_two (session : Session) : session.back <= 2 := by
  have emitter := session.outlet.stock_le_one
  have body := session.sink.body.stock_le_one fun _ => true
  unfold back
  omega

theorem middle_le_two (session : Session) : session.middle <= 2 := by
  unfold middle
  split
  next => exact Nat.zero_le _
  next transcoder _ =>
    have feeder := transcoder.feeder.phase.stock_le_one
    have requests := transcoder.call.requests.stock_le_one UploadRequest.isDatagram
    omega

theorem Step.back {written : List Bytes} {heads : List ResponseHead} {frames : List Bytes}
    (step : session.Step action next) (coherent : session.Coherent)
    (answered : session.outlet.Answered written heads frames) :
    (session.outlet.intake next.outlet).length + session.back <= next.back + (session.bodyDeparture next).length := by
  have passes : session.outlet.Passes next.outlet := (step.outlet coherent).passes answered
  unfold Outlet.Passes at passes
  show _ + (session.outlet.stock + session.outlet.sink.body.stock _) <=
    next.outlet.stock + next.outlet.sink.body.stock _ +
      (session.outlet.sink.body.departure next.outlet.sink.body).length
  omega

theorem read_of_run {emitter : Emitter} (run : Run (start emitter) actions session) :
    (datagramsRead (start emitter) actions).length <=
      (chunksConsumed (start emitter) actions).length + session.front :=
  trace_balance (fun _ _ _ _ reached possible =>
    (step_of_act possible).front (forwarded_of_run (run_of_follow reached))) run.reached

theorem stored_of_run (run : Run passthrough actions session) :
    (chunksConsumed passthrough actions).length <= (chunksTaken passthrough actions).length + session.back := by
  refine trace_balance (fun done middle action next reached possible => ?_) run.reached
  have run := run_of_follow reached
  have step := step_of_act possible
  obtain ⟨coherent, answered⟩ := answered_of_run .passthrough run
  obtain ⟨emitter, copied⟩ := copied_of_run run
  exact Nat.le_trans (Nat.add_le_add_right (step.intake coherent copied.mode) _) (step.back coherent answered)

theorem received_of_run {preset : Preset} (run : Run (transcoding preset) actions session) :
    (payloadsReceived (transcoding preset) actions).length <=
      (chunksTaken (transcoding preset) actions).length + session.back := by
  refine trace_balance (fun done middle action next reached possible => ?_) run.reached
  have run := run_of_follow reached
  have step := step_of_act possible
  obtain ⟨coherent, answered⟩ := answered_of_run (.transcoding preset) run
  obtain ⟨transcoder, feeding⟩ := feeding_of_run run
  exact Nat.le_trans (Nat.add_le_add_right (step.receipt feeding.mode) _) (step.back coherent answered)

theorem carries_of_run {preset : Preset} (run : Run (transcoding preset) actions session) :
    exists transcoder, Feeding session transcoder /\ transcoder.feeder.phase.Carries := by
  refine run.keeps (fun _ session => exists transcoder, Feeding session transcoder /\
    transcoder.feeder.phase.Carries) ⟨{ preset }, feeding_start preset, trivial⟩ ?_
  rintro actions session action next run ⟨transcoder, feeding, carries⟩ possible
  have step := step_of_act possible
  obtain ⟨after, later, kept, -⟩ := step.middle feeding carries
  obtain ⟨other, fed⟩ := feeding.act step
  cases fed.mode.symm.trans later
  exact ⟨after, fed, kept⟩

theorem fed_of_run {preset : Preset} (run : Run (transcoding preset) actions session) :
    (chunksConsumed (transcoding preset) actions).length <=
      (datagramsRequested (transcoding preset) actions).length + session.middle := by
  refine trace_balance (fun done middle action next reached possible => ?_) run.reached
  obtain ⟨transcoder, feeding, carries⟩ := carries_of_run (run_of_follow reached)
  obtain ⟨after, later, -, passes⟩ := (step_of_act possible).middle feeding carries
  exact passes

/-- Whoever can still put something on a channel finds its place empty when it is let. -/
structure Uncrowded (session : Session) : Prop where
  chunks : forall chunk later, session.pipeline.chunks.offer Forwarder.chunkSender chunk = .taken later ->
    session.pipeline.chunks.place = none
  requests : forall transcoder request later, session.emitter = .transcoding transcoder ->
    transcoder.feeder.outcome? = none ->
    transcoder.call.requests.offer Feeder.requestSender request = .taken later -> transcoder.call.requests.place = none
  body : forall chunk later, session.isEmitting = true -> session.sink.body.offer emitterHandle chunk = .taken later ->
    session.sink.body.place = none

theorem uncrowded_of_run {emitter : Emitter} (fresh : emitter.Fresh) (run : Run (start emitter) actions session) :
    session.Uncrowded := by
  constructor
  case chunks =>
    intro chunk later taken
    obtain ⟨unclosed, granted, -⟩ := Channel.offer_eq_taken_iff.1 taken
    exact ((forwarded_of_run run).served unclosed).place_of_granted granted
  case requests =>
    intro transcoder request later mode unfinished taken
    obtain ⟨unclosed, granted, -⟩ := Channel.offer_eq_taken_iff.1 taken
    exact ((feeding_of_fresh fresh run mode).served unclosed unfinished).place_of_granted granted
  case body =>
    intro chunk later emitting taken
    obtain ⟨unclosed, granted, -⟩ := Channel.offer_eq_taken_iff.1 taken
    obtain ⟨-, answered⟩ := answered_of_run fresh run
    exact (answered.served unclosed emitting).place_of_granted granted

/-- However fast storage, encoder and client are, at most four datagrams have been read from storage that the client
has not taken, or that the transport of a transcoding session has not; at most two payloads of the encoder have been
received that the client has not taken; and no channel gets an item as long as it has one. -/
theorem backlog_bounded {emitter : Emitter} (fresh : emitter.Fresh) (run : Run (start emitter) actions session) :
    (match emitter with
      | .passthrough _ =>
        (datagramsRead (start emitter) actions).length <= (chunksTaken (start emitter) actions).length + 4
      | .transcoding _ =>
        (datagramsRead (start emitter) actions).length <= (datagramsRequested (start emitter) actions).length + 4 /\
          (payloadsReceived (start emitter) actions).length <= (chunksTaken (start emitter) actions).length + 2) /\
      session.Uncrowded := by
  refine ⟨?_, uncrowded_of_run fresh run⟩
  have read := read_of_run run
  have front := session.front_le_two
  have back := session.back_le_two
  cases fresh with
  | passthrough =>
    show _ <= (chunksTaken passthrough actions).length + 4
    exact Nat.le_trans read (Nat.le_trans (Nat.add_le_add_right (stored_of_run run) _) (by omega))
  | transcoding preset =>
    have middle := session.middle_le_two
    show _ <= (datagramsRequested (transcoding preset) actions).length + 4 /\
      _ <= (chunksTaken (transcoding preset) actions).length + 2
    refine ⟨Nat.le_trans read (Nat.le_trans (Nat.add_le_add_right (fed_of_run run) _) (by omega)), ?_⟩
    exact Nat.le_trans (received_of_run run) (Nat.add_le_add_left back _)

def clipUntaken : List Action :=
  [.deliver (.ok (.header clip)), .forward] ++
    List.replicate 5 (.deliver (.ok (.datagram { payload := [7] }))) ++
    [.forward, .forward, .emit, .emit, .emit, .emit, .forward, .forward, .emit, .emit, .emit, .forward, .forward,
      .forward]

def clipUnfed : List Action :=
  [.deliver (.ok (.header clip)), .forward] ++
    List.replicate 5 (.deliver (.ok (.datagram { payload := [7] }))) ++
    [.forward, .forward, .feed, .forward, .forward, .feed, .onCall (.takeRequest (uploadHeader 3 "small")), .feed,
      .feed, .forward, .forward, .feed, .forward, .onCall (.answer (.ok ())), .fetch] ++
    List.replicate 3 (.onCall (.reply (.ok { datagram := some { payload := [9] } }))) ++
    [.fetch, .fetch, .fetch, .fetch, .fetch]

theorem clip_backlog :
    (exists session, Run passthrough clipUntaken session /\
      (datagramsRead passthrough clipUntaken).length = (chunksTaken passthrough clipUntaken).length + 4) /\
    exists session, Run (transcoding smallPreset) clipUnfed session /\
      (datagramsRead (transcoding smallPreset) clipUnfed).length =
        (datagramsRequested (transcoding smallPreset) clipUnfed).length + 4 /\
      (payloadsReceived (transcoding smallPreset) clipUnfed).length =
        (chunksTaken (transcoding smallPreset) clipUnfed).length + 2 := by
  constructor
  next =>
    obtain ⟨session, reached⟩ : exists session, follow act passthrough clipUntaken = some session := ⟨_, rfl⟩
    have run := run_of_follow reached
    exact ⟨session, run, Nat.le_antisymm (backlog_bounded .passthrough run).1 (by decide)⟩
  next =>
    obtain ⟨session, reached⟩ : exists session, follow act (transcoding smallPreset) clipUnfed = some session :=
      ⟨_, rfl⟩
    have run := run_of_follow reached
    obtain ⟨fed, received⟩ := (backlog_bounded (.transcoding smallPreset) run).1
    exact ⟨session, run, Nat.le_antisymm fed (by decide), Nat.le_antisymm received (by decide)⟩

end Session

end VideoRelay
