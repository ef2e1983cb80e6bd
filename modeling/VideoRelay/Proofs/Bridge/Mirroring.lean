import VideoRelay.Proofs.Bridge.Outcome

set_option autoImplicit false

namespace VideoRelay

open Wire

/-- The requests for the frames before the first offence: a header first, and only datagrams behind it. -/
def ImageSpec.mirror (spec : ImageSpec) : Bool -> List StorageMessage -> List GenerateThumbnailRequest
  | false, .ok (.header video) :: rest =>
    .header { totalLength := video.descriptor.totalLength, outputFormat := ImageSpec.jpeg, width := spec.width,
              height := spec.height, position := spec.positionSeconds } :: spec.mirror true rest
  | true, .ok (.datagram datagram) :: rest =>
    .datagram { offset := datagram.offset, payload := datagram.payload } :: spec.mirror true rest
  | _, _ => []

@[simp]
theorem ImageSpec.mirror_nil (spec : ImageSpec) (headerSeen : Bool) : spec.mirror headerSeen [] = [] := by
  cases headerSeen <;> rfl

theorem ImageSpec.mirror_datagrams (spec : ImageSpec) (datagrams : List Datagram) :
    spec.mirror true (datagrams.map fun datagram => .ok (.datagram datagram)) = datagrams.map .datagram := by
  induction datagrams with
  | nil => rfl
  | cons datagram rest ih => simp [mirror, ih]

theorem ImageSpec.mirror_framed (spec : ImageSpec) (video : Video) (datagrams : List Datagram) :
    spec.mirror false (Framing.framed video datagrams) =
      .header { totalLength := video.totalLength, outputFormat := 0, width := spec.width, height := spec.height,
                position := spec.positionSeconds } :: datagrams.map .datagram :=
  congrArg _ (spec.mirror_datagrams datagrams)

namespace Pump

def isWaiting : Pump -> Bool
  | waiting _ => true
  | _ => false

def isPastOpening : Pump -> Bool
  | reading | sending _ | waiting _ | finished _ => true
  | unstarted | dialing | opening => false

theorem idle_of_unopened {pump : Pump} (unopened : pump.isPastOpening = false) :
    pump.request? = none /\ pump.isWaiting = false /\ pump.outcome? = none := by
  cases pump with
  | unstarted | dialing | opening => exact ⟨rfl, rfl, rfl⟩
  | reading | sending | waiting | finished => cases unopened

end Pump

namespace Bridge

def Action.message? : Action -> Option StorageMessage
  | deliver message => some message
  | _ => none

def delivered (actions : List Action) : List StorageMessage :=
  actions.filterMap Action.message?

theorem delivered_snoc (actions : List Action) (action : Action) :
    delivered (actions ++ [action]) = delivered actions ++ action.message?.toList := by
  cases told : action.message? <;> simp [delivered, told]

def requestArrival (before after : Bridge) : List GenerateThumbnailRequest :=
  before.call.requests.arrival after.call.requests

@[simp]
theorem requestArrival_self (bridge : Bridge) : bridge.requestArrival bridge = [] :=
  Channel.arrival_of_same rfl

@[simp]
theorem requestArrival_endPump (bridge : Bridge) (outcome : Except Fault Unit) :
    bridge.requestArrival (bridge.endPump outcome) = [] :=
  Channel.arrival_of_same rfl

def requestsSent : Bridge -> List Action -> List GenerateThumbnailRequest :=
  trace act requestArrival

variable {spec : ImageSpec} {bridge next last : Bridge} {action : Action} {actions : List Action}
  {messages : List StorageMessage}

theorem mirror_translated {message : StorageMessage} {order : FrameGate} {request : GenerateThumbnailRequest}
    (translated : bridge.requestFor message = .ok (order, request)) (rest : List StorageMessage) :
    bridge.spec.mirror bridge.order.headerSeen (message :: rest) =
      request :: bridge.spec.mirror order.headerSeen rest := by
  have opened : bridge.requestFor message =
      (message.mapError .streamTransport).bind fun response => (response.frame.mapError .ofViolation).bind fun frame =>
        ((bridge.order.accept frame).mapError .ofViolation).bind fun order =>
          .ok (order, bridge.spec.request frame) := rfl
  rw [opened] at translated
  cases message with
  | error status => cases translated
  | ok response =>
    cases response with
    | empty => cases translated
    | header video =>
      cases seen : bridge.order.headerSeen with
      | true => simp [GetVideoResponse.frame, FrameGate.accept, FrameGate.header, seen, Except.bind] at translated
      | false =>
        simp only [GetVideoResponse.frame, FrameGate.accept, FrameGate.header, seen, Except.bind, mapError_ok,
          Bool.false_eq_true, ↓reduceIte, Except.ok.injEq, Prod.mk.injEq] at translated
        obtain ⟨rfl, rfl⟩ := translated
        rfl
    | datagram datagram =>
      cases seen : bridge.order.headerSeen with
      | false => simp [GetVideoResponse.frame, FrameGate.accept_datagram, seen, Except.bind] at translated
      | true =>
        simp only [GetVideoResponse.frame, FrameGate.accept_datagram, seen, Except.bind, mapError_ok,
          ↓reduceIte, Except.ok.injEq, Prod.mk.injEq] at translated
        obtain ⟨rfl, rfl⟩ := translated
        simp [ImageSpec.mirror, seen, ImageSpec.request]

theorem mirror_refused {message : StorageMessage} {fault : Fault} (refused : bridge.requestFor message = .error fault)
    (rest : List StorageMessage) : bridge.spec.mirror bridge.order.headerSeen (message :: rest) = [] := by
  have offends := requestFor_error refused
  unfold Framing.offence? at offends
  split at offends <;> simp_all [ImageSpec.mirror]

/-- What a storage task has sent, has in hand and has not read yet makes up the whole video as far as it was delivered.
A task that ended before all of it was sent was stopped, or the encoder did not read on. -/
structure Mirrors (spec : ImageSpec) (messages : List StorageMessage) (sent : List GenerateThumbnailRequest)
    (bridge : Bridge) : Prop where
  asked : bridge.spec = spec
  running : bridge.pump.outcome? = none -> exists read, messages = read ++ bridge.frames.items /\
    forall later, spec.mirror false (read ++ later) =
      sent ++ bridge.pump.request?.toList ++ spec.mirror bridge.order.headerSeen later
  finished : bridge.pump.outcome?.isSome = true -> sent <+: spec.mirror false messages /\
    (bridge.cancelled = false -> bridge.call.requests.receiving = true -> sent = spec.mirror false messages)
  ended : bridge.frames.ended = true -> bridge.pump.isPastOpening = true
  unopened : bridge.pump.isPastOpening = false -> bridge.frames.items = []
  served : bridge.pump.outcome? = none -> bridge.call.requests.receiving = true ->
    bridge.call.requests.Serves requestSender bridge.pump.isWaiting

namespace Mirrors

variable {sent : List GenerateThumbnailRequest}

theorem begun (mirrors : Mirrors spec messages sent bridge) : sent <+: spec.mirror false messages := by
  cases outcome : bridge.pump.outcome? with
  | some _ => exact (mirrors.finished (by rw [outcome]; rfl)).1
  | none =>
    obtain ⟨read, split, whole⟩ := mirrors.running outcome
    rw [split, whole, List.append_assoc]
    exact List.prefix_append _ _

theorem keep (before : Mirrors spec messages sent bridge) (asked : next.spec = bridge.spec)
    (pump : next.pump = bridge.pump) (order : next.order = bridge.order) (frames : next.frames = bridge.frames)
    (raised : bridge.cancelled = true -> next.cancelled = true)
    (requests : bridge.call.requests.Drained next.call.requests) : Mirrors spec messages sent next := by
  refine ⟨asked.trans before.asked, ?_, ?_, ?_, ?_, ?_⟩
  next => rw [pump, order, frames]; exact before.running
  next =>
    rw [pump]
    intro through
    obtain ⟨begun, complete⟩ := before.finished through
    refine ⟨begun, fun uncancelled unclosed => complete ?_ ?_⟩
    next => exact Bool.eq_false_iff.2 fun cancelled => (by cases uncancelled.symm.trans (raised cancelled))
    next =>
      cases receiving : bridge.call.requests.receiving with
      | true => rfl
      | false => cases unclosed.symm.trans (requests.receiving receiving)
  next => rw [pump, frames]; exact before.ended
  next => rw [pump, frames]; exact before.unopened
  next =>
    rw [pump]
    exact fun unfinished unclosed => requests.serves unclosed (before.served unfinished)

theorem advance (before : Mirrors spec messages sent bridge) {more : List GenerateThumbnailRequest}
    (asked : next.spec = bridge.spec) (unfinished : bridge.pump.outcome? = none)
    (still : next.pump.outcome? = none)
    (moved : forall read, messages = read ++ bridge.frames.items ->
      (forall later, spec.mirror false (read ++ later) =
        sent ++ bridge.pump.request?.toList ++ spec.mirror bridge.order.headerSeen later) ->
      exists read, messages = read ++ next.frames.items /\ forall later, spec.mirror false (read ++ later) =
        sent ++ more ++ next.pump.request?.toList ++ spec.mirror next.order.headerSeen later)
    (frames : next.frames.ended = bridge.frames.ended)
    (past : bridge.pump.isPastOpening = true -> next.pump.isPastOpening = true)
    (unopened : next.pump.isPastOpening = false -> next.frames.items = [])
    (served : next.call.requests.receiving = true ->
      next.call.requests.Serves requestSender next.pump.isWaiting) :
    Mirrors spec messages (sent ++ more) next := by
  refine ⟨asked.trans before.asked, fun _ => ?_, fun through => ?_, fun ended => ?_, unopened, fun _ => served⟩
  next =>
    obtain ⟨read, split, whole⟩ := before.running unfinished
    exact moved read split whole
  next => rw [still] at through; cases through
  next => exact past (before.ended (frames.symm.trans ended))

theorem finish (before : Mirrors spec messages sent bridge) {outcome : Except Fault Unit}
    (asked : next.spec = bridge.spec) (finished : next.pump = .finished outcome)
    (reason : next.cancelled = true \/ next.call.requests.receiving = false \/ sent = spec.mirror false messages) :
    Mirrors spec messages sent next := by
  refine ⟨asked.trans before.asked, fun unfinished => ?_, fun _ => ⟨before.begun, fun uncancelled unclosed => ?_⟩,
    fun _ => by rw [finished]; rfl, fun unopened => ?_, fun unfinished => ?_⟩
  next => rw [finished] at unfinished; cases unfinished
  next =>
    rcases reason with raised | closed | complete
    next => cases uncancelled.symm.trans raised
    next => cases unclosed.symm.trans closed
    next => exact complete
  next => rw [finished] at unopened; cases unopened
  next => rw [finished] at unfinished; cases unfinished

theorem deliver (before : Mirrors spec messages sent bridge) (message : StorageMessage)
    (reading : bridge.isReading = true) :
    Mirrors spec (messages ++ [message]) sent { bridge with frames := bridge.frames.push message } := by
  obtain ⟨unfinished, past⟩ : bridge.pump.outcome? = none /\ bridge.pump.isPastOpening = true := by
    cases pump : bridge.pump <;> simp [isReading, pump, Pump.outcome?, Pump.isPastOpening] at reading ⊢
  refine ⟨before.asked, fun _ => ?_, fun through => ?_, before.ended, fun unopened => ?_, before.served⟩
  next =>
    obtain ⟨read, split, whole⟩ := before.running unfinished
    refine ⟨read, ?_, whole⟩
    rw [split, List.append_assoc]
    rfl
  next => rw [unfinished] at through; cases through
  next => cases past.symm.trans unopened

theorem endStream (before : Mirrors spec messages sent bridge) (reading : bridge.isReading = true) :
    Mirrors spec messages sent { bridge with frames := bridge.frames.finish } := by
  refine ⟨before.asked, before.running, before.finished, fun _ => ?_, before.unopened, before.served⟩
  cases pump : bridge.pump <;> simp [isReading, pump, Pump.isPastOpening] at reading ⊢

theorem unsent (before : Mirrors spec messages sent bridge) (unopened : bridge.pump.isPastOpening = false) :
    sent = spec.mirror false messages := by
  obtain ⟨idle, -, unfinished⟩ := Pump.idle_of_unopened unopened
  obtain ⟨read, split, whole⟩ := before.running unfinished
  rw [split, whole, before.unopened unopened, idle]
  simp

theorem opens (before : Mirrors spec messages sent bridge) (asked : next.spec = bridge.spec)
    (order : next.order = bridge.order) (frames : next.frames = bridge.frames)
    (requests : next.call.requests = bridge.call.requests) (unopened : bridge.pump.isPastOpening = false)
    (idle : next.pump.request? = none) (unqueued : next.pump.isWaiting = false) (still : next.pump.outcome? = none) :
    Mirrors spec messages sent next := by
  obtain ⟨unasked, unheard, unfinished⟩ := Pump.idle_of_unopened unopened
  rw [← List.append_nil sent]
  refine before.advance asked unfinished still ?_ (congrArg Source.ended frames) (fun past => ?_) (fun _ => ?_)
    fun unclosed => ?_
  next =>
    rw [frames, order, idle, unasked, List.append_nil]
    exact fun read split whole => ⟨read, split, whole⟩
  next => cases unopened.symm.trans past
  next => rw [frames]; exact before.unopened unopened
  next =>
    have serves := before.served unfinished (by rwa [← requests])
    rw [requests, unqueued]
    rwa [unheard] at serves

theorem act (before : Mirrors spec messages sent bridge) (custody : Custody bridge)
    (step : bridge.Step action next) :
    Mirrors spec (messages ++ action.message?.toList) (sent ++ bridge.requestArrival next) next := by
  have quiet (same : next.call.requests.place = bridge.call.requests.place) : bridge.requestArrival next = [] :=
    Channel.arrival_of_same same
  have still (same : next.call.requests.place = bridge.call.requests.place) :
      sent ++ bridge.requestArrival next = sent := by
    rw [quiet same, List.append_nil]
  cases told : action.message? with
  | some message =>
    cases step with
    | deliver message reading =>
      cases told
      rw [still rfl]
      exact before.deliver message reading
    | _ => cases told
  | none =>
    rw [Option.toList_none, List.append_nil]
    have aside (asked : next.spec = bridge.spec) (pump : next.pump = bridge.pump) (order : next.order = bridge.order)
        (frames : next.frames = bridge.frames) (raised : bridge.cancelled = true -> next.cancelled = true)
        (requests : next.call.requests = bridge.call.requests) :
        Mirrors spec messages (sent ++ bridge.requestArrival next) next := by
      rw [still (by rw [requests])]
      exact before.keep asked pump order frames raised (by rw [requests]; exact .same _)
    cases step with
    | abandon | refused | broken | complete | cancel => exact aside rfl rfl rfl rfl (fun _ => rfl) rfl
    | accepted | collect | settle | again | needless | begin | unreachable => exact aside rfl rfl rfl rfl id rfl
    | onCall move call _ acted =>
      have drained := (Call.attended_of_act acted).requests
      rw [show bridge.requestArrival { bridge with call } = [] from drained.arrival, List.append_nil]
      exact before.keep rfl rfl rfl rfl id drained
    | deliver => cases told
    | endStream reading =>
      rw [still rfl]
      exact before.endStream reading
    | start dialing =>
      rw [still rfl]
      exact before.opens rfl rfl rfl rfl (by rw [custody.unstarted dialing]; rfl) rfl rfl rfl
    | dialed dialing =>
      rw [still rfl]
      exact before.opens rfl rfl rfl rfl (by rw [dialing]; rfl) rfl rfl rfl
    | opened opening =>
      rw [still rfl]
      exact before.opens rfl rfl rfl rfl (by rw [opening]; rfl) rfl rfl rfl
    | undialed _ dialing =>
      have unsent := before.unsent (by rw [dialing]; rfl)
      rw [still rfl]
      exact before.finish rfl rfl (.inr (.inr unsent))
    | unopened _ opening =>
      have unsent := before.unsent (by rw [opening]; rfl)
      rw [still rfl]
      exact before.finish rfl rfl (.inr (.inr unsent))
    | stop running raised =>
      rw [still rfl]
      exact before.finish rfl rfl (.inl raised)
    | unread _ _ _ closed =>
      rw [still rfl]
      exact before.finish rfl rfl (.inr (.inl closed))
    | drain reading _ drained =>
      rw [still rfl]
      refine before.finish rfl rfl (.inr (.inr ?_))
      obtain ⟨read, split, whole⟩ := before.running (by rw [reading]; rfl)
      rw [split, drained, whole]
      simp [reading, Pump.request?]
    | offend message rest fault reading _ ready refused =>
      rw [still rfl]
      refine before.finish rfl rfl (.inr (.inr ?_))
      obtain ⟨read, split, whole⟩ := before.running (by rw [reading]; rfl)
      rw [split, ready, whole, ← before.asked, mirror_refused refused]
      simp [reading, Pump.request?]
    | translate message rest order request reading _ ready translated =>
      have unfinished : bridge.pump.outcome? = none := by rw [reading]; rfl
      rw [quiet rfl]
      refine before.advance rfl unfinished rfl (fun read split whole => ?_) rfl (fun _ => rfl)
        (fun unopened => (by cases unopened)) fun unclosed => ?_
      next =>
        -- The message goes over to what was read, and its request is in hand.
        refine ⟨read ++ [message], by simp [split, ready, withFrames], fun later => ?_⟩
        rw [List.append_assoc, List.singleton_append, whole, ← before.asked, mirror_translated translated]
        simp [reading, Pump.request?]
      next =>
        have serves := before.served unfinished unclosed
        rwa [reading] at serves
    | put request offered _ unclosed granted =>
      have unfinished := Pump.unfinished_of_isRunning (Pump.isRunning_of_request offered)
      have serves := before.served unfinished unclosed
      have arrival : bridge.requestArrival (bridge.pumping .reading
          { bridge.call.requests with place := some request, promised := none }) = [request] :=
        Channel.arrival_of_put (serves.place_of_granted granted)
      rw [arrival]
      refine before.advance rfl unfinished rfl (fun read split whole => ⟨read, split, fun later => ?_⟩) rfl
        (fun _ => rfl) (fun unopened => (by cases unopened)) fun _ => serves.put granted
      rw [whole, offered]
      simp [pumping, Pump.request?]
    | queue request offered _ unclosed unpromised full fresh =>
      have unfinished := Pump.unfinished_of_isRunning (Pump.isRunning_of_request offered)
      have serves := before.served unfinished unclosed
      rw [quiet rfl]
      refine before.advance rfl unfinished rfl (fun read split whole => ⟨read, split, fun later => ?_⟩) rfl
        (fun _ => rfl) (fun unopened => (by cases unopened)) fun _ => serves.queue unpromised full fresh
      rw [whole, offered]
      simp [pumping, Pump.request?]

end Mirrors

theorem mirrors_initial (spec : ImageSpec) : Mirrors spec [] [] { spec } :=
  ⟨rfl, fun _ => ⟨[], rfl, fun _ => rfl⟩, fun through => (by cases through), fun ended => (by cases ended),
    fun _ => rfl, fun _ _ => ⟨fun _ => ⟨rfl, rfl⟩, fun queued => (by cases queued)⟩⟩

theorem mirrors_of_run (run : Run { spec } actions last) :
    Mirrors spec (delivered actions) (requestsSent { spec } actions) last := by
  refine run.keeps (fun done bridge => Mirrors spec (delivered done) (requestsSent { spec } done) bridge)
    (mirrors_initial spec) ?_
  intro done bridge action next reached before possible
  rw [show requestsSent { spec } (done ++ [action]) = _ from trace_snoc requestArrival reached.reached possible,
    delivered_snoc]
  exact before.act (custody_of_run reached) (step_of_act possible)

inductive Action.Uploads : Action -> Prop
  | pump : Uploads .pump
  | take (request : GenerateThumbnailRequest) : Uploads (.onCall (.takeRequest request))

theorem Mirrors.stuck {sent : List GenerateThumbnailRequest} (mirrors : Mirrors spec messages sent bridge)
    (ended : bridge.frames.ended = true) (uncancelled : bridge.cancelled = false)
    (stuck : forall action, action.Uploads -> bridge.act action = none) : bridge.pump.outcome?.isSome = true := by
  have past := mirrors.ended ended
  have still := stuck .pump .pump
  have blocked (request : GenerateThumbnailRequest) (offered : bridge.pump.request? = some request)
      (moves : bridge.act .pump = bridge.offerRequest request) : False := by
    have running := Pump.isRunning_of_request offered
    rw [moves] at still
    unfold offerRequest at still
    split at still
    next => cases still
    next => cases still
    next => cases still
    next blocks =>
      -- Somebody else's request is in the place, and the encoder could take it.
      have unclosed := (Channel.offer_eq_blocked_iff.1 blocks).1
      have full := (mirrors.served (Pump.unfinished_of_isRunning running) unclosed).place_of_blocked blocks
      obtain ⟨first, ready⟩ := Option.isSome_iff_exists.1 full
      have taken := stuck _ (.take first)
      have begun : bridge.callOpened = true := by
        cases pump : bridge.pump <;> simp [callOpened, pump, Pump.isPastOpening] at past ⊢
      simp [Bridge.act, begun, Call.act, Channel.take_eq_item_iff.2 ⟨ready, rfl⟩] at taken
  cases pump : bridge.pump with
  | finished => rfl
  | unstarted | dialing | opening => rw [pump] at past; cases past
  | reading =>
    cases ready : bridge.frames.items with
    | nil =>
      rw [act_workPump (by rw [pump]; rfl) uncancelled] at still
      simp [workPump, pump, Source.next, ready, ended] at still
    | cons message rest =>
      rw [act_workPump (by rw [pump]; rfl) uncancelled] at still
      simp only [workPump, pump, Source.next, ready] at still
      split at still <;> cases still
  | sending request | waiting request =>
    have moves : bridge.act .pump = bridge.offerRequest request := by
      rw [act_workPump (by rw [pump]; rfl) uncancelled]
      simp [workPump, pump]
    exact (blocked request (by rw [pump]; rfl) moves).elim

def backlog (bridge : Bridge) : Nat :=
  let pump := match bridge.pump with
    | .sending _ => 4
    | .waiting _ => 3
    | .dialing | .opening | .reading => 1
    | .unstarted | .finished _ => 0
  4 * bridge.frames.items.length + pump + bridge.call.requests.place.toList.length

theorem Mirrors.shrinks {sent : List GenerateThumbnailRequest} (mirrors : Mirrors spec messages sent bridge)
    (uploads : action.Uploads) (step : bridge.Step action next) :
    next.backlog < bridge.backlog /\ next.cancelled = bridge.cancelled /\
      (bridge.call.requests.receiving = true -> next.call.requests.receiving = true) := by
  have offers (request : GenerateThumbnailRequest) (offered : bridge.pump.request? = some request) :
      bridge.pump = .sending request \/ bridge.pump = .waiting request := by
    cases pump : bridge.pump <;> simp [pump, Pump.request?] at offered ⊢ <;> exact offered
  cases uploads with
  | take request =>
    cases step with
    | onCall _ _ _ acted =>
      cases Call.move_of_act acted with
      | takeRequest _ ready => exact ⟨by simp [backlog, ready, Channel.taken], rfl, id⟩
  | pump =>
    refine ⟨?_, by cases step <;> rfl, by cases step <;> exact id⟩
    cases step with
    | stop running =>
      cases pump : bridge.pump with
      | unstarted | finished => rw [pump] at running; cases running
      | dialing | opening | reading | sending | waiting =>
        simp only [backlog, pump, endPump, Channel.dropSender, List.length_nil]
        omega
    | translate _ _ _ _ reading _ ready =>
      simp only [backlog, reading, ready, withFrames, List.length_cons]
      omega
    | offend _ _ _ reading _ ready =>
      simp only [backlog, reading, ready, withFrames, endPump, Channel.dropSender, List.length_cons, List.length_nil]
      omega
    | drain reading _ drained => simp [backlog, reading, drained, endPump, Channel.dropSender]
    | put request offered =>
      rcases offers request offered with phase | phase <;>
        simp only [backlog, phase, pumping, Option.toList_some, List.length_singleton] <;> omega
    | unread request offered =>
      rcases offers request offered with phase | phase <;>
        simp only [backlog, phase, endPump, Channel.dropSender, List.length_nil] <;> omega
    | queue request offered _ unclosed unpromised full fresh =>
      rcases offers request offered with phase | phase
      next => simp [backlog, phase, pumping]
      next =>
        have unqueued := (mirrors.served (by rw [phase]; rfl) unclosed).unqueued unpromised fresh
        rw [phase] at unqueued
        cases unqueued

theorem Mirrors.rests {sent : List GenerateThumbnailRequest} (mirrors : Mirrors spec messages sent bridge)
    (custody : Custody bridge) (uncancelled : bridge.cancelled = false)
    (unclosed : bridge.call.requests.receiving = true) :
    exists moves final, (forall action, action ∈ moves -> action.Uploads) /\ Run bridge moves final /\
      final.cancelled = false /\ final.call.requests.receiving = true /\
      forall action, action.Uploads -> final.act action = none := by
  let going (state : Bridge) : Prop := (exists messages sent, Mirrors spec messages sent state) /\ Custody state /\
    state.cancelled = false /\ state.call.requests.receiving = true
  have shrinks (state : Bridge) (action : Action) (next : Bridge) (before : going state) (uploads : action.Uploads)
      (possible : state.act action = some next) : going next /\ next.backlog < state.backlog := by
    obtain ⟨⟨messages, sent, mirrors⟩, custody, uncancelled, unclosed⟩ := before
    have step := step_of_act possible
    obtain ⟨smaller, same, still⟩ := mirrors.shrinks uploads step
    exact ⟨⟨⟨_, _, mirrors.act custody step⟩, custody.act step, same.trans uncancelled, still unclosed⟩, smaller⟩
  obtain ⟨moves, final, uploads, reached, ⟨-, -, still, listening⟩, stuck⟩ :=
    follow_exhausts Action.Uploads going backlog shrinks ⟨⟨_, _, mirrors⟩, custody, uncancelled, unclosed⟩
  exact ⟨moves, final, uploads, run_of_follow reached, still, listening, stuck⟩

end Bridge

end VideoRelay
