import VideoRelay.Proofs.Session.Outlet

set_option autoImplicit false

namespace VideoRelay

def faultText : Bytes :=
  Text.utf8Bytes internalFaultText

/-- What a reader in this state can have got, of a response with this head and these chunks written. -/
inductive Told (head : Option Head) (written : List Bytes) :
    Reader -> List ResponseHead -> List Bytes -> Prop
  | nothing : Told head written .asked [] []
  | streaming (headers : Headers) (frames : List Bytes) (decided : head = some (.stream headers))
      (taken : frames <+: written) : Told head written .body [{ status := 200, headers }] frames
  | fault (decided : head = some (.failed 500 internalFaultText)) :
      Told head written (.message faultText) [.plain 500] []
  | faultRead (decided : head = some (.failed 500 internalFaultText)) :
      Told head written (.message []) [.plain 500] [faultText]
  | left (heads : List ResponseHead) (frames : List Bytes)
      (got : (forall head, head ∈ heads -> head.status = 200) /\ frames <+: written \/
        heads = [.plain 500] /\ frames <+: [faultText]) : Told head written .gone heads frames

namespace Told

variable {head : Option Head} {written : List Bytes} {reader : Reader} {heads : List ResponseHead}
  {frames : List Bytes}

theorem got (told : Told head written reader heads frames) :
    (forall head, head ∈ heads -> head.status = 200) /\ frames <+: written \/
      heads = [.plain 500] /\ frames <+: [faultText] := by
  cases told with
  | nothing => exact .inl ⟨by simp, List.nil_prefix⟩
  | streaming headers frames decided taken => exact .inl ⟨by simp, taken⟩
  | fault => exact .inr ⟨rfl, List.nil_prefix⟩
  | faultRead => exact .inr ⟨rfl, List.prefix_rfl⟩
  | left heads frames got => exact got

theorem of_body (told : Told head written .body heads frames) :
    exists headers, head = some (.stream headers) /\ heads = [{ status := 200, headers }] := by
  cases told with
  | streaming headers frames decided taken => exact ⟨headers, decided, rfl⟩

theorem of_message {rest : Bytes} (told : Told head written (.message rest) heads frames) :
    head = some (.failed 500 internalFaultText) := by
  cases told with
  | fault decided | faultRead decided => exact decided

theorem beginning {headers : Headers} (told : Told head written reader heads frames)
    (decided : head = some (.stream headers)) (present : reader ≠ .gone) :
    heads <+: [{ status := 200, headers }] /\ frames <+: written := by
  subst decided
  cases told with
  | nothing => exact ⟨List.nil_prefix, List.nil_prefix⟩
  | streaming _ _ stream taken => cases stream; exact ⟨List.prefix_rfl, taken⟩
  | fault failed | faultRead failed => cases failed
  | left => exact absurd rfl present

theorem decide {after : Option Head} (told : Told head written reader heads frames)
    (stays : forall first, head = some first -> after = some first) :
    Told after written reader heads frames := by
  cases told with
  | nothing => exact .nothing
  | streaming headers frames decided taken => exact .streaming headers frames (stays _ decided) taken
  | fault decided => exact .fault (stays _ decided)
  | faultRead decided => exact .faultRead (stays _ decided)
  | left heads frames got => exact .left heads frames got

theorem write (told : Told head written reader heads frames) (more : List Bytes) :
    Told head (written ++ more) reader heads frames := by
  have further := List.prefix_append written more
  cases told with
  | nothing => exact .nothing
  | streaming headers frames decided taken => exact .streaming headers frames decided (taken.trans further)
  | fault decided => exact .fault decided
  | faultRead decided => exact .faultRead decided
  | left heads frames got =>
    exact .left heads frames (got.imp (fun streamed => ⟨streamed.1, streamed.2.trans further⟩) id)

end Told

namespace Outlet

def isWaiting (outlet : Outlet) : Bool :=
  (outlet.writer.map Writer.isWaiting).getD false

def hasBegun (outlet : Outlet) : Bool :=
  (outlet.writer.map Writer.hasBegun).getD false

/-- An outlet through which these chunks were written, and from which the client got these heads and frames. -/
structure Answered (written : List Bytes) (heads : List ResponseHead) (frames : List Bytes)
    (outlet : Outlet) : Prop where
  told : Told outlet.sink.head written outlet.reader heads frames
  content : outlet.sink.body.receiving = true -> written = frames ++ outlet.sink.body.place.toList
  present : outlet.sink.body.receiving = true -> outlet.reader = .asked \/ outlet.reader = .body
  refusing : outlet.sink.body.receiving = false -> outlet.sink.body.place = none /\
    (outlet.reader = .gone \/ exists rest, outlet.reader = .message rest)
  served : outlet.sink.body.receiving = true -> outlet.emitting = true ->
    outlet.sink.body.Serves Session.emitterHandle outlet.isWaiting
  senders : outlet.isOver = false -> outlet.sink.body.senders = if outlet.emitting then 2 else 1
  settled : outlet.isOver = true -> outlet.emitting = false
  pending : outlet.sink.commit = .pending -> written = [] /\ outlet.hasBegun = false /\
    (outlet.isOver = false -> outlet.sink.head = none)
  streaming : outlet.sink.commit = .streaming -> exists headers, outlet.sink.head = some (.stream headers)
  failure : forall status text, outlet.sink.head = some (.failed status text) ->
    status = 500 /\ text = internalFaultText /\ written = [] /\ outlet.hasBegun = false

namespace Answered

variable {written : List Bytes} {heads : List ResponseHead} {frames : List Bytes} {outlet next : Outlet}

theorem unput {body : Channel Bytes} (same : body.place = outlet.sink.body.place)
    (after : Answered written heads frames next) :
    Answered (written ++ outlet.sink.body.arrival body) heads frames next := by
  rw [Channel.arrival_of_same same, List.append_nil]
  exact after

theorem going_of_emitting (before : Answered written heads frames outlet) (emitting : outlet.emitting = true) :
    outlet.isOver = false := by
  cases through : outlet.isOver with
  | false => rfl
  | true => rw [before.settled through] at emitting; cases emitting

theorem fail (before : Answered written heads frames outlet) (going : outlet.isOver = false) :
    Answered written heads frames { outlet with sink := outlet.sink.failInternal.2 } := by
  constructor
  case told =>
    refine before.told.decide fun first decided => ?_
    simp only [Sink.failInternal_head]
    split <;> simp [decided]
  case content => simpa using before.content
  case present => simpa using before.present
  case refusing => simpa using before.refusing
  case served => simp only [Sink.failInternal_body]; exact before.served
  case senders => simpa using before.senders
  case settled => exact before.settled
  case pending => simp
  case streaming => simp
  case failure =>
    intro status text decided
    simp only [Sink.failInternal_head] at decided
    split at decided
    -- Where nothing was decided nothing was written either.
    next pending =>
      obtain ⟨unwritten, unbegun, undecided⟩ := before.pending pending
      rw [undecided going] at decided
      cases decided
      exact ⟨rfl, rfl, unwritten, unbegun⟩
    next => exact before.failure status text decided

theorem settle (before : Answered written heads frames outlet) (body : Channel Bytes)
    (emitting : outlet.emitting = true) (place : body.place = outlet.sink.body.place)
    (receiving : body.receiving = outlet.sink.body.receiving)
    (senders : body.senders = outlet.sink.body.senders) :
    Answered written heads frames { outlet with
      writer := none, emitting := false, sink := { outlet.sink with body }.dropHandle } := by
  have shared : body.senders = 2 := by
    rw [senders, before.senders (before.going_of_emitting emitting), emitting]
    rfl
  have head : Sink.head { outlet.sink with body }.dropHandle = outlet.sink.head :=
    Sink.dropHandle_head_of_shared _ shared
  constructor
  case told => rw [head]; exact before.told
  case content => simpa [Channel.dropSender, place, receiving] using before.content
  case present => simpa [Channel.dropSender, receiving] using before.present
  case refusing => simpa [Channel.dropSender, place, receiving] using before.refusing
  case served => simp
  case senders => simp [Channel.dropSender, shared]
  case settled => simp
  case pending =>
    intro pending
    obtain ⟨unwritten, -, undecided⟩ := before.pending (by simpa using pending)
    exact ⟨unwritten, rfl, fun going => head.trans (undecided going)⟩
  case streaming => rw [head]; simpa using before.streaming
  case failure =>
    rw [head]
    intro status text decided
    obtain ⟨internal, fault, unwritten, -⟩ := before.failure status text decided
    exact ⟨internal, fault, unwritten, rfl⟩

theorem replace (before : Answered written heads frames outlet) (writer : Option Writer) (headers : Headers)
    (unbegun : outlet.hasBegun = false -> (writer.map Writer.hasBegun).getD false = false)
    (served : outlet.sink.body.receiving = true -> outlet.emitting = true ->
      outlet.sink.body.Serves Session.emitterHandle ((writer.map Writer.isWaiting).getD false)) :
    Answered written heads frames { outlet with writer, sink := { outlet.sink with headers } } := by
  obtain ⟨told, content, present, refusing, -, senders, settled, pending, streaming, failure⟩ := before
  refine ⟨told, content, present, refusing, served, senders, settled, ?_, streaming, ?_⟩
  next =>
    intro uncommitted
    obtain ⟨unwritten, idle, undecided⟩ := pending uncommitted
    exact ⟨unwritten, unbegun idle, undecided⟩
  next =>
    intro status text decided
    obtain ⟨internal, fault, unwritten, idle⟩ := failure status text decided
    exact ⟨internal, fault, unwritten, unbegun idle⟩

theorem write (before : Answered written heads frames outlet) {writer after : Writer} {sink : Sink}
    (emitting : outlet.emitting = true) (writing : outlet.writer = some writer)
    (moved : writer.Move Session.emitterHandle outlet.sink after sink) :
    Answered (written ++ outlet.sink.body.arrival sink.body) heads frames
      { outlet with writer := some after, sink } := by
  have going := before.going_of_emitting emitting
  have waits : outlet.isWaiting = writer.isWaiting := by simp [isWaiting, writing]
  have begun : outlet.hasBegun = writer.hasBegun := by simp [hasBegun, writing]
  have counted (chunk : Bytes) (offered : writer = .offering chunk \/ writer = .waiting chunk) :
      outlet.hasBegun = true := by
    rcases offered with rfl | rfl <;> exact begun
  -- A write that has begun has decided the head as a stream.
  have committed (chunk : Bytes) (offered : writer = .offering chunk \/ writer = .waiting chunk) :
      outlet.sink.commit ≠ .pending := by
    intro pending
    have unbegun := (before.pending pending).2.1
    rw [counted chunk offered] at unbegun
    cases unbegun
  have unfailed (chunk : Bytes) (offered : writer = .offering chunk \/ writer = .waiting chunk)
      (status : Nat) (text : String) : outlet.sink.head ≠ some (.failed status text) := by
    intro decided
    have unbegun := (before.failure status text decided).2.2.2
    rw [counted chunk offered] at unbegun
    cases unbegun
  cases moved with
  | count chunk _ accepted =>
    have body := Sink.beginWrite_body accepted
    obtain ⟨commit, decision⟩ := Sink.beginWrite_cases accepted
    obtain ⟨headers, stream⟩ : exists headers, sink.head = some (.stream headers) := by
      rcases decision with ⟨streaming, same⟩ | ⟨pending, decided⟩
      next => rw [same]; exact before.streaming streaming
      next =>
        rw [decided, (before.pending pending).2.2 going]
        exact ⟨_, rfl⟩
    refine unput (congrArg Channel.place body) ?_
    constructor
    case told =>
      refine before.told.decide fun first decided => ?_
      rcases decision with ⟨-, same⟩ | ⟨-, later⟩
      next => rw [same, decided]
      next => rw [later, decided]; rfl
    case content => rw [body]; exact before.content
    case present => rw [body]; exact before.present
    case refusing => rw [body]; exact before.refusing
    case served =>
      have served := before.served
      rw [waits] at served
      rw [body]
      exact served
    case senders => rw [body]; exact before.senders
    case settled => exact before.settled
    case pending => simp [commit]
    case streaming => exact fun _ => ⟨headers, stream⟩
    case failure => simp [stream]
  | refuse chunk failed =>
    have served := before.served
    rw [waits] at served
    exact unput rfl (before.replace _ outlet.sink.headers (fun _ => rfl) served)
  | put _ chunk offered unclosed granted =>
    have empty := (before.served unclosed emitting).place_of_granted granted
    have content := before.content unclosed
    rw [empty] at content
    rw [Channel.arrival_of_put empty]
    constructor
    case told => exact before.told.write [chunk]
    case content => intro _; simp [content]
    case present => exact before.present
    case refusing => intro closed; exact absurd (unclosed.symm.trans closed) (by simp)
    case served => intro _ _; exact (before.served unclosed emitting).put granted
    case senders => exact before.senders
    case settled => exact before.settled
    case pending => intro pending; exact absurd pending (committed chunk offered)
    case streaming => exact before.streaming
    case failure => intro status text decided; exact absurd decided (unfailed chunk offered status text)
  | queue _ chunk offered unclosed unpromised taken fresh =>
    refine unput rfl ?_
    constructor
    case told => exact before.told
    case content => exact before.content
    case present => exact before.present
    case refusing => exact before.refusing
    case served => intro _ _; exact (before.served unclosed emitting).queue unpromised taken fresh
    case senders => exact before.senders
    case settled => exact before.settled
    case pending => intro pending; exact absurd pending (committed chunk offered)
    case streaming => exact before.streaming
    case failure => intro status text decided; exact absurd decided (unfailed chunk offered status text)
  | abandon _ chunk offered closed =>
    refine unput rfl (before.replace _ outlet.sink.headers (fun _ => rfl) fun unclosed => ?_)
    exact absurd (closed.symm.trans unclosed) (by simp)

theorem finish (before : Answered written heads frames outlet) {sink : Sink} (going : outlet.isOver = false)
    (released : outlet.sink.Released sink) :
    Answered written heads frames { outlet with sink, writer := none, emitting := false, isOver := true } := by
  constructor
  case told =>
    refine before.told.decide fun first decided => ?_
    rcases released.head with same | ⟨-, later⟩
    next => rw [same, decided]
    next => rw [later, decided]; rfl
  case content => simpa only [released.receiving, released.place] using before.content
  case present => simpa only [released.receiving] using before.present
  case refusing => simpa only [released.receiving, released.place] using before.refusing
  case served => intro _ emitting; cases emitting
  case senders => intro going; cases going
  case settled => intro _; rfl
  case pending =>
    intro pending
    exact ⟨(before.pending (released.commit.symm.trans pending)).1, rfl, fun going => (by cases going)⟩
  case streaming =>
    intro streaming
    have streaming := released.commit.symm.trans streaming
    rcases released.head with same | ⟨pending, -⟩
    next => rw [same]; exact before.streaming streaming
    next => rw [streaming] at pending; cases pending
  case failure =>
    intro status text decided
    rcases released.head with same | ⟨pending, later⟩
    next =>
      obtain ⟨internal, fault, unwritten, -⟩ := before.failure status text (same.symm.trans decided)
      exact ⟨internal, fault, unwritten, rfl⟩
    next =>
      rw [later, (before.pending pending).2.2 going] at decided
      cases decided

theorem dropBody (before : Answered written heads frames outlet) {reader : Reader}
    {after : List ResponseHead} (left : reader = .gone \/ exists rest, reader = .message rest)
    (told : Told outlet.sink.head written reader after frames) :
    Answered written after frames { outlet with reader, sink := outlet.sink.dropBody } := by
  constructor
  case told => exact told
  case content => intro unclosed; cases unclosed
  case present => intro unclosed; cases unclosed
  case refusing => intro _; exact ⟨rfl, left⟩
  case served => intro unclosed; cases unclosed
  case senders => exact before.senders
  case settled => exact before.settled
  case pending => exact before.pending
  case streaming => exact before.streaming
  case failure => exact before.failure

theorem takeChunk (before : Answered written heads frames outlet) {chunk : Bytes}
    (streaming : outlet.reader = .body) (ready : outlet.sink.body.place = some chunk) :
    Answered written heads (frames ++ [chunk]) { outlet with
      reader := .body, sink := { outlet.sink with body := outlet.sink.body.taken } } := by
  have unclosed := Channel.receiving_of_place (fun closed => (before.refusing closed).1) ready
  have content : written = frames ++ [chunk] := by
    rw [before.content unclosed, ready]
    rfl
  constructor
  case told =>
    have told := before.told
    rw [streaming] at told
    cases told with
    | streaming headers _ decided => exact .streaming headers _ decided (content ▸ List.prefix_rfl)
  case content => intro _; rw [content]; simp [Channel.taken]
  case present => intro _; exact .inr rfl
  case refusing => intro closed; exact absurd (unclosed.symm.trans closed) (by simp)
  case served => intro _ emitting; exact (before.served unclosed emitting).taken (by simp [ready])
  case senders => exact before.senders
  case settled => exact before.settled
  case pending => exact before.pending
  case streaming => exact before.streaming
  case failure => exact before.failure

theorem read (before : Answered written heads frames outlet) {reader : Reader} {gotHeads : List ResponseHead}
    {gotFrames : List Bytes} (told : Told outlet.sink.head written reader gotHeads gotFrames)
    (present : outlet.sink.body.receiving = true -> gotFrames = frames /\ (reader = .asked \/ reader = .body))
    (refusing : outlet.sink.body.receiving = false -> reader = .gone \/ exists rest, reader = .message rest) :
    Answered written gotHeads gotFrames { outlet with reader } := by
  obtain ⟨-, content, -, refused, served, senders, settled, pending, streaming, failure⟩ := before
  refine ⟨told, ?_, fun unclosed => (present unclosed).2, ?_, served, senders, settled, pending, streaming, failure⟩
  next => intro unclosed; rw [(present unclosed).1]; exact content unclosed
  next => intro closed; exact ⟨(refused closed).1, refusing closed⟩

theorem move (before : Answered written heads frames outlet) {gotHeads : List ResponseHead}
    {gotFrames : List Bytes} (moved : outlet.Move gotHeads gotFrames next) :
    Answered (written ++ outlet.sink.body.arrival next.sink.body) (heads ++ gotHeads) (frames ++ gotFrames)
      next := by
  cases moved with
  | rest =>
    simp only [List.append_nil]
    exact unput rfl before
  | fail going =>
    simp only [List.append_nil]
    exact unput (by simp) (before.fail going)
  | begin chunk headers emitting idle =>
    simp only [List.append_nil]
    refine unput rfl (before.replace _ headers (fun _ => rfl) fun unclosed emitting => ?_)
    have served := before.served unclosed emitting
    rw [show outlet.isWaiting = false by simp [isWaiting, idle]] at served
    exact served
  | write writer after sink emitting writing moved =>
    simp only [List.append_nil]
    exact before.write emitting writing moved
  | wrote writing =>
    simp only [List.append_nil]
    refine unput rfl (before.replace _ outlet.sink.headers (fun _ => rfl) fun unclosed emitting => ?_)
    have served := before.served unclosed emitting
    rw [show outlet.isWaiting = false by simp [isWaiting, writing, Writer.isWaiting]] at served
    exact served
  | settle body emitting going place receiving senders =>
    simp only [List.append_nil]
    exact unput (by simpa [Channel.dropSender] using place) (before.settle body emitting place receiving senders)
  | settleFailed body emitting going place receiving senders =>
    simp only [List.append_nil]
    -- The handle goes first, and the failure is told by the one that the session keeps.
    have settled := before.settle body emitting place receiving senders
    exact unput (by simpa [Channel.dropSender] using place) (settled.fail going)
  | close going settled =>
    simp only [List.append_nil]
    have released : outlet.sink.Released outlet.sink.dropHandle := .dropHandle
    exact unput released.place (before.finish going released)
  | leave sink going closed released =>
    simp only [List.append_nil]
    exact unput released.place (before.finish going released)
  | receiveHead headers asked decided =>
    have told := before.told
    rw [asked] at told
    cases told
    refine unput rfl (before.read (.streaming headers [] decided List.nil_prefix) (fun _ => ⟨rfl, .inr rfl⟩) ?_)
    intro closed
    simpa [asked] using (before.refusing closed).2
  | receiveFault status text asked decided =>
    obtain ⟨rfl, rfl, -, -⟩ := before.failure status text decided
    have told := before.told
    rw [asked] at told
    cases told
    rw [Channel.arrival_of_empty rfl, List.append_nil]
    exact before.dropBody (.inr ⟨_, rfl⟩) (.fault decided)
  | takeChunk chunk streaming ready =>
    rw [Channel.arrival_of_empty rfl]
    simp only [List.append_nil]
    exact before.takeChunk streaming ready
  | takeText text answered unread =>
    have told := before.told
    rw [answered] at told
    simp only [List.append_nil]
    refine unput rfl (before.read ?_ ?_ fun _ => .inr ⟨[], rfl⟩)
    next =>
      cases told with
      | fault decided => exact .faultRead decided
      | faultRead => exact absurd rfl unread
    next =>
      intro unclosed
      simpa [answered] using before.present unclosed
  | disconnect present =>
    rw [Channel.arrival_of_empty rfl]
    simp only [List.append_nil]
    exact before.dropBody (.inl rfl) (.left _ _ before.told.got)

theorem receiving_of_stream (answered : Answered written heads frames outlet) (present : outlet.reader ≠ .gone)
    {headers : Headers} (decided : outlet.sink.head = some (.stream headers)) :
    outlet.sink.body.receiving = true := by
  cases receiving : outlet.sink.body.receiving with
  | true => rfl
  | false =>
    rcases (answered.refusing receiving).2 with gone | ⟨rest, answer⟩
    next => exact absurd gone present
    next =>
      have told := answered.told
      rw [answer, decided] at told
      cases told.of_message

theorem through_of_finished (answered : Answered written heads frames outlet)
    (unfaulted : forall status text, outlet.sink.head ≠ some (.failed status text))
    (finished : outlet.reader.read outlet.sink = some .finished) :
    outlet.reader = .body /\ outlet.sink.body.receiving = true /\ outlet.sink.body.place = none /\
      outlet.isOver = true := by
  have told := answered.told
  unfold Reader.read at finished
  split at finished
  next streaming =>
    obtain ⟨drained, unsent⟩ : outlet.sink.body.place = none /\ outlet.sink.body.senders = 0 := by
      split at finished
      next => cases finished
      next => cases finished
      next through => exact Channel.take_eq_finished_iff.1 through
    refine ⟨streaming, ?_, drained, ?_⟩
    next =>
      cases receiving : outlet.sink.body.receiving with
      | true => rfl
      | false => simpa [streaming] using (answered.refusing receiving).2
    next =>
      -- As long as the session goes on it keeps a handle of its own.
      cases going : outlet.isOver with
      | true => rfl
      | false =>
        have senders := answered.senders going
        rw [unsent] at senders
        split at senders <;> cases senders
  next rest answer =>
    rw [answer] at told
    exact absurd told.of_message (unfaulted _ _)
  next => cases finished

end Answered

end Outlet

inductive Emitter.Fresh : Emitter -> Prop
  | passthrough : Fresh (.passthrough .start)
  | transcoding (preset : Preset) : Fresh (.transcoding { preset })

namespace Session

theorem answered_start {emitter : Emitter} (fresh : emitter.Fresh) :
    (start emitter).Coherent /\ (start emitter).outlet.Answered [] [] [] := by
  have outlet : (start emitter).outlet =
      { sink := { body := { senders := 2 } }, writer := none, reader := .asked
        emitting := true, isOver := false } := by
    cases fresh <;> rfl
  refine ⟨?_, ?_⟩
  next =>
    intro passthrough same
    cases fresh with
    | passthrough => cases same; rfl
    | transcoding => cases same
  next =>
    rw [outlet]
    constructor
    case told => exact .nothing
    case served => exact fun _ _ => ⟨fun _ => ⟨rfl, rfl⟩, fun waits => (by cases waits)⟩
    all_goals simp [Outlet.hasBegun]

theorem answered_of_run {emitter : Emitter} (fresh : emitter.Fresh) {session : Session}
    {actions : List Action} (run : Run (start emitter) actions session) :
    session.Coherent /\ session.outlet.Answered (chunksWritten (start emitter) actions)
      (headsReceived actions) (framesTaken actions) := by
  refine run.keeps (fun done session => session.Coherent /\ session.outlet.Answered
    (chunksWritten (start emitter) done) (headsReceived done) (framesTaken done)) (answered_start fresh) ?_
  intro actions session action next run before possible
  have step := step_of_act possible
  rw [headsReceived_append, framesTaken_append, chunksWritten, trace_snoc bodyArrival run.reached possible]
  exact ⟨step.coherent before.1, before.2.move (step.outlet before.1)⟩

theorem heads_of_run {emitter : Emitter} (fresh : emitter.Fresh) {session : Session} {actions : List Action}
    (run : Run (start emitter) actions session) (head : ResponseHead) (got : head ∈ headsReceived actions) :
    exists decided, session.sink.head = some decided /\ decided.response = head := by
  refine run.keeps (fun done session => forall head, head ∈ headsReceived done ->
    exists decided, session.sink.head = some decided /\ decided.response = head) (fun _ got => by cases got) ?_ head got
  intro actions session action next run before possible head got
  have moved := (step_of_act possible).outlet (answered_of_run fresh run).1
  rw [headsReceived_append] at got
  rcases List.mem_append.1 got with earlier | now
  next =>
    obtain ⟨decided, known, told⟩ := before head earlier
    exact ⟨decided, moved.head known, told⟩
  next =>
    obtain ⟨decided, known, told⟩ := moved.received head now
    exact ⟨decided, moved.head known, told⟩

end Session

end VideoRelay
