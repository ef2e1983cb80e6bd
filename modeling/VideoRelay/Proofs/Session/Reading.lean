import VideoRelay.Proofs.Session.Accounting

set_option autoImplicit false

namespace VideoRelay

theorem plain_fault : Response.plain 500 internalFaultText = { head := .plain 500, body := [faultText] } := rfl

theorem Reader.read_body {sink : Sink} (drained : sink.body.place = none) (unsent : sink.body.senders = 0) :
    Reader.body.read sink = some .finished := by
  simp [read, Channel.take_eq_finished_iff.2 ⟨drained, unsent⟩]

namespace Session

variable {session next last : Session} {actions : List Action}

/-- The client has got a beginning of this response, and by reading on it gets the rest and finds the end, even if
nobody else moves any more. -/
def Answers (actions : List Action) (session : Session) (response : Response) : Prop :=
  exists heads frames last, Run session (heads.map .receiveHead ++ frames.map .takeFrame) last /\
    headsReceived actions ++ heads = [response.head] /\ framesTaken actions ++ frames = response.body /\
    last.reader.read last.sink = some .finished

/-- The client is answered with a stream of the chunks that reach the body slot. -/
structure Streams (initial : Session) (actions : List Action) (session : Session) (headers : Headers) : Prop where
  decided : session.sink.head = some (.stream headers)
  heads : headsReceived actions <+: [{ status := 200, headers }]
  frames : framesTaken actions <+: chunksWritten initial actions
  placed : chunksWritten initial actions <+: chunksAccepted initial actions
  whole : session.isOver = true ->
    Answers actions session { head := { status := 200, headers }, body := chunksWritten initial actions }

theorem Step.present {action : Action} (step : session.Step action next) (stays : action ≠ .disconnect)
    (gone : next.reader = .gone) : session.reader = .gone := by
  cases step with
  | forward _ _ moved => cases moved <;> exact gone
  | emit _ _ _ _ moved =>
    cases moved with
    | undescribed | drain | unwritten | first | next | write | wrote => exact gone
  | feed | fetch =>
    unfold afterLeg at gone
    split at gone
    next => exact gone
    next outcome _ => cases outcome <;> exact gone
  | abort => exact session.dropEmitter_dropped.reader.symm.trans gone
  | leave => exact (session.cutShort_ended.reader.trans session.emptied_dropped.reader).symm.trans gone
  | join | deliver | endStream | onCall => exact gone
  | receiveHead | receiveFault | takeChunk | takeText => cases gone
  | disconnect => exact absurd rfl stays

theorem present_of_run {emitter : Emitter} (run : Run (start emitter) actions session)
    (stays : .disconnect ∉ actions) : session.reader ≠ .gone := by
  refine run.keeps (fun done session => .disconnect ∉ done -> session.reader ≠ .gone) (fun _ => (by simp [start])) ?_
    stays
  intro actions session action next run before possible stays gone
  obtain ⟨stayed, still⟩ : .disconnect ∉ actions /\ action ≠ .disconnect := by
    simpa [not_or, eq_comm] using stays
  exact before stayed ((step_of_act possible).present still gone)

theorem act_receiveHead {headers : Headers} (asked : session.reader = .asked)
    (decided : session.sink.head = some (.stream headers)) :
    session.act (.receiveHead { status := 200, headers }) = some { session with reader := .body } := by
  simp [act, onClient, Reader.receiveHead, asked, decided, Head.response]
  rfl

theorem act_receiveFault {status : Nat} {text : String} (asked : session.reader = .asked)
    (decided : session.sink.head = some (.failed status text)) :
    session.act (.receiveHead (.plain status)) =
      some ({ session with reader := .message (Text.utf8Bytes text) }.withSink session.sink.dropBody) := by
  simp [act, onClient, Reader.receiveHead, asked, decided, Head.response]

theorem act_takeChunk {chunk : Bytes} (streaming : session.reader = .body)
    (ready : session.sink.body.place = some chunk) :
    session.act (.takeFrame chunk) =
      some ({ session with reader := .body }.withSink { session.sink with body := session.sink.body.taken }) := by
  have taken := Channel.take_eq_item_iff.2 ⟨ready, rfl⟩
  simp [act, onClient, Reader.read, streaming, taken]

theorem act_takeText {text : Bytes} (answered : session.reader = .message text) (unread : text ≠ []) :
    session.act (.takeFrame text) = some { session with reader := .message [] } := by
  simp [act, onClient, Reader.read, answered, unread]
  rfl

theorem reads_body (session : Session) (streaming : session.reader = .body) (unsent : session.sink.body.senders = 0) :
    exists last, Run session (session.sink.body.place.toList.map .takeFrame) last /\
      last.reader.read last.sink = some .finished := by
  cases place : session.sink.body.place with
  | none =>
    refine ⟨session, .done _, ?_⟩
    rw [streaming]
    exact Reader.read_body place unsent
  | some chunk => exact ⟨_, .act (act_takeChunk streaming place) (.done _), Reader.read_body rfl unsent⟩

theorem reads_fault (session : Session) (answer : session.reader = .message faultText) :
    exists last, Run session [.takeFrame faultText] last /\ last.reader.read last.sink = some .finished :=
  ⟨_, .act (act_takeText answer (by decide)) (.done _), rfl⟩

variable {written : List Bytes}

theorem answers_of_fault (answered : session.outlet.Answered written (headsReceived actions) (framesTaken actions))
    (present : session.reader ≠ .gone) (decided : session.sink.head = some (.failed 500 internalFaultText)) :
    Answers actions session (.plain 500 internalFaultText) := by
  rw [plain_fault]
  have told : Told session.sink.head written session.reader (headsReceived actions) (framesTaken actions) :=
    answered.told
  generalize received : headsReceived actions = heads, taken : framesTaken actions = frames,
    reading : session.reader = reader at told
  cases told with
  | nothing =>
    obtain ⟨last, run, finished⟩ :=
      reads_fault ({ session with reader := .message faultText }.withSink session.sink.dropBody) rfl
    refine ⟨[.plain 500], [faultText], last, .act (act_receiveFault reading decided) run, ?_, ?_, finished⟩
    next => rw [received]; rfl
    next => rw [taken]; rfl
  | streaming headers _ stream => rw [decided] at stream; cases stream
  | fault =>
    obtain ⟨last, run, finished⟩ := reads_fault session reading
    refine ⟨[], [faultText], last, run, ?_, ?_, finished⟩
    next => rw [received]; rfl
    next => rw [taken]; rfl
  | faultRead =>
    refine ⟨[], [], session, .done _, ?_, ?_, ?_⟩
    next => rw [received]; rfl
    next => rw [taken]; rfl
    next => rw [reading]; rfl
  | left => exact absurd reading present

theorem answers_of_stream {headers : Headers}
    (answered : session.outlet.Answered written (headsReceived actions) (framesTaken actions))
    (present : session.reader ≠ .gone) (decided : session.sink.head = some (.stream headers))
    (unsent : session.sink.body.receiving = true -> session.sink.body.senders = 0) :
    Answers actions session { head := { status := 200, headers }, body := written } := by
  have told : Told session.sink.head written session.reader (headsReceived actions) (framesTaken actions) :=
    answered.told
  have unclosed : session.sink.body.receiving = true := answered.receiving_of_stream present decided
  have content := answered.content unclosed
  generalize received : headsReceived actions = heads, taken : framesTaken actions = frames,
    reading : session.reader = reader at told
  cases told with
  | nothing =>
    obtain ⟨last, run, finished⟩ := reads_body { session with reader := .body } rfl (unsent unclosed)
    refine ⟨[{ status := 200, headers }], session.sink.body.place.toList, last,
      .act (act_receiveHead reading decided) run, ?_, ?_, finished⟩
    next => rw [received]; rfl
    next => exact content.symm
  | streaming other _ stream =>
    obtain rfl : headers = other := by
      rw [decided] at stream
      cases stream
      rfl
    obtain ⟨last, run, finished⟩ := reads_body session reading (unsent unclosed)
    refine ⟨[], session.sink.body.place.toList, last, run, ?_, content.symm, finished⟩
    rw [received, List.append_nil]
  | fault failed | faultRead failed => rw [decided] at failed; cases failed
  | left => exact absurd reading present

theorem streams_of_run {emitter : Emitter} (fresh : emitter.Fresh) (run : Run (start emitter) actions session)
    (stays : .disconnect ∉ actions) {headers : Headers} (decided : session.sink.head = some (.stream headers)) :
    Streams (start emitter) actions session headers := by
  obtain ⟨-, answered⟩ := answered_of_run fresh run
  have accounts := accounts_of_run fresh run
  have present := present_of_run run stays
  have told : Told session.sink.head (chunksWritten (start emitter) actions) session.reader (headsReceived actions)
    (framesTaken actions) := answered.told
  obtain ⟨heads, frames⟩ := told.beginning decided present
  exact ⟨decided, heads, frames, accounts.placed,
    fun through => answers_of_stream answered present decided (accounts.closes through)⟩

end Session

end VideoRelay
