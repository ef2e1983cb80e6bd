import VideoRelay.Proofs.Session.Answer
import VideoRelay.Proofs.Upload

set_option autoImplicit false

namespace VideoRelay

inductive Ruled (accepted : List Bytes) : Commit -> Option Head -> Prop
  | undecided (head : Option Head) (unaccepted : accepted = []) : Ruled accepted .pending head
  | streamed (commit : Commit) (headers : Headers) (committed : commit ≠ .pending) (begun : accepted ≠ []) :
      Ruled accepted commit (some (.stream headers))
  | faulted (status : Nat) (text : String) (unaccepted : accepted = []) :
      Ruled accepted .failed (some (.failed status text))

namespace Ruled

variable {accepted : List Bytes} {sink counted after : Sink}

theorem fail (ruled : Ruled accepted sink.commit sink.head)
    (undecided : sink.commit = .pending -> sink.head = none) :
    Ruled accepted sink.failInternal.2.commit sink.failInternal.2.head := by
  rw [Sink.failInternal_commit, Sink.failInternal_head]
  generalize sink.commit = commit, sink.head = head at ruled undecided
  cases ruled with
  | undecided _ unaccepted => rw [undecided rfl]; exact .faulted _ _ unaccepted
  | streamed _ headers committed begun => rw [if_neg committed]; exact .streamed .failed headers (by decide) begun
  | faulted status text unaccepted => exact .faulted status text unaccepted

theorem release (ruled : Ruled accepted sink.commit sink.head) (released : sink.Released after) :
    Ruled accepted after.commit after.head := by
  have stays (committed : sink.commit ≠ .pending) : after.head = sink.head := by
    rcases released.head with same | ⟨pending, -⟩
    next => exact same
    next => exact absurd pending committed
  rw [released.commit]
  generalize sink.commit = commit, sink.head = head at ruled stays
  cases ruled with
  | undecided _ unaccepted => exact .undecided _ unaccepted
  | streamed _ headers committed begun => rw [stays committed]; exact .streamed _ headers committed begun
  | faulted status text unaccepted => rw [stays (by decide)]; exact .faulted status text unaccepted

theorem count {chunk : Bytes} (ruled : Ruled accepted sink.commit sink.head)
    (undecided : sink.commit = .pending -> sink.head = none) (begun : sink.beginWrite chunk = .ok counted) :
    Ruled (accepted ++ [chunk]) counted.commit counted.head := by
  obtain ⟨commit, decision⟩ := Sink.beginWrite_cases begun
  rw [commit]
  rcases decision with ⟨streaming, same⟩ | ⟨pending, decided⟩
  next =>
    -- An earlier chunk has decided the head.
    rw [same]
    rw [streaming] at ruled
    generalize sink.head = head at ruled
    cases ruled with
    | streamed _ headers => exact .streamed _ headers (by decide) (by simp)
  next =>
    rw [decided, undecided pending]
    exact .streamed _ sink.headers (by decide) (by simp)

theorem of_failed {head : Option Head} (ruled : Ruled accepted .failed head) :
    (accepted = [] /\ exists status text, head = some (.failed status text)) \/
      (accepted ≠ [] /\ exists headers, head = some (.stream headers)) := by
  cases ruled with
  | streamed _ headers _ begun => exact .inr ⟨begun, headers, rfl⟩
  | faulted status text unaccepted => exact .inl ⟨unaccepted, status, text, rfl⟩

end Ruled

def Writer.begun : Writer -> List Bytes
  | offering chunk | waiting chunk => [chunk]
  | starting _ | finished _ => []

namespace Outlet

def begun (outlet : Outlet) : List Bytes :=
  (outlet.writer.map Writer.begun).getD []

def acceptance (before after : Outlet) : List Bytes :=
  match before.writer, after.writer with
  | some (.starting chunk), some (.offering _) => [chunk]
  | _, _ => []

theorem acceptance_of_rest {before after : Outlet}
    (rests : after.writer = before.writer \/ forall chunk, after.writer ≠ some (.offering chunk)) :
    before.acceptance after = [] := by
  unfold acceptance
  split
  next chunk other starting offering =>
    rcases rests with same | idle
    next => rw [same, starting] at offering; cases offering
    next => exact absurd offering (idle other)
  next => rfl

theorem Move.unaccepted {outlet next : Outlet} {heads : List ResponseHead} {frames : List Bytes}
    (moved : outlet.Move heads frames next) (failed : next.sink.commit = .failed) : outlet.acceptance next = [] := by
  cases moved with
  | rest | fail | receiveHead | receiveFault | takeChunk | takeText | disconnect => exact acceptance_of_rest (.inl rfl)
  | begin => exact acceptance_of_rest (.inr (by simp))
  | write writer after sink emitting writing moved =>
    cases moved with
    | count chunk _ accepts =>
      -- What accepts a chunk streams by then.
      exact absurd ((Sink.beginWrite_cases accepts).1.symm.trans failed) (by decide)
    | refuse | put | queue | abandon => exact acceptance_of_rest (.inr (by simp))
  | wrote | settle | settleFailed | close | leave => exact acceptance_of_rest (.inr (by simp))

structure Accounts (accepted written : List Bytes) (outlet : Outlet) : Prop where
  bytes : outlet.sink.written = .ofNat (byteCount accepted)
  order : outlet.emitting = true ->
    (exists fault, outlet.writer = some (.finished (.error fault))) \/ accepted = written ++ outlet.begun
  placed : written <+: accepted
  ruled : Ruled accepted outlet.sink.commit outlet.sink.head
  closes : outlet.isOver = true -> outlet.sink.body.receiving = true -> outlet.sink.body.senders = 0

namespace Accounts

variable {accepted written : List Bytes} {heads : List ResponseHead} {frames : List Bytes} {outlet next : Outlet}

theorem keep (before : Accounts accepted written outlet) (unaccepted : outlet.acceptance next = [])
    (unput : outlet.sink.body.arrival next.sink.body = []) (bytes : next.sink.written = outlet.sink.written)
    (order : next.emitting = true ->
      (exists fault, next.writer = some (.finished (.error fault))) \/ accepted = written ++ next.begun)
    (ruled : Ruled accepted next.sink.commit next.sink.head)
    (closes : next.isOver = true -> next.sink.body.receiving = true -> next.sink.body.senders = 0) :
    Accounts (accepted ++ outlet.acceptance next) (written ++ outlet.sink.body.arrival next.sink.body) next := by
  rw [unaccepted, unput, List.append_nil, List.append_nil]
  exact ⟨bytes.trans before.bytes, order, before.placed, ruled, closes⟩

theorem write (before : Accounts accepted written outlet) (answered : outlet.Answered written heads frames)
    {writer after : Writer} {sink : Sink} (emitting : outlet.emitting = true)
    (writing : outlet.writer = some writer) (moved : writer.Move Session.emitterHandle outlet.sink after sink) :
    Accounts (accepted ++ outlet.acceptance { outlet with writer := some after, sink })
      (written ++ outlet.sink.body.arrival sink.body) { outlet with writer := some after, sink } := by
  have going := answered.going_of_emitting emitting
  have goes {holds : Prop} (through : outlet.isOver = true) : holds := absurd (going.symm.trans through) (by decide)
  have undecided (pending : outlet.sink.commit = .pending) : outlet.sink.head = none :=
    (answered.pending pending).2.2 going
  -- A write that moves has not come to a fault, so that what was accepted is accounted for.
  have whole : accepted = written ++ writer.begun := by
    rcases before.order emitting with ⟨fault, broken⟩ | whole
    next =>
      rw [writing] at broken
      cases broken
      cases moved with
      | put _ _ offered | queue _ _ offered | abandon _ _ offered => rcases offered with same | same <;> cases same
    next => simpa [begun, writing] using whole
  have begins (chunk : Bytes) (offered : writer = .offering chunk \/ writer = .waiting chunk) :
      writer.begun = [chunk] := by
    rcases offered with rfl | rfl <;> rfl
  cases moved with
  | count chunk _ accepts =>
    have acceptance : outlet.acceptance { outlet with writer := some (.offering chunk), sink } = [chunk] := by
      simp [acceptance, writing]
    have body := Sink.beginWrite_body accepts
    rw [acceptance, body, Channel.arrival_of_same rfl, List.append_nil]
    simp only [Writer.begun, List.append_nil] at whole
    constructor
    case bytes => simp [Sink.beginWrite_written accepts, before.bytes]
    case order => exact fun _ => .inr (by simp [begun, Writer.begun, whole])
    case placed => exact before.placed.trans (List.prefix_append _ _)
    case ruled => exact before.ruled.count undecided accepts
    case closes => exact goes
  | refuse chunk failed =>
    exact before.keep (acceptance_of_rest (.inr (by simp))) (Channel.arrival_of_same rfl) rfl (fun _ => .inl ⟨_, rfl⟩)
      before.ruled goes
  | put _ chunk offered unclosed granted =>
    have empty := (answered.served unclosed emitting).place_of_granted granted
    rw [acceptance_of_rest (.inr (by simp)), Channel.arrival_of_put empty, List.append_nil]
    rw [begins chunk offered] at whole
    constructor
    case bytes => exact before.bytes
    case order => exact fun _ => .inr (by simpa [begun, Writer.begun] using whole)
    case placed => exact whole ▸ List.prefix_rfl
    case ruled => exact before.ruled
    case closes => exact goes
  | queue _ chunk offered =>
    rw [begins chunk offered] at whole
    exact before.keep (acceptance_of_rest (.inr (by simp))) (Channel.arrival_of_same rfl) rfl (fun _ => .inr whole)
      before.ruled goes
  | abandon =>
    exact before.keep (acceptance_of_rest (.inr (by simp))) (Channel.arrival_of_same rfl) rfl (fun _ => .inl ⟨_, rfl⟩)
      before.ruled goes

theorem move (before : Accounts accepted written outlet) (answered : outlet.Answered written heads frames)
    {gotHeads : List ResponseHead} {gotFrames : List Bytes} (moved : outlet.Move gotHeads gotFrames next) :
    Accounts (accepted ++ outlet.acceptance next) (written ++ outlet.sink.body.arrival next.sink.body) next := by
  have goes (going : outlet.isOver = false) {holds : Prop} (through : outlet.isOver = true) : holds :=
    absurd (going.symm.trans through) (by decide)
  -- The session has a handle of its own, so that the one the emitter gives back is not the last.
  have unshared (emitting : outlet.emitting = true) (going : outlet.isOver = false) {body : Channel Bytes}
      (senders : body.senders = outlet.sink.body.senders) :
      Sink.head { outlet.sink with body }.dropHandle = outlet.sink.head := by
    have shared := senders.trans (answered.senders going)
    rw [emitting] at shared
    exact Sink.dropHandle_head_of_shared _ shared
  cases moved with
  | rest | receiveHead | takeText =>
    exact before.keep (acceptance_of_rest (.inl rfl)) (Channel.arrival_of_same rfl) rfl before.order before.ruled
      before.closes
  | takeChunk =>
    exact before.keep (acceptance_of_rest (.inl rfl)) (Channel.arrival_of_empty rfl) rfl before.order before.ruled
      before.closes
  | receiveFault | disconnect =>
    exact before.keep (acceptance_of_rest (.inl rfl)) (Channel.arrival_of_empty rfl) rfl before.order before.ruled
      fun _ unclosed => (by cases unclosed)
  | fail going =>
    exact before.keep (acceptance_of_rest (.inl rfl)) (Channel.arrival_of_same (by simp)) (by simp) before.order
      (before.ruled.fail fun pending => (answered.pending pending).2.2 going) (goes going)
  | begin chunk headers emitting idle =>
    refine before.keep (acceptance_of_rest (.inr (by simp))) (Channel.arrival_of_same rfl) rfl (fun _ => ?_)
      before.ruled before.closes
    rcases before.order emitting with ⟨fault, broken⟩ | whole
    next => rw [idle] at broken; cases broken
    next => exact .inr (by simpa [begun, idle, Writer.begun] using whole)
  | write writer after sink emitting writing moved => exact before.write answered emitting writing moved
  | wrote writing =>
    refine before.keep (acceptance_of_rest (.inr (by simp))) (Channel.arrival_of_same rfl) rfl (fun emitting => ?_)
      before.ruled before.closes
    rcases before.order emitting with ⟨fault, broken⟩ | whole
    next => rw [writing] at broken; cases broken
    next => exact .inr (by simpa [begun, writing, Writer.begun] using whole)
  | settle body emitting going place receiving senders =>
    refine before.keep (acceptance_of_rest (.inr (by simp)))
      (Channel.arrival_of_same (by simpa [Channel.dropSender] using place)) (by simp) (fun emits => (by cases emits)) ?_
      (goes going)
    rw [Sink.dropHandle_commit, unshared emitting going senders]
    exact before.ruled
  | settleFailed body emitting going place receiving senders =>
    refine before.keep (acceptance_of_rest (.inr (by simp)))
      (Channel.arrival_of_same (by simpa [Channel.dropSender] using place)) (by simp) (fun emits => (by cases emits)) ?_
      (goes going)
    have kept := unshared emitting going senders
    refine Ruled.fail ?_ fun pending => ?_
    next => rw [Sink.dropHandle_commit, kept]; exact before.ruled
    next => rw [kept]; exact (answered.pending (by simpa using pending)).2.2 going
  | close going settled =>
    have released : outlet.sink.Released outlet.sink.dropHandle := .dropHandle
    refine before.keep (acceptance_of_rest (.inr (by simp))) (Channel.arrival_of_same released.place) (by simp)
      (fun emits => (by cases emits)) (before.ruled.release released) fun _ _ => ?_
    have alone := answered.senders going
    rw [settled] at alone
    simp [Channel.dropSender, alone]
  | leave sink going closed released =>
    refine before.keep (acceptance_of_rest (.inr (by simp))) (Channel.arrival_of_same released.place) released.written
      (fun emits => (by cases emits)) (before.ruled.release released) fun _ unclosed => ?_
    exact absurd (closed.symm.trans (released.receiving.symm.trans unclosed)) (by decide)

end Accounts

end Outlet

namespace Session

def acceptance (before after : Session) : List Bytes :=
  before.outlet.acceptance after.outlet

def chunksAccepted : Session -> List Action -> List Bytes :=
  trace act acceptance

theorem accounts_start {emitter : Emitter} (fresh : emitter.Fresh) : (start emitter).outlet.Accounts [] [] := by
  have idle : (start emitter).outlet.writer = none := by cases fresh <;> rfl
  refine ⟨rfl, fun _ => .inr ?_, List.prefix_rfl, .undecided none rfl, fun through => (by cases through)⟩
  simp [Outlet.begun, idle]

theorem accounts_of_run {emitter : Emitter} (fresh : emitter.Fresh) {session : Session} {actions : List Action}
    (run : Run (start emitter) actions session) :
    session.outlet.Accounts (chunksAccepted (start emitter) actions) (chunksWritten (start emitter) actions) := by
  refine run.keeps (fun done session => session.outlet.Accounts (chunksAccepted (start emitter) done)
    (chunksWritten (start emitter) done)) (accounts_start fresh) ?_
  intro actions session action next run before possible
  obtain ⟨coherent, answered⟩ := answered_of_run fresh run
  rw [chunksAccepted, chunksWritten, trace_snoc acceptance run.reached possible,
    trace_snoc bodyArrival run.reached possible]
  exact before.move answered ((step_of_act possible).outlet coherent)

end Session

end VideoRelay
