import VideoRelay.Proofs.Session.Copying

set_option autoImplicit false

namespace VideoRelay

def Descriptor.headers (descriptor : Descriptor) : Headers :=
  descriptor.named (descriptor.typed {})

namespace Session

structure Titled (session : Session) (emitter : Passthrough) : Prop where
  mode : session.emitter = .passthrough emitter
  opening : session.sink.commit = .pending ->
    emitter = .receiving 0 /\ session.sink.headers = {} \/
      (exists total chunk descriptor, emitter = .writing total (.starting chunk) /\
        session.pipeline.slot = some descriptor /\ session.sink.headers = descriptor.headers) \/
      emitter.outcome?.isSome = true
  titled : session.sink.commit ≠ .pending -> forall headers, session.sink.head = some (.stream headers) ->
    exists descriptor, session.pipeline.slot = some descriptor /\ headers = descriptor.headers
  blamed : forall status text, session.sink.head = some (.failed status text) ->
    exists fault, session.forwarded? = some (.error fault)

namespace Titled

variable {session next : Session} {emitter : Passthrough}

theorem committed (before : Titled session emitter) (unfinished : emitter.outcome? = none)
    (fresh : emitter ≠ .receiving 0) (begun : forall total chunk, emitter ≠ .writing total (.starting chunk)) :
    session.sink.commit ≠ .pending := by
  intro pending
  rcases before.opening pending with ⟨same, -⟩ | ⟨total, chunk, _, same, -⟩ | through
  next => exact fresh same
  next => exact begun total chunk same
  next => simp [unfinished] at through

theorem released (before : Titled session emitter) (mode : next.emitter = .passthrough emitter)
    (slot : next.pipeline.slot = session.pipeline.slot) (forwarder : next.forwarder = session.forwarder)
    (released : session.sink.Released next.sink) : Titled next emitter := by
  have forwarded : next.forwarded? = session.forwarded? := congrArg Forwarder.outcome? forwarder
  refine ⟨mode, ?_, ?_, ?_⟩
  next =>
    rw [released.commit, released.headers, slot]
    exact before.opening
  next =>
    rw [released.commit, slot]
    intro committed headers decided
    rcases released.head with same | ⟨pending, -⟩
    next => exact before.titled committed headers (same.symm.trans decided)
    next => exact absurd pending committed
  next =>
    rw [forwarded]
    intro status text decided
    refine before.blamed status text ?_
    rcases released.head with same | ⟨-, later⟩
    next => exact same.symm.trans decided
    next => cases head : session.sink.head <;> simp_all

theorem same (before : Titled session emitter) (mode : next.emitter = .passthrough emitter)
    (slot : next.pipeline.slot = session.pipeline.slot) (commit : next.sink.commit = session.sink.commit)
    (headers : next.sink.headers = session.sink.headers) (head : next.sink.head = session.sink.head)
    (forwarded : next.forwarded? = session.forwarded? \/ session.forwarded? = none) : Titled next emitter := by
  refine ⟨mode, ?_, ?_, ?_⟩
  next => rw [commit, headers, slot]; exact before.opening
  next => rw [commit, head, slot]; exact before.titled
  next =>
    rw [head]
    intro status text decided
    obtain ⟨fault, guilty⟩ := before.blamed status text decided
    rcases forwarded with same | unfinished
    next => exact ⟨fault, same.trans guilty⟩
    next => rw [unfinished] at guilty; cases guilty

theorem failed (before : Titled session emitter) {after : Passthrough} {sink : Sink}
    (mode : next.emitter = .passthrough after) (slot : next.pipeline.slot = session.pipeline.slot)
    (commit : sink.commit = session.sink.commit) (head : sink.head = session.sink.head)
    (undecided : session.sink.commit = .pending -> session.sink.head = none)
    (failed : next.sink = sink.failInternal.2)
    (blamed : (exists fault, next.forwarded? = some (.error fault)) \/
      session.sink.commit ≠ .pending /\ next.forwarded? = session.forwarded?) : Titled next after := by
  refine ⟨mode, ?_, ?_, ?_⟩
  next => rw [failed]; simp
  next =>
    rw [failed, slot, Sink.failInternal_head, commit, head]
    intro _ headers decided
    split at decided
    next pending => rw [undecided pending] at decided; cases decided
    next committed => exact before.titled committed headers decided
  next =>
    intro status text decided
    rcases blamed with guilty | ⟨committed, forwarded⟩
    next => exact guilty
    next =>
      rw [failed, Sink.failInternal_head, commit, head, if_neg committed] at decided
      rw [forwarded]
      exact before.blamed status text decided

theorem forward (before : Titled session emitter) (moved : session.Forwards next)
    (undecided : session.sink.commit = .pending -> session.sink.head = none) : Titled next emitter := by
  have mode := moved.emitter.1.trans before.mode
  have unfinished := moved.unfinished
  cases moved with
  | datagram | put | queue | abandon | finish => exact before.same mode rfl rfl rfl rfl (.inr unfinished)
  | refuse message rest fault => exact before.failed mode rfl rfl rfl undecided rfl (.inl ⟨fault, rfl⟩)
  | header video rest reading unclosed ready first unset =>
    refine ⟨mode, ?_, ?_, ?_⟩
    next =>
      intro pending
      rcases before.opening pending with fresh | ⟨_, _, descriptor, -, slotted, -⟩ | through
      next => exact .inl fresh
      next => rw [unset] at slotted; cases slotted
      next => exact .inr (.inr through)
    next =>
      intro committed headers decided
      obtain ⟨descriptor, slotted, -⟩ := before.titled committed headers decided
      rw [unset] at slotted
      cases slotted
    next =>
      intro status text decided
      obtain ⟨fault, guilty⟩ := before.blamed status text decided
      rw [unfinished] at guilty
      cases guilty

theorem write {total : UInt64} {writer later : Writer} {sink : Sink}
    (before : Titled session (.writing total writer))
    (moved : writer.Move emitterHandle session.sink later sink)
    (undecided : session.sink.commit = .pending -> session.sink.head = none) :
    Titled { session with
      emitter := .passthrough (.writing total later), pipeline := { session.pipeline with sink } }
      (.writing total later) := by
  have begun (chunk : Bytes) (offered : writer = .offering chunk \/ writer = .waiting chunk) :
      session.sink.commit ≠ .pending := by
    refine before.committed rfl (by simp) fun total first same => ?_
    rcases offered with rfl | rfl <;> cases same
  cases moved with
  | count chunk _ accepted =>
    obtain ⟨commit, decision⟩ := Sink.beginWrite_cases accepted
    refine ⟨rfl, fun pending => ?_, fun _ headers decided => ?_, fun status text decided => ?_⟩
    next => rw [show sink.commit = .pending from pending] at commit; cases commit
    next =>
      rcases decision with ⟨streaming, same⟩ | ⟨pending, first⟩
      next => exact before.titled (by simp [streaming]) headers (same.symm.trans decided)
      next =>
        rw [show sink.head = some (.stream headers) from decided, undecided pending] at first
        cases first
        -- The head is decided here, with the fields that the first chunk has set.
        rcases before.opening pending with ⟨fresh, -⟩ | ⟨_, _, descriptor, -, slotted, headers⟩ | through
        next => cases fresh
        next => exact ⟨descriptor, slotted, headers⟩
        next => cases through
    next =>
      rcases decision with ⟨-, same⟩ | ⟨pending, first⟩
      next => exact before.blamed status text (same.symm.trans decided)
      next =>
        rw [show sink.head = some (.failed status text) from decided, undecided pending] at first
        cases first
  | refuse chunk failed =>
    exact ⟨rfl, fun pending => (by cases failed.symm.trans pending), before.titled, before.blamed⟩
  | put _ chunk offered | queue _ chunk offered | abandon _ chunk offered =>
    exact ⟨rfl, fun pending => absurd pending (begun chunk offered), before.titled, before.blamed⟩

theorem settle (before : Titled session emitter) (outcome : Except Fault Unit)
    (shared : session.sink.body.senders = 2)
    (undecided : session.sink.commit = .pending -> session.sink.head = none)
    (committed : (exists fault, outcome = .error fault) -> session.sink.commit ≠ .pending) :
    Titled (session.stored outcome) (.finished outcome) := by
  have head := Sink.dropHandle_head_of_shared session.sink shared
  have mode := (session.stored_emitter outcome).1
  cases outcome with
  | ok _ =>
    refine ⟨mode, fun _ => .inr (.inr rfl), ?_, ?_⟩
    next =>
      intro committed headers decided
      exact before.titled (by simpa [stored, endEmitting, sink] using committed) headers (head.symm.trans decided)
    next => exact fun status text decided => before.blamed status text (head.symm.trans decided)
  | error fault =>
    exact before.failed mode rfl (Sink.dropHandle_commit _) head undecided rfl
      (.inr ⟨committed ⟨fault, rfl⟩, rfl⟩)

theorem stores (before : Titled session emitter) (moved : session.Stores emitter next)
    (filled : session.pipeline.chunks.place.isSome = true -> session.pipeline.slot.isSome = true)
    (shared : session.sink.body.senders = 2)
    (undecided : session.sink.commit = .pending -> session.sink.head = none) :
    exists after, Titled next after := by
  cases moved with
  | first chunk descriptor ready uncommitted slotted =>
    have pending := session.sink.isCommitted_eq_false_iff.1 uncommitted
    have described := descriptor.describe_eq uncommitted
    have undecided : (descriptor.describe session.sink).head = session.sink.head := by rw [described]
    refine ⟨.writing (.ofNat chunk.length) (.starting chunk), rfl, fun _ => .inr (.inl ?_), ?_, ?_⟩
    next =>
      refine ⟨_, _, descriptor, rfl, slotted, ?_⟩
      rcases before.opening pending with ⟨-, fresh⟩ | ⟨_, _, _, begun, -⟩ | through
      next =>
        show (descriptor.describe session.sink).headers = _
        rw [described, fresh]
        rfl
      next => cases begun
      next => cases through
    next =>
      intro committed
      refine absurd ?_ committed
      show (descriptor.describe session.sink).commit = .pending
      rw [described]
      exact pending
    next => exact fun status text decided => before.blamed status text (undecided.symm.trans decided)
  | next written chunk ready described =>
    -- Behind a first chunk of no bytes the total is still 0, but its write has decided the head.
    have committed : session.sink.commit ≠ .pending := by
      intro pending
      refine before.committed rfl (fun fresh => ?_) (by simp) pending
      cases fresh
      simp [session.sink.isCommitted_eq_false_iff.2 pending] at described
    exact ⟨_, rfl, fun pending => absurd pending committed, before.titled, before.blamed⟩
  | undescribed chunk ready uncommitted unslotted =>
    have slotted := filled (by simp [ready])
    simp [unslotted] at slotted
  | drain => exact ⟨_, before.settle _ shared undecided fun ⟨_, failed⟩ => (by cases failed)⟩
  | unwritten total fault =>
    exact ⟨_, before.settle _ shared undecided fun _ => before.committed rfl (by simp) (by simp)⟩
  | write total writer later sink moved => exact ⟨_, before.write moved undecided⟩
  | wrote total =>
    have committed := before.committed rfl (by simp) (by simp)
    exact ⟨.receiving total, rfl, fun pending => absurd pending committed, before.titled, before.blamed⟩

theorem act {written : List Bytes} {heads : List ResponseHead} {frames : List Bytes} {action : Action}
    (before : Titled session emitter) (step : session.Step action next)
    (filled : session.pipeline.chunks.place.isSome = true -> session.pipeline.slot.isSome = true)
    (coherent : session.Coherent)
    (answered : session.outlet.Answered written heads frames) : exists after, Titled next after := by
  have mode := before.mode
  cases step with
  | forward _ going moved => exact ⟨emitter, before.forward moved fun pending => (answered.pending pending).2.2 going⟩
  | emit stored _ going same moved =>
    obtain rfl : stored = emitter := by
      rw [mode] at same
      cases same
      rfl
    have shared := answered.senders going
    rw [outlet_passthrough coherent going mode, moved.unfinished] at shared
    exact before.stores moved filled shared fun pending => (answered.pending pending).2.2 going
  | feed _ _ _ _ transcoding | fetch _ _ _ _ transcoding | abort _ _ transcoding | onCall _ _ _ transcoding =>
    rw [transcoding] at mode
    cases mode
  | leave =>
    exact ⟨emitter, before.released (cutShort_passthrough mode)
      session.cutShort_keepsStorage.slot session.cutShort_keepsStorage.forwarder session.cutShort_released⟩
  | join => exact ⟨emitter, before.released mode rfl rfl .dropHandle⟩
  | deliver | endStream | receiveHead | receiveFault | takeChunk | takeText | disconnect =>
    exact ⟨emitter, before.same mode rfl rfl rfl rfl (.inl rfl)⟩

end Titled

theorem titled_of_run {session : Session} {actions : List Action} (run : Run passthrough actions session) :
    exists emitter, Titled session emitter := by
  refine run.keeps (fun _ session => exists emitter, Titled session emitter) ⟨.start, rfl, ?_, ?_, ?_⟩ ?_
  next => exact fun _ => .inl ⟨rfl, rfl⟩
  next => intro committed; exact absurd rfl committed
  next => intro status text decided; cases decided
  intro actions session action next run before possible
  obtain ⟨emitter, before⟩ := before
  obtain ⟨coherent, answered⟩ := answered_of_run .passthrough run
  exact before.act (step_of_act possible) (forwarded_of_run run).filled coherent answered

end Session

end VideoRelay
