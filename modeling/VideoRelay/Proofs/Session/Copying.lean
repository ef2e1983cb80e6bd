import VideoRelay.Proofs.Session.Answer
import VideoRelay.Proofs.Session.Storage

set_option autoImplicit false

namespace VideoRelay

def Passthrough.isBroken : Passthrough -> Bool
  | writing _ (.finished (.error _)) | finished (.error _) => true
  | _ => false

namespace Session

theorem Step.aside {session next : Session} {action : Action} {emitter : Passthrough}
    (step : session.Step action next) (mode : session.emitter = .passthrough emitter)
    (foreign : action ≠ .emit) : next.emitter = .passthrough emitter /\ session.bodyArrival next = [] := by
  cases step with
  | forward next going moved =>
    refine ⟨moved.emitter.1.trans mode, Channel.arrival_of_same ?_⟩
    cases moved with
    | refuse => simp [sink, withSink, ended]
    | header | datagram | put | queue | abandon | finish => rfl
  | emit => exact absurd rfl foreign
  | feed _ _ _ _ transcoding | fetch _ _ _ _ transcoding | abort _ _ transcoding | onCall _ _ _ transcoding =>
    rw [transcoding] at mode
    cases mode
  | join => exact ⟨mode, Channel.arrival_of_same Sink.Released.dropHandle.place⟩
  | leave =>
    exact ⟨cutShort_passthrough mode, Channel.arrival_of_same session.cutShort_released.place⟩
  | deliver | endStream | receiveHead | takeText => exact ⟨mode, Channel.arrival_of_same rfl⟩
  | receiveFault | takeChunk | disconnect => exact ⟨mode, Channel.arrival_of_empty rfl⟩

structure Copied (put written : List Bytes) (session : Session) (emitter : Passthrough) : Prop where
  mode : session.emitter = .passthrough emitter
  order : written ++ emitter.held <+: put
  whole : session.pipeline.chunks.receiving = true -> emitter.isBroken = false ->
    put = written ++ emitter.held ++ session.pipeline.chunks.place.toList

namespace Copied

variable {put written : List Bytes} {session next : Session} {emitter after : Passthrough}

theorem unput {body : Channel Bytes} (same : body.place = session.sink.body.place)
    (after : Copied put written next emitter) :
    Copied put (written ++ session.sink.body.arrival body) next emitter := by
  rw [Channel.arrival_of_same same, List.append_nil]
  exact after

theorem aside (before : Copied put written session emitter) (mode : next.emitter = .passthrough emitter)
    (chunks : next.pipeline.chunks.receiving = true -> session.pipeline.chunks.receiving = true /\
      next.pipeline.chunks.place = session.pipeline.chunks.place) : Copied put written next emitter := by
  refine ⟨mode, before.order, fun unclosed sound => ?_⟩
  rw [(chunks unclosed).2]
  exact before.whole (chunks unclosed).1 sound

theorem forward (before : Copied put written session emitter) (moved : session.Forwards next)
    (served : session.pipeline.chunks.receiving = true ->
      session.pipeline.chunks.Serves Forwarder.chunkSender session.forwarder.phase.isWaiting) :
    Copied (put ++ session.chunkArrival next) written next emitter := by
  have mode := moved.emitter.1.trans before.mode
  have same (unmoved : next.pipeline.chunks.place = session.pipeline.chunks.place)
      (still : next.pipeline.chunks.receiving = session.pipeline.chunks.receiving) :
      Copied (put ++ session.chunkArrival next) written next emitter := by
    rw [chunkArrival, Channel.arrival_of_same unmoved, List.append_nil]
    exact before.aside mode fun unclosed => ⟨still ▸ unclosed, unmoved⟩
  cases moved with
  | header | datagram | refuse | queue | abandon | finish => exact same rfl rfl
  | put payload held unclosed granted =>
    have empty := (served unclosed).place_of_granted granted
    refine ⟨mode, before.order.trans (List.prefix_append _ _), fun _ sound => ?_⟩
    have whole := before.whole unclosed sound
    simp only [empty, Option.toList_none, List.append_nil] at whole
    simp only [chunkArrival, Channel.arrival, empty, ← whole]

theorem settle (before : Copied put written session emitter) (outcome : Except Fault Unit) :
    Copied put (written ++ session.bodyArrival (session.stored outcome)) (session.stored outcome)
      (.finished outcome) := by
  have place : (session.stored outcome).sink.body.place = session.sink.body.place := by
    cases outcome <;> simp [stored, endEmitting, withSink, sink, Channel.dropSender]
  have closed : (session.stored outcome).pipeline.chunks.receiving = false := by
    cases outcome <;> rfl
  refine unput place ⟨(session.stored_emitter outcome).1, ?_, ?_⟩
  next => exact (List.prefix_append _ _).trans (by simpa [Passthrough.held] using before.order)
  next => intro unclosed; rw [closed] at unclosed; cases unclosed

theorem receive (before : Copied put written session emitter) {total : UInt64} {chunk : Bytes}
    (receiving : exists earlier, emitter = .receiving earlier)
    (ready : session.pipeline.chunks.place = some chunk)
    (lost : session.pipeline.chunks.receiving = false -> session.pipeline.chunks.place = none)
    (mode : next.emitter = .passthrough (.writing total (.starting chunk)))
    (taken : next.pipeline.chunks.place = none) :
    Copied put written next (.writing total (.starting chunk)) := by
  obtain ⟨earlier, rfl⟩ := receiving
  have unclosed := Channel.receiving_of_place lost ready
  have whole : put = written ++ [chunk] := by
    simpa [Passthrough.held, ready] using before.whole unclosed rfl
  refine ⟨mode, by rw [whole]; exact List.prefix_rfl, fun _ _ => ?_⟩
  rw [taken, whole]
  simp [Passthrough.held, Writer.held]

theorem write {total : UInt64} {writer later : Writer} {sink : Sink}
    (before : Copied put written session (.writing total writer))
    (moved : writer.Move emitterHandle session.sink later sink)
    (granted : session.sink.body.receiving = true ->
      session.sink.body.promised = some emitterHandle \/ session.sink.body.isFree = true ->
      session.sink.body.place = none) :
    Copied put (written ++ session.sink.body.arrival sink.body)
      { session with
        emitter := .passthrough (.writing total later), pipeline := { session.pipeline with sink } }
      (.writing total later) := by
  obtain ⟨mode, order, whole⟩ := before
  have lessened := (List.prefix_append _ _).trans order
  cases moved with
  | count chunk _ accepted =>
    exact unput (congrArg Channel.place (Sink.beginWrite_body accepted)) ⟨rfl, order, whole⟩
  | refuse chunk failed =>
    -- The chunk in hand is lost, and with it nothing that was written.
    have order : written ++ [] <+: put := by simpa using lessened
    exact unput rfl ⟨rfl, order, fun _ sound => (by cases sound)⟩
  | put _ chunk offered unclosed free =>
    have empty := granted unclosed free
    have held : writer.held = [chunk] := by rcases offered with rfl | rfl <;> rfl
    have sound : (Passthrough.writing total writer).isBroken = false := by
      rcases offered with rfl | rfl <;> rfl
    simp only [Passthrough.held, held] at order whole
    simp only [Channel.arrival, empty, Option.toList_some]
    refine ⟨rfl, by simpa [Passthrough.held, Writer.held] using order, fun unclosed _ => ?_⟩
    simpa [Passthrough.held, Writer.held] using whole unclosed sound
  | queue _ chunk offered =>
    have held : writer.held = [chunk] := by rcases offered with rfl | rfl <;> rfl
    have sound : (Passthrough.writing total writer).isBroken = false := by
      rcases offered with rfl | rfl <;> rfl
    simp only [Passthrough.held, held] at order whole
    exact unput rfl ⟨rfl, order, fun unclosed _ => whole unclosed sound⟩
  | abandon _ chunk offered closed =>
    have order : written ++ [] <+: put := by simpa using lessened
    exact unput rfl ⟨rfl, order, fun _ sound => (by cases sound)⟩

theorem stores (before : Copied put written session emitter) (moved : session.Stores emitter next)
    (lost : session.pipeline.chunks.receiving = false -> session.pipeline.chunks.place = none)
    (granted : session.sink.body.receiving = true ->
      session.sink.body.promised = some emitterHandle \/ session.sink.body.isFree = true ->
      session.sink.body.place = none) :
    exists after, Copied put (written ++ session.bodyArrival next) next after := by
  cases moved with
  | first chunk descriptor ready uncommitted =>
    have body : (descriptor.describe session.sink).body = session.sink.body := by
      rw [descriptor.describe_eq uncommitted]
    exact ⟨_, unput (congrArg Channel.place body) (before.receive ⟨0, rfl⟩ ready lost rfl rfl)⟩
  | next earlier chunk ready => exact ⟨_, unput rfl (before.receive ⟨earlier, rfl⟩ ready lost rfl rfl)⟩
  | undescribed | drain | unwritten => exact ⟨_, before.settle _⟩
  | write total writer later sink moved => exact ⟨_, before.write moved granted⟩
  | wrote total => exact ⟨.receiving total, unput rfl ⟨rfl, before.order, before.whole⟩⟩

end Copied

theorem Copied.act {messages : List StorageMessage} {put written : List Bytes} {heads : List ResponseHead}
    {frames : List Bytes} {session next : Session} {emitter : Passthrough} {action : Action}
    (before : Copied put written session emitter) (step : session.Step action next)
    (forwarded : Forwarded messages put session) (coherent : session.Coherent)
    (answered : session.outlet.Answered written heads frames) :
    exists after, Copied (put ++ session.chunkArrival next) (written ++ session.bodyArrival next) next after := by
  have mode := before.mode
  have sides := step.aside mode
  have aside (foreign : action ≠ .emit) (unput : session.chunkArrival next = [])
      (chunks : next.pipeline.chunks.receiving = true -> session.pipeline.chunks.receiving = true /\
        next.pipeline.chunks.place = session.pipeline.chunks.place) :
      exists after, Copied (put ++ session.chunkArrival next) (written ++ session.bodyArrival next) next after := by
    rw [unput, (sides foreign).2, List.append_nil, List.append_nil]
    exact ⟨emitter, before.aside (sides foreign).1 chunks⟩
  cases step with
  | forward _ going moved =>
    rw [(sides (by simp)).2, List.append_nil]
    exact ⟨emitter, before.forward moved forwarded.served⟩
  | emit stored _ going same moved =>
    obtain rfl : stored = emitter := by
      rw [mode] at same
      cases same
      rfl
    have emitting : session.outlet.emitting = true := by
      rw [outlet_passthrough coherent going mode, moved.unfinished]
      rfl
    have kept := moved.keepsStorage
    rw [kept.chunkArrival, List.append_nil]
    refine before.stores moved forwarded.lost fun unclosed free => ?_
    exact (answered.served unclosed emitting).place_of_granted free
  | feed _ _ _ _ transcoding | fetch _ _ _ _ transcoding | abort _ _ transcoding | onCall _ _ _ transcoding =>
    rw [transcoding] at mode
    cases mode
  | leave => exact aside (by simp) session.cutShort_keepsStorage.chunkArrival cutShort_unclosed
  | join | deliver | endStream | receiveHead | receiveFault | takeChunk | takeText | disconnect =>
    exact aside (by simp) (Channel.arrival_of_same rfl) fun unclosed => ⟨unclosed, rfl⟩

theorem copied_of_run {session : Session} {actions : List Action} (run : Run passthrough actions session) :
    exists emitter, Copied (chunksForwarded passthrough actions) (chunksWritten passthrough actions) session
      emitter := by
  refine run.keeps (fun done session => exists emitter, Copied (chunksForwarded passthrough done)
    (chunksWritten passthrough done) session emitter) ⟨.start, rfl, List.prefix_rfl, fun _ _ => rfl⟩ ?_
  intro actions session action next run before possible
  obtain ⟨emitter, before⟩ := before
  rw [chunksForwarded, chunksWritten, trace_snoc chunkArrival run.reached possible,
    trace_snoc bodyArrival run.reached possible]
  obtain ⟨coherent, answered⟩ := answered_of_run .passthrough run
  exact before.act (step_of_act possible) (forwarded_of_run run) coherent answered

end Session

end VideoRelay
