import VideoRelay.Proofs.Sink.Shared

set_option autoImplicit false

namespace VideoRelay

def Writer.offered? : Writer -> Option Bytes
  | offering chunk | waiting chunk => some chunk
  | starting _ | finished _ => none

theorem Writer.offered?_eq_some_iff {writer : Writer} {chunk : Bytes} :
    writer.offered? = some chunk <-> writer = offering chunk \/ writer = waiting chunk := by
  cases writer <;> simp [offered?]

namespace SharedSink

def pending? (shared : SharedSink) (index : Nat) : Option Bytes :=
  shared.writes[index]?.join.bind Writer.offered?

inductive Acts (shared : SharedSink) : Action -> SharedSink -> Prop
  | use (use : SinkUse) (next : SharedSink) (performed : shared.Performs use next) : Acts shared (.use use) next
  | put (index : Nat) (chunk : Bytes) (pending : shared.pending? index = some chunk)
      (unclosed : shared.sink.body.receiving = true)
      (granted : shared.sink.body.promised = some index \/ shared.sink.body.isFree = true) :
      Acts shared (.resume index) { shared with
        writes := shared.writes.set index (some (.finished (.ok ())))
        sink := { shared.sink with body := { shared.sink.body with place := some chunk, promised := none } } }
  | queue (index : Nat) (chunk : Bytes) (pending : shared.pending? index = some chunk)
      (unclosed : shared.sink.body.receiving = true) (unpromised : shared.sink.body.promised ≠ some index)
      (taken : shared.sink.body.isFree = false) (fresh : index ∉ shared.sink.body.waiting) :
      Acts shared (.resume index) { shared with
        writes := shared.writes.set index (some (.waiting chunk))
        sink := { shared.sink with body := { shared.sink.body with
          waiting := shared.sink.body.waiting ++ [index] } } }
  | refuse (index : Nat) (chunk : Bytes) (pending : shared.pending? index = some chunk)
      (closed : shared.sink.body.receiving = false) :
      Acts shared (.resume index) { shared with
        writes := shared.writes.set index (some (.finished (.error Sink.clientGone))) }
  | abandon (index : Nat) (writer : Writer) (there : shared.writes[index]? = some (some writer)) :
      Acts shared (.abandon index) { shared with
        sink := { shared.sink with body := shared.sink.body.withdraw index }
        writes := shared.writes.set index none }
  | ask (unasked : shared.reader = .unasked) : Acts shared .ask { shared with reader := .asked }
  | receiveStream (headers : Headers) (asked : shared.reader = .asked)
      (decided : shared.sink.head = some (.stream headers)) :
      Acts shared .receiveHead { shared with reader := .body }
  | receiveFault (status : Nat) (text : String) (asked : shared.reader = .asked)
      (decided : shared.sink.head = some (.failed status text)) :
      Acts shared .receiveHead { shared with
        reader := .message (Text.utf8Bytes text), sink := shared.sink.dropBody }
  | takeChunk (chunk : Bytes) (streaming : shared.reader = .body) (ready : shared.sink.body.place = some chunk) :
      Acts shared .takeFrame { shared with
        reader := .body, sink := { shared.sink with body := shared.sink.body.taken } }
  | takeText (rest : Bytes) (telling : shared.reader = .message rest) (more : rest ≠ []) :
      Acts shared .takeFrame { shared with reader := .message [] }
  | leave : Acts shared .leave { shared with reader := .gone, sink := shared.sink.dropBody }

variable {shared next : SharedSink} {action : Action}

theorem pending?_of_writes {index : Nat} {writer : Writer} (there : shared.writes[index]? = some (some writer)) :
    shared.pending? index = writer.offered? := by
  rw [pending?, there, Option.join_some, Option.bind_some]

theorem pending?_eq_some_iff {index : Nat} {chunk : Bytes} : shared.pending? index = some chunk <->
    exists writer, shared.writes[index]? = some (some writer) /\ writer.offered? = some chunk := by
  simp only [pending?, Option.bind_eq_some_iff, Option.join_eq_some_iff]

theorem acts_of_resume {index : Nat} {writer after : Writer} {sink : Sink}
    (there : shared.writes[index]? = some (some writer)) (begun : forall chunk, writer ≠ .starting chunk)
    (stepped : writer.step index shared.sink = some (after, sink)) :
    shared.Acts (.resume index) { shared with sink, writes := shared.writes.set index (some after) } := by
  have pending {chunk : Bytes} (offered : writer = .offering chunk \/ writer = .waiting chunk) :
      shared.pending? index = some chunk :=
    (pending?_of_writes there).trans (Writer.offered?_eq_some_iff.2 offered)
  cases Writer.move_of_step stepped with
  | count chunk | refuse chunk => exact absurd rfl (begun chunk)
  | put _ chunk offered unclosed granted => exact .put index chunk (pending offered) unclosed granted
  | queue _ chunk offered unclosed unpromised taken fresh =>
    exact .queue index chunk (pending offered) unclosed unpromised taken fresh
  | abandon _ chunk offered closed => exact .refuse index chunk (pending offered) closed

theorem acts_of_act (begun : shared.Begun) (acted : shared.act action = some next) : shared.Acts action next := by
  -- Along the branches of the step function, each of which is one move.
  unfold act at acted
  split at acted
  next use => exact .use use next (performs_of_perform acted).2
  next index =>
    split at acted
    next writer found =>
      obtain ⟨⟨after, sink⟩, stepped, rfl⟩ := Option.map_eq_some_iff.1 acted
      exact acts_of_resume found (begun writer (List.mem_of_getElem? found)) stepped
    next => cases acted
  next index =>
    split at acted
    next writer found => cases acted; exact .abandon index writer found
    next => cases acted
  next =>
    split at acted
    next unasked => cases acted; exact .ask unasked
    next => cases acted
  next =>
    obtain ⟨⟨head, reader, sink⟩, received, rfl⟩ := Option.map_eq_some_iff.1 acted
    unfold Reader.receiveHead at received
    split at received
    next decided asked known =>
      split at received
      next headers => cases received; exact .receiveStream headers asked known
      next status text => cases received; exact .receiveFault status text asked known
    next => cases received
  next =>
    split at acted
    next frame reader sink read =>
      cases acted
      unfold Reader.read at read
      split at read
      next streaming =>
        split at read
        next chunk channel taken =>
          obtain ⟨ready, rfl⟩ := Channel.take_eq_item_iff.1 taken
          cases read
          exact .takeChunk frame streaming ready
        next => cases read
        next => cases read
      next rest telling =>
        split at read
        next => cases read
        next more => cases read; exact .takeText frame telling fun none => more (by rw [none]; rfl)
      next => cases read
    next => cases acted
  next => cases acted; exact .leave

def asksBy (shared : SharedSink) : Action -> List Nat
  | .resume index => match shared.writes[index]? with
    | some (some (.offering _)) => if shared.sink.body.receiving then [index] else []
    | _ => []
  | _ => []

def putsBy (shared : SharedSink) : Action -> List (Nat × Bytes)
  | .resume index => match shared.pending? index with
    | some chunk => match shared.sink.body.offer index chunk with
      | .taken _ => [(index, chunk)]
      | _ => []
    | none => []
  | _ => []

/-- Whom the slot is granted to: a write that finds it free, or the first in line once the slot is empty or the one that
it was promised to has given up. -/
def grantsBy (shared : SharedSink) : Action -> List Nat
  | .resume index => if shared.sink.body.promised = some index then [] else (shared.putsBy (.resume index)).map Prod.fst
  | .abandon index => if shared.sink.body.promised = some index then shared.sink.body.waiting.head?.toList else []
  | .takeFrame => match shared.reader, shared.sink.body.place with
    | .body, some _ => shared.sink.body.waiting.head?.toList
    | _, _ => []
  | _ => []

def quitsBy (shared : SharedSink) : Action -> List Nat
  -- To drop a write that is over is to forget it, not to give it up.
  | .abandon index => if (shared.pending? index).isSome then [index] else []
  | _ => []

def takesBy (shared : SharedSink) : Action -> List Bytes
  | .takeFrame => match shared.reader with
    | .body => shared.sink.body.place.toList
    | _ => []
  | _ => []

def asked (actions : List Action) : List Nat :=
  chronicle act asksBy {} actions

def puts (actions : List Action) : List (Nat × Bytes) :=
  chronicle act putsBy {} actions

def grants (actions : List Action) : List Nat :=
  chronicle act grantsBy {} actions

def quits (actions : List Action) : List Nat :=
  chronicle act quitsBy {} actions

def takes (actions : List Action) : List Bytes :=
  chronicle act takesBy {} actions

theorem writes_set {index : Nat} {old : Option Writer} (there : shared.writes[index]? = some old)
    (after : Option Writer) (other : Nat) :
    (shared.writes.set index after)[other]? = if other = index then some after else shared.writes[other]? := by
  have within := (List.getElem?_eq_some_iff.1 there).1
  rw [List.getElem?_set]
  by_cases same : other = index
  next => simp [same, within]
  next => rw [if_neg same, if_neg (Ne.symm same)]

theorem pending?_set {index : Nat} {old after : Option Writer} (there : shared.writes[index]? = some old)
    (writes : next.writes = shared.writes.set index after) (other : Nat) :
    next.pending? other = if other = index then after.bind Writer.offered? else shared.pending? other := by
  rw [pending?, writes, writes_set there]
  split
  next => rfl
  next => rfl

theorem writes_snoc (shared : SharedSink) (writer : Option Writer) (index : Nat) :
    (shared.writes ++ [writer])[index]? = if index = shared.writes.length then some writer else shared.writes[index]? := by
  rw [List.getElem?_append]
  split
  next earlier => rw [if_neg (Nat.ne_of_lt earlier)]
  next =>
    split
    next same => simp [same]
    next => rw [List.getElem?_eq_none (by simp; omega), List.getElem?_eq_none (by omega)]

theorem putsBy_of_granted {index : Nat} {chunk : Bytes} (pending : shared.pending? index = some chunk)
    (unclosed : shared.sink.body.receiving = true)
    (granted : shared.sink.body.promised = some index \/ shared.sink.body.isFree = true) :
    shared.putsBy (.resume index) = [(index, chunk)] := by
  simp only [putsBy, pending, Channel.offer_eq_taken_iff.2 ⟨unclosed, granted, rfl⟩]

theorem putsBy_of_queued {index : Nat} {chunk : Bytes} (pending : shared.pending? index = some chunk)
    (unclosed : shared.sink.body.receiving = true) (unpromised : shared.sink.body.promised ≠ some index)
    (taken : shared.sink.body.isFree = false) (fresh : index ∉ shared.sink.body.waiting) :
    shared.putsBy (.resume index) = [] := by
  simp only [putsBy, pending, Channel.offer_eq_queued_iff.2 ⟨unclosed, unpromised, taken, fresh, rfl⟩]

theorem putsBy_of_closed {index : Nat} {chunk : Bytes} (pending : shared.pending? index = some chunk)
    (closed : shared.sink.body.receiving = false) : shared.putsBy (.resume index) = [] := by
  simp only [putsBy, pending, Channel.offer_eq_closed_iff.2 closed]

end SharedSink

end VideoRelay
