import VideoRelay.Channel

set_option autoImplicit false

namespace VideoRelay

namespace Channel

variable {A : Type} {channel next : Channel A} {item : A} {sender : Nat}

def taken (channel : Channel A) : Channel A :=
  { channel with place := none, promised := channel.waiting.head?, waiting := channel.waiting.tail }

theorem take_eq_item_iff :
    channel.take = .item item next <-> channel.place = some item /\ next = channel.taken := by
  unfold take taken
  cases channel.place with
  | none => by_cases gone : channel.senders = 0 <;> simp [gone]
  | some first => simp [eq_comm]

theorem take_eq_finished_iff :
    channel.take = .finished <-> channel.place = none /\ channel.senders = 0 := by
  unfold take
  cases channel.place with
  | none => by_cases gone : channel.senders = 0 <;> simp [gone]
  | some first => simp

theorem take_eq_nothing_iff :
    channel.take = .nothing <-> channel.place = none /\ channel.senders ≠ 0 := by
  unfold take
  cases channel.place with
  | none => by_cases gone : channel.senders = 0 <;> simp [gone]
  | some first => simp

theorem receiving_of_place (lost : channel.receiving = false -> channel.place = none)
    (ready : channel.place = some item) : channel.receiving = true := by
  cases receiving : channel.receiving with
  | true => rfl
  | false =>
    rw [lost receiving] at ready
    cases ready

theorem isFree_iff : channel.isFree = true <->
    channel.place = none /\ channel.promised = none /\ channel.waiting = [] := by
  simp [isFree, and_assoc]

theorem offer_eq_closed_iff : channel.offer sender item = .closed <-> channel.receiving = false := by
  unfold offer
  cases channel.receiving <;> simp
  repeat' split
  all_goals simp

theorem offer_eq_taken_iff : channel.offer sender item = .taken next <->
    channel.receiving = true /\ (channel.promised = some sender \/ channel.isFree = true) /\
      next = { channel with place := some item, promised := none } := by
  obtain ⟨place, promised, waiting, senders, receiving⟩ := channel
  simp only [offer]
  cases receiving with
  | false => simp
  | true =>
    by_cases mine : promised = some sender
    next =>
      simp only [mine, Bool.not_true, Bool.false_eq_true, ↓reduceIte, Offer.taken.injEq, true_or, true_and]
      exact eq_comm
    next =>
      by_cases free : isFree (Channel.mk place promised waiting senders true) = true
      next =>
        obtain ⟨-, rfl, -⟩ := isFree_iff.1 free
        simp only [free, mine, Bool.not_true, Bool.false_eq_true, ↓reduceIte, Offer.taken.injEq, or_true,
          true_and]
        exact eq_comm
      next => by_cases queued : sender ∈ waiting <;> simp [mine, free, queued]

theorem offer_eq_queued_iff : channel.offer sender item = .queued next <->
    channel.receiving = true /\ channel.promised ≠ some sender /\ channel.isFree = false /\
      sender ∉ channel.waiting /\ next = { channel with waiting := channel.waiting ++ [sender] } := by
  unfold offer
  cases channel.receiving with
  | false => simp
  | true =>
    by_cases promised : channel.promised = some sender <;> by_cases free : channel.isFree = true <;>
      by_cases queued : sender ∈ channel.waiting <;> simp [promised, free, queued, eq_comm]

theorem offer_eq_blocked_iff : channel.offer sender item = .blocked <->
    channel.receiving = true /\ channel.promised ≠ some sender /\ channel.isFree = false /\
      sender ∈ channel.waiting := by
  unfold offer
  cases channel.receiving with
  | false => simp
  | true =>
    by_cases promised : channel.promised = some sender <;> by_cases free : channel.isFree = true <;>
      by_cases queued : sender ∈ channel.waiting <;> simp [promised, free, queued]

/-- What was put into the place between two states that are one step apart. -/
def arrival (before after : Channel A) : List A :=
  match before.place with
  | none => after.place.toList
  | some _ => []

theorem arrival_of_empty {before after : Channel A} (empty : after.place = none) :
    before.arrival after = [] := by
  unfold arrival
  cases before.place <;> simp [empty]

theorem arrival_of_same {before after : Channel A} (same : after.place = before.place) :
    before.arrival after = [] := by
  unfold arrival
  cases place : before.place <;> simp [same, place]

theorem arrival_of_put {channel : Channel A} {item : A} (empty : channel.place = none) :
    channel.arrival { channel with place := some item, promised := none } = [item] := by
  simp [arrival, empty]

structure Serves (channel : Channel A) (sender : Nat) (queued : Bool) : Prop where
  idle : queued = false -> channel.promised = none /\ channel.waiting = []
  inLine : queued = true ->
    channel.place.isSome = true /\ channel.promised = none /\ channel.waiting = [sender] \/
      channel.place = none /\ channel.promised = some sender /\ channel.waiting = []

namespace Serves

variable {queued : Bool}

theorem place_of_granted (serves : channel.Serves sender queued)
    (granted : channel.promised = some sender \/ channel.isFree = true) : channel.place = none := by
  rcases granted with promised | free
  next =>
    cases queued with
    | false => simp [(serves.idle rfl).1] at promised
    | true =>
      rcases serves.inLine rfl with ⟨-, unpromised, -⟩ | ⟨empty, -, -⟩
      next => simp [unpromised] at promised
      next => exact empty
  next => exact (isFree_iff.1 free).1

theorem taken (serves : channel.Serves sender queued) (ready : channel.place.isSome = true) :
    channel.taken.Serves sender queued := by
  constructor
  next =>
    intro free
    obtain ⟨-, line⟩ := serves.idle free
    simp [Channel.taken, line]
  next =>
    intro waits
    rcases serves.inLine waits with ⟨-, -, line⟩ | ⟨empty, -, -⟩
    next => simp [Channel.taken, line]
    next => simp [empty] at ready

theorem put (serves : channel.Serves sender queued)
    (granted : channel.promised = some sender \/ channel.isFree = true) :
    Serves { channel with place := some item, promised := none } sender false := by
  refine ⟨fun _ => ⟨rfl, ?_⟩, fun waits => by cases waits⟩
  rcases granted with promised | free
  next =>
    cases queued with
    | false => exact (serves.idle rfl).2
    | true =>
      rcases serves.inLine rfl with ⟨-, unpromised, -⟩ | ⟨-, -, line⟩
      next => simp [unpromised] at promised
      next => exact line
  next => exact (isFree_iff.1 free).2.2

theorem unqueued (serves : channel.Serves sender queued) (unpromised : channel.promised ≠ some sender)
    (fresh : sender ∉ channel.waiting) : queued = false := by
  cases queued with
  | false => rfl
  | true =>
    rcases serves.inLine rfl with ⟨-, -, line⟩ | ⟨-, promised, -⟩
    next => simp [line] at fresh
    next => exact absurd promised unpromised

theorem queue (serves : channel.Serves sender queued) (unpromised : channel.promised ≠ some sender)
    (full : channel.isFree = false) (fresh : sender ∉ channel.waiting) :
    Serves { channel with waiting := channel.waiting ++ [sender] } sender true := by
  obtain ⟨idle, line⟩ := serves.idle (serves.unqueued unpromised fresh)
  refine ⟨fun free => (by cases free), fun _ => .inl ⟨?_, idle, by simp [line]⟩⟩
  -- A place that is not free and promised to nobody has an item in it.
  cases place : channel.place with
  | some item => rfl
  | none => simp [isFree, place, idle, line] at full

theorem place_of_blocked (serves : channel.Serves sender queued)
    (blocked : channel.offer sender item = .blocked) : channel.place.isSome = true := by
  obtain ⟨-, unpromised, -, waits⟩ := offer_eq_blocked_iff.1 blocked
  cases queued with
  | false => simp [(serves.idle rfl).2] at waits
  | true =>
    rcases serves.inLine rfl with ⟨full, -, -⟩ | ⟨-, promised, -⟩
    next => exact full
    next => exact absurd promised unpromised

end Serves

inductive Drained (channel : Channel A) : Channel A -> Prop
  | same (senders : Nat) : Drained channel { channel with senders }
  | taken (senders : Nat) (ready : channel.place.isSome = true) :
      Drained channel { channel.taken with senders }
  | closed {after : Channel A} (refusing : after.receiving = false) (lost : after.place = none) :
      Drained channel after

namespace Drained

theorem arrival (drained : channel.Drained next) : channel.arrival next = [] := by
  cases drained with
  | same => exact arrival_of_same rfl
  | taken => exact arrival_of_empty rfl
  | closed refusing lost => exact arrival_of_empty lost

theorem receiving (drained : channel.Drained next) (closed : channel.receiving = false) :
    next.receiving = false := by
  cases drained with
  | same | taken => exact closed
  | closed refusing => exact refusing

theorem lost (drained : channel.Drained next)
    (empty : channel.receiving = false -> channel.place = none) (closed : next.receiving = false) :
    next.place = none := by
  cases drained with
  | same => exact empty closed
  | taken => rfl
  | closed _ lost => exact lost

theorem place (drained : channel.Drained next) (ready : next.place.isSome = true) :
    channel.place.isSome = true := by
  cases drained with
  | same => exact ready
  | taken => cases ready
  | closed _ lost => rw [lost] at ready; cases ready

theorem withSenders (drained : channel.Drained next) (senders : Nat) :
    channel.Drained { next with senders } := by
  cases drained with
  | same => exact .same senders
  | taken _ ready => exact .taken senders ready
  | closed refusing lost => exact .closed refusing lost

theorem serves {queued : Bool} (drained : channel.Drained next) (unclosed : next.receiving = true)
    (served : channel.receiving = true -> channel.Serves sender queued) : next.Serves sender queued := by
  cases drained with
  | same =>
    have serves := served unclosed
    exact ⟨serves.idle, serves.inLine⟩
  | taken _ ready =>
    have serves := (served unclosed).taken ready
    exact ⟨serves.idle, serves.inLine⟩
  | closed refusing =>
    rw [refusing] at unclosed
    cases unclosed

end Drained

end Channel

end VideoRelay
