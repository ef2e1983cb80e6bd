import VideoRelay.Proofs.Forwarder
import VideoRelay.Proofs.Run

set_option autoImplicit false

namespace VideoRelay

/-- What the read of a whole stream comes to. -/
def Framing.verdict (stream : List StorageMessage) : Except Fault UInt64 :=
  match offence? false stream with
  | some fault => .error fault
  | none => .ok (.ofNat (byteCount (intact false stream)))

structure Forwarding where
  forwarder : Forwarder := {}
  pipeline : Pipeline := {}

namespace Forwarding

open Framing

inductive Action where
  | forward
  | take
  | leave
  | deliver (message : StorageMessage)
  | endStream

def outcome? (forwarding : Forwarding) : Option (Except Fault UInt64) :=
  forwarding.forwarder.outcome?

def withChunks (forwarding : Forwarding) (chunks : Channel Bytes) : Forwarding :=
  { forwarding with pipeline := { forwarding.pipeline with chunks } }

def withFrames (forwarding : Forwarding) (frames : Source StorageMessage) : Forwarding :=
  { forwarding with pipeline := { forwarding.pipeline with frames } }

def isOpen (forwarding : Forwarding) : Bool :=
  forwarding.outcome?.isNone && !forwarding.pipeline.frames.ended

def act (forwarding : Forwarding) : Action -> Option Forwarding
  | .forward => (forwarding.forwarder.step forwarding.pipeline).map fun (forwarder, pipeline) => { forwarder, pipeline }
  | .take => match forwarding.pipeline.chunks.take with
    | .item _ chunks => some (forwarding.withChunks chunks)
    | _ => none
  | .leave =>
    if forwarding.pipeline.chunks.receiving then some (forwarding.withChunks forwarding.pipeline.chunks.close) else none
  | .deliver message =>
    if forwarding.isOpen then some (forwarding.withFrames (forwarding.pipeline.frames.push message)) else none
  | .endStream => if forwarding.isOpen then some (forwarding.withFrames forwarding.pipeline.frames.finish) else none

def delivered (actions : List Action) : List StorageMessage :=
  actions.filterMap fun action => match action with
    | .deliver message => some message
    | _ => none

def chunkArrival (before after : Forwarding) : List Bytes :=
  before.pipeline.chunks.arrival after.pipeline.chunks

def titleArrival (before after : Forwarding) : List Descriptor :=
  if after.pipeline.slot = before.pipeline.slot then [] else after.pipeline.slot.toList

theorem delivered_append (before after : List Action) :
    delivered (before ++ after) = delivered before ++ delivered after := List.filterMap_append

def chunksPut (actions : List Action) : List Bytes :=
  trace act chunkArrival {} actions

def titles (actions : List Action) : List Descriptor :=
  trace act titleArrival {} actions

/-- The messages come in as those of this stream, which ends only after the last of them. -/
structure Follows (actions : List Action) (stream : List StorageMessage) : Prop where
  messages : delivered actions <+: stream
  complete : .endStream ∈ actions -> delivered actions = stream

structure Reads (messages : List StorageMessage) (put : List Bytes) (forwarding : Forwarding) : Prop
    extends forwarding.forwarder.Passed messages put forwarding.pipeline where
  ahead : forwarding.outcome? = none -> forwarding.forwarder.Ahead messages put forwarding.pipeline

variable {messages : List StorageMessage} {put : List Bytes} {actions : List Action} {forwarding next last : Forwarding}

theorem titleArrival_of_same (same : next.pipeline.slot = forwarding.pipeline.slot) :
    forwarding.titleArrival next = [] := if_pos same

namespace Reads

theorem start : Reads [] [] {} :=
  ⟨Forwarder.Passed.start, fun _ => Forwarder.Ahead.start⟩

theorem drain {chunks : Channel Bytes} (before : Reads messages put forwarding)
    (drained : forwarding.pipeline.chunks.Drained chunks) :
    Reads messages (put ++ forwarding.chunkArrival (forwarding.withChunks chunks)) (forwarding.withChunks chunks) := by
  have unarrived : forwarding.chunkArrival (forwarding.withChunks chunks) = [] := drained.arrival
  rw [unarrived, List.append_nil]
  refine ⟨before.toPassed.drain rfl id drained, fun unfinished => ?_⟩
  have ahead := before.ahead unfinished
  exact ⟨ahead.fresh, ahead.intact, ahead.clean⟩

theorem unput (same : next.pipeline.chunks.place = forwarding.pipeline.chunks.place) (after : Reads messages put next) :
    Reads messages (put ++ forwarding.chunkArrival next) next := by
  rw [chunkArrival, Channel.arrival_of_same same, List.append_nil]
  exact after

theorem act {action : Action} (before : Reads messages put forwarding) (possible : forwarding.act action = some next) :
    Reads (messages ++ delivered [action]) (put ++ forwarding.chunkArrival next) next := by
  cases action with
  | forward =>
    obtain ⟨⟨forwarder, pipeline⟩, stepped, rfl⟩ := Option.map_eq_some_iff.1 possible
    have moved := Forwarder.moves_of_step stepped
    have ahead := before.ahead moved.unfinished
    rw [show delivered [Action.forward] = [] from rfl, List.append_nil]
    exact ⟨before.toPassed.move ahead moved, ahead.move before.toPassed moved⟩
  | take =>
    simp only [Forwarding.act] at possible
    split at possible
    next chunk chunks taken =>
      obtain ⟨ready, rfl⟩ := Channel.take_eq_item_iff.1 taken
      cases possible
      have drained : forwarding.pipeline.chunks.Drained forwarding.pipeline.chunks.taken :=
        .taken forwarding.pipeline.chunks.senders (by rw [ready]; rfl)
      simpa [delivered] using before.drain drained
    next => cases possible
  | leave =>
    obtain ⟨-, rfl⟩ := Option.ite_some_none_eq_some.1 possible
    simpa [delivered] using before.drain (.closed rfl rfl)
  | deliver message =>
    obtain ⟨unended, rfl⟩ := Option.ite_some_none_eq_some.1 possible
    simp only [isOpen, Bool.and_eq_true, Option.isNone_iff_eq_none] at unended
    exact .unput rfl ⟨before.toPassed.deliver unended.1 message, fun unfinished =>
      (before.ahead unfinished).deliver message⟩
  | endStream =>
    obtain ⟨-, rfl⟩ := Option.ite_some_none_eq_some.1 possible
    rw [show delivered [Action.endStream] = [] from rfl, List.append_nil]
    refine .unput rfl ⟨before.toPassed.drain rfl (fun _ => rfl) (.same _), fun unfinished => ?_⟩
    have ahead := before.ahead unfinished
    exact ⟨ahead.fresh, ahead.intact, ahead.clean⟩

theorem returned {outcome : Except Fault UInt64} (reads : Reads messages put forwarding)
    (returned : forwarding.outcome? = some outcome) :
    forwarding.pipeline.chunks.receiving = false \/
      outcome = verdict messages /\ Forwarder.Whole messages put forwarding.pipeline /\
        (offence? false messages = none -> forwarding.pipeline.frames.ended = true) := by
  cases outcome with
  | error fault =>
    obtain ⟨offends, whole⟩ := reads.failed fault returned
    refine .inr ⟨by rw [verdict, offends], whole, fun clean => ?_⟩
    rw [offends] at clean
    cases clean
  | ok total =>
    obtain ⟨rfl, gone | ⟨ended, clean, whole⟩⟩ := reads.stopped total returned
    next => exact .inl gone
    next => exact .inr ⟨by rw [verdict, clean, whole.put], whole, fun _ => ended⟩

end Reads

theorem reads_of_run (reached : follow act {} actions = some last) :
    Reads (delivered actions) (chunksPut actions) last := by
  refine follow_keeps (fun done forwarding => Reads (delivered done) (chunksPut done) forwarding) .start ?_ reached
  intro done middle action next reached before possible
  have after := before.act possible
  rw [chunksPut, trace_snoc chunkArrival reached possible, delivered_append]
  exact after

theorem act_slot {action : Action} (possible : forwarding.act action = some next) :
    next.pipeline.slot = forwarding.pipeline.slot \/ forwarding.pipeline.slot = none := by
  cases action with
  | forward =>
    obtain ⟨⟨forwarder, pipeline⟩, stepped, rfl⟩ := Option.map_eq_some_iff.1 possible
    exact (Forwarder.moves_of_step stepped).slot
  | take =>
    simp only [act] at possible
    split at possible
    next => cases possible; exact .inl rfl
    next => cases possible
  | leave | deliver message | endStream =>
    obtain ⟨-, rfl⟩ := Option.ite_some_none_eq_some.1 possible
    exact .inl rfl

theorem titles_of_run (reached : follow act {} actions = some last) : titles actions = last.pipeline.slot.toList := by
  refine follow_keeps (fun done forwarding => titles done = forwarding.pipeline.slot.toList) rfl ?_ reached
  intro done middle action next reached before possible
  rw [titles, trace_snoc titleArrival reached possible]
  rcases act_slot possible with same | unset
  next => rw [titleArrival_of_same same, List.append_nil, same]; exact before
  next =>
    rw [unset] at before
    rw [show trace act titleArrival {} done = [] from before, List.nil_append, titleArrival, unset]
    cases next.pipeline.slot <;> rfl

theorem act_flags {action : Action} (possible : forwarding.act action = some next) :
    (next.pipeline.frames.ended = true <-> forwarding.pipeline.frames.ended = true \/ action = .endStream) /\
      (next.pipeline.chunks.receiving = false <->
        forwarding.pipeline.chunks.receiving = false \/ action = .leave) := by
  cases action with
  | forward =>
    obtain ⟨⟨forwarder, pipeline⟩, stepped, rfl⟩ := Option.map_eq_some_iff.1 possible
    obtain ⟨ended, receiving⟩ := (Forwarder.moves_of_step stepped).keeps
    simp [ended, receiving]
  | take =>
    simp only [act] at possible
    split at possible
    next chunk chunks taken =>
      obtain ⟨-, rfl⟩ := Channel.take_eq_item_iff.1 taken
      cases possible
      simp [withChunks, Channel.taken]
    next => cases possible
  | leave =>
    obtain ⟨-, rfl⟩ := Option.ite_some_none_eq_some.1 possible
    simp [withChunks, Channel.close]
  | deliver message =>
    obtain ⟨-, rfl⟩ := Option.ite_some_none_eq_some.1 possible
    simp [withFrames, Source.push]
  | endStream =>
    obtain ⟨-, rfl⟩ := Option.ite_some_none_eq_some.1 possible
    simp [withFrames, Source.finish]

theorem flags_of_run (reached : follow act {} actions = some last) :
    (last.pipeline.frames.ended = true <-> .endStream ∈ actions) /\
      (last.pipeline.chunks.receiving = false <-> .leave ∈ actions) := by
  refine follow_keeps (fun done forwarding => (forwarding.pipeline.frames.ended = true <-> .endStream ∈ done) /\
    (forwarding.pipeline.chunks.receiving = false <-> .leave ∈ done)) (by simp) ?_ reached
  intro done middle action next _ before possible
  obtain ⟨ended, receiving⟩ := act_flags possible
  simp [ended, receiving, before, eq_comm]

structure Gone (total : UInt64) (forwarding : Forwarding) : Prop where
  closed : forwarding.pipeline.chunks.receiving = false
  empty : forwarding.pipeline.chunks.place = none
  counted : forwarding.forwarder.forwarded = total
  returned : forall outcome, forwarding.outcome? = some outcome -> outcome = .ok total

namespace Gone

variable {total : UInt64}

theorem act {action : Action} (gone : Gone total forwarding) (possible : forwarding.act action = some next) :
    Gone total next /\ forwarding.chunkArrival next = [] /\ forwarding.titleArrival next = [] := by
  obtain ⟨closed, empty, counted, returned⟩ := gone
  cases action with
  | forward =>
    obtain ⟨⟨forwarder, pipeline⟩, stepped, rfl⟩ := Option.map_eq_some_iff.1 possible
    cases Forwarder.moves_of_step stepped with
    | abandon =>
      refine ⟨⟨closed, empty, counted, ?_⟩, Channel.arrival_of_same rfl, titleArrival_of_same rfl⟩
      rintro outcome ⟨⟩
      rw [counted]
    | header _ _ _ unclosed | datagram _ _ _ unclosed | refuse _ _ _ _ unclosed | put _ _ unclosed
    | queue _ _ unclosed | finish _ unclosed => exact absurd (closed.symm.trans unclosed) (by simp)
  | take =>
    simp only [Forwarding.act] at possible
    split at possible
    next chunk chunks taken => exact absurd (empty.symm.trans (Channel.take_eq_item_iff.1 taken).1) (by simp)
    next => cases possible
  | leave =>
    obtain ⟨unclosed, -⟩ := Option.ite_some_none_eq_some.1 possible
    exact absurd (closed.symm.trans unclosed) (by simp)
  | deliver message =>
    obtain ⟨-, rfl⟩ := Option.ite_some_none_eq_some.1 possible
    exact ⟨⟨closed, empty, counted, returned⟩, Channel.arrival_of_same rfl, titleArrival_of_same rfl⟩
  | endStream =>
    obtain ⟨-, rfl⟩ := Option.ite_some_none_eq_some.1 possible
    exact ⟨⟨closed, empty, counted, returned⟩, Channel.arrival_of_same rfl, titleArrival_of_same rfl⟩

theorem of_run (gone : Gone total forwarding) (reached : follow Forwarding.act forwarding actions = some last) :
    Gone total last /\ trace Forwarding.act chunkArrival forwarding actions = [] /\
      trace Forwarding.act titleArrival forwarding actions = [] := by
  refine follow_keeps (fun done state => Gone total state /\ trace Forwarding.act chunkArrival forwarding done = [] /\
    trace Forwarding.act titleArrival forwarding done = []) ⟨gone, rfl, rfl⟩ ?_ reached
  intro done middle action next reached ⟨before, put, told⟩ possible
  obtain ⟨after, unarrived, untitled⟩ := before.act possible
  rw [trace_snoc chunkArrival reached possible, trace_snoc titleArrival reached possible, put, told, unarrived, untitled]
  exact ⟨after, rfl, rfl⟩

theorem returns (gone : Gone total forwarding) (unfinished : forwarding.outcome? = none) :
    exists next, forwarding.act .forward = some next /\ next.outcome? = some (.ok total) := by
  refine ⟨{ forwarding with forwarder := forwarding.forwarder.stop }, ?_, ?_⟩
  next => simp only [Forwarding.act, Forwarder.step_closed gone.closed unfinished, Option.map_some]
  next => rw [<- gone.counted]; rfl

end Gone

def Action.isServing : Action -> Bool
  | forward | take => true
  | leave | deliver _ | endStream => false

def size (forwarding : Forwarding) : Nat :=
  4 * forwarding.pipeline.frames.items.length + forwarding.pipeline.chunks.place.toList.length +
    match forwarding.forwarder.phase with
    | .sending _ => 4
    | .waiting _ => 3
    | .reading => 1
    | .finished _ => 0

theorem size_of_held {payload : Bytes} (held : forwarding.forwarder.phase.held = [payload]) :
    4 * forwarding.pipeline.frames.items.length + forwarding.pipeline.chunks.place.toList.length + 3 <=
      forwarding.size := by
  unfold ForwardPhase.held at held
  split at held
  next sending => simp only [size, sending]; omega
  next waiting => simp only [size, waiting]; omega
  next => cases held
  next => cases held

theorem act_size {action : Action} (reads : Reads messages put forwarding) (serving : action.isServing = true)
    (possible : forwarding.act action = some next) : next.size < forwarding.size := by
  cases action with
  | leave | deliver _ | endStream => cases serving
  | take =>
    simp only [act] at possible
    split at possible
    next chunk chunks taken =>
      obtain ⟨ready, rfl⟩ := Channel.take_eq_item_iff.1 taken
      cases possible
      simp [size, withChunks, Channel.taken, ready]
    next => cases possible
  | forward =>
    obtain ⟨⟨forwarder, pipeline⟩, stepped, rfl⟩ := Option.map_eq_some_iff.1 possible
    cases Forwarder.moves_of_step stepped with
    | header video rest reading unclosed ready | datagram datagram rest reading unclosed ready
    | refuse message rest fault reading unclosed ready =>
      simp only [size, reading, ready, Forwarder.finish, List.length_cons]
      omega
    | finish reading =>
      simp only [size, reading, Forwarder.stop, Forwarder.finish]
      omega
    | put payload held unclosed granted =>
      have larger := size_of_held held
      have empty := (reads.served unclosed).place_of_granted granted
      rw [empty] at larger
      simp only [size, Option.toList, List.length_singleton, List.length_nil] at larger ⊢
      omega
    | queue payload held unclosed unpromised taken fresh =>
      -- A sender gets in line once.
      have unqueued := (reads.served unclosed).unqueued unpromised fresh
      have sending : forwarding.forwarder.phase = .sending payload := by
        unfold ForwardPhase.held at held
        split at held <;> simp_all [ForwardPhase.isWaiting]
      simp only [size, sending]
      omega
    | abandon unfinished =>
      simp only [size, Forwarder.stop, Forwarder.finish]
      cases phase : forwarding.forwarder.phase with
      | finished outcome => simp [Forwarder.outcome?, phase] at unfinished
      | reading | sending | waiting => simp

theorem serving_possible (reads : Reads messages put forwarding)
    (ended : forwarding.pipeline.frames.ended = true) (receiving : forwarding.pipeline.chunks.receiving = true)
    (unfinished : forwarding.outcome? = none) :
    exists action next, action.isServing = true /\ forwarding.act action = some next := by
  cases stepped : forwarding.act .forward with
  | some next => exact ⟨.forward, next, rfl, stepped⟩
  | none =>
    -- A forwarder that cannot move holds a chunk back behind the one that the consumer can take.
    rcases Forwarder.stuck_of_step (Option.map_eq_none_iff.1 stepped) with
      finished | ⟨-, -, unended⟩ | ⟨payload, held, blocked⟩
    next =>
      rw [outcome?] at unfinished
      rw [unfinished] at finished
      cases finished
    next => exact absurd (ended.symm.trans unended) (by simp)
    next =>
      have full := (reads.served receiving).place_of_blocked blocked
      obtain ⟨chunk, ready⟩ := Option.isSome_iff_exists.1 full
      refine ⟨.take, forwarding.withChunks forwarding.pipeline.chunks.taken, rfl, ?_⟩
      rw [act, Channel.take_eq_item_iff.2 ⟨ready, rfl⟩]

theorem serving_bounded {moves : List Action} {final : Forwarding} (reached : follow act {} actions = some last)
    (serving : forall action, action ∈ moves -> action.isServing = true) (later : follow act last moves = some final) :
    moves.length + final.size <= last.size := by
  refine follow_bounded (fun done middle action next further possible serving => ?_) serving later
  have whole : follow act {} (actions ++ done) = some middle := by rw [follow_append, reached]; exact further
  exact act_size (reads_of_run whole) serving possible

theorem verdict_eq_ok_iff {stream : List StorageMessage} {total : UInt64} : verdict stream = .ok total <->
    stream = [] /\ total = 0 \/
      exists video datagrams, stream = framed video datagrams /\
        total = .ofNat (byteCount (datagrams.map Datagram.payload)) := by
  constructor
  next =>
    intro accepted
    unfold verdict at accepted
    split at accepted
    next => cases accepted
    next clean =>
      cases accepted
      rcases offence?_eq_none_iff.1 clean with rfl | ⟨video, datagrams, rfl⟩
      next => exact .inl ⟨rfl, rfl⟩
      next => exact .inr ⟨video, datagrams, rfl, by rw [intact_framed]⟩
  next =>
    rintro (⟨rfl, rfl⟩ | ⟨video, datagrams, rfl, rfl⟩)
    next => rfl
    next => rw [verdict, offence?_framed, intact_framed]

/-- What a forwarder does to a stream whose chunks somebody goes on taking. -/
structure Accepts (stream : List StorageMessage) (actions : List Action) (last : Forwarding) : Prop where
  began : chunksPut actions <+: intact false stream
  returned : forall outcome, last.outcome? = some outcome -> outcome = verdict stream /\
    chunksPut actions = intact false stream /\ titles actions = (descriptor? stream).toList
  returns : .endStream ∈ actions -> forall moves final, (forall action, action ∈ moves -> action.isServing = true) ->
    follow act last moves = some final -> moves.length <= last.size /\
      (final.outcome? = none -> exists action next, action.isServing = true /\ final.act action = some next)

/-- What a forwarder does once nobody takes the chunks any more. -/
structure Abandons (before after : List Action) (last : Forwarding) : Prop where
  put : chunksPut (before ++ .leave :: after) = chunksPut before
  told : titles (before ++ .leave :: after) = titles before
  returned : forall outcome, last.outcome? = some outcome -> outcome = .ok (.ofNat (byteCount (chunksPut before)))
  returns : last.outcome? = none ->
    exists next, last.act .forward = some next /\ next.outcome? = some (.ok (.ofNat (byteCount (chunksPut before))))

theorem accepts_of_run {stream : List StorageMessage} (reached : follow act {} actions = some last)
    (follows : Follows actions stream) (stays : .leave ∉ actions) : Accepts stream actions last := by
  have reads := reads_of_run reached
  obtain ⟨ended, receiving⟩ := flags_of_run reached
  obtain ⟨rest, same⟩ := follows.messages
  constructor
  case began => exact same ▸ reads.accepted.trans (intact_mono false _ rest)
  case returned =>
    intro outcome returned
    have told := titles_of_run reached
    rcases reads.returned returned with gone | ⟨decided, ⟨put, slot⟩, complete⟩
    next => exact absurd (receiving.1 gone) stays
    next =>
      rw [slot] at told
      cases offends : offence? false (delivered actions) with
      | none =>
        rw [<- follows.complete (ended.1 (complete offends))]
        exact ⟨decided, put, told⟩
      | some fault =>
        -- What has not come in stands behind the offence.
        obtain ⟨found, stops⟩ := offence?_append offends rest
        have something : delivered actions ≠ [] := by
          intro nothing
          rw [nothing] at offends
          cases offends
        rw [<- same, verdict, found, stops, descriptor?_append_of_ne_nil something]
        rw [verdict, offends] at decided
        exact ⟨decided, put, told⟩
  case returns =>
    intro complete moves final serving later
    refine ⟨Nat.le_trans (Nat.le_add_right _ _) (serving_bounded reached serving later), fun unfinished => ?_⟩
    have whole : follow act {} (actions ++ moves) = some final := by rw [follow_append, reached]; exact later
    obtain ⟨endedToo, receivingToo⟩ := flags_of_run whole
    have stayed : final.pipeline.chunks.receiving = true := by
      rw [<- Bool.not_eq_false, receivingToo, List.mem_append, not_or]
      exact ⟨stays, fun member => absurd (serving _ member) (by decide)⟩
    exact serving_possible (reads_of_run whole) (endedToo.2 (List.mem_append_left _ complete)) stayed unfinished

theorem abandons_of_run {before after : List Action} {middle : Forwarding} (reached : follow act {} before = some middle)
    (unfinished : middle.outcome? = none) (later : follow act middle (.leave :: after) = some last) :
    Abandons before after last := by
  have reads := reads_of_run reached
  obtain ⟨left, leaves, rest⟩ := Option.bind_eq_some_iff.1 later
  have split : before ++ .leave :: after = before ++ [.leave] ++ after := by simp
  have toLeft := follow_snoc reached leaves
  obtain ⟨-, rfl⟩ := Option.ite_some_none_eq_some.1 leaves
  have gone : Gone (.ofNat (byteCount (chunksPut before))) (middle.withChunks middle.pipeline.chunks.close) :=
    ⟨rfl, rfl, reads.counted, fun outcome same => absurd (unfinished.symm.trans same) (by simp)⟩
  obtain ⟨still, put, told⟩ := gone.of_run rest
  have unarrived : middle.chunkArrival (middle.withChunks middle.pipeline.chunks.close) = [] :=
    Channel.arrival_of_empty rfl
  have untitled : middle.titleArrival (middle.withChunks middle.pipeline.chunks.close) = [] := titleArrival_of_same rfl
  constructor
  case put =>
    rw [split, chunksPut, trace_append chunkArrival toLeft, put, trace_snoc chunkArrival reached leaves, unarrived,
      List.append_nil, List.append_nil]
    rfl
  case told =>
    rw [split, titles, trace_append titleArrival toLeft, told, trace_snoc titleArrival reached leaves, untitled,
      List.append_nil, List.append_nil]
    rfl
  case returned => exact still.returned
  case returns => exact still.returns

/-- The framed streams are accepted with the number of their bytes, all others are refused with their first offence, and
a forwarder without a consumer accepts what was put. -/
theorem framed_accepted (stream : List StorageMessage) :
    (forall total, verdict stream = .ok total <-> stream = [] /\ total = 0 \/
      exists video datagrams, stream = framed video datagrams /\
        total = .ofNat (byteCount (datagrams.map Datagram.payload))) /\
      (forall actions last, follow act {} actions = some last -> Follows actions stream -> .leave ∉ actions ->
        Accepts stream actions last) /\
      forall before middle after last, follow act {} before = some middle -> middle.outcome? = none ->
        follow act middle (.leave :: after) = some last -> Abandons before after last :=
  ⟨fun _ => verdict_eq_ok_iff, fun _ _ => accepts_of_run, fun _ _ _ _ => abandons_of_run⟩

def clipDelivered : List Action :=
  (framed clip clipDatagrams).map .deliver ++ [.endStream]

def clipForwarded : List Action :=
  clipDelivered ++ [.forward, .forward, .forward, .forward, .forward, .take, .forward, .forward, .take, .forward, .forward]

def clipBegun : List Action :=
  clipDelivered ++ [.forward, .forward, .forward, .forward, .forward]

theorem clip_forwarded : exists last, follow act {} clipForwarded = some last /\ last.outcome? = some (.ok 3) /\
    Accepts (framed clip clipDatagrams) clipForwarded last /\
      exists middle after, follow act {} clipBegun = some middle /\ after.outcome? = some (.ok 2) /\
        Abandons clipBegun [.forward] after := by
  obtain ⟨last, reached, returned⟩ : exists last, follow act {} clipForwarded = some last /\
      last.outcome? = some (.ok 3) := ⟨_, rfl, rfl⟩
  obtain ⟨middle, after, begun, unfinished, left, abandoned⟩ : exists middle after,
      follow act {} clipBegun = some middle /\ middle.outcome? = none /\
        follow act middle [.leave, .forward] = some after /\ after.outcome? = some (.ok 2) :=
    ⟨_, _, rfl, rfl, rfl, rfl⟩
  obtain ⟨-, accepts, abandons⟩ := framed_accepted (framed clip clipDatagrams)
  have stays : .leave ∉ clipForwarded := by simp [clipForwarded, clipDelivered]
  exact ⟨last, reached, returned, accepts clipForwarded last reached ⟨List.prefix_rfl, fun _ => rfl⟩ stays,
    middle, after, begun, abandoned, abandons clipBegun middle [.forward] after begun unfinished left⟩

end Forwarding

end VideoRelay
