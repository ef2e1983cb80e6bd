import VideoRelay.Proofs.Sink.Passage

set_option autoImplicit false

namespace VideoRelay

def Writer.toil : Option Writer -> Nat
  | some (offering _) => 3
  | some (waiting _) => 2
  | some (starting _) | some (finished _) | none => 0

def Writer.toils : List (Option Writer) -> Nat
  | [] => 0
  | writer :: rest => toil writer + toils rest

theorem Writer.toils_set {writers : List (Option Writer)} {index : Nat} {old : Option Writer}
    (there : writers[index]? = some old) (after : Option Writer) :
    toils (writers.set index after) + toil old = toils writers + toil after := by
  induction writers generalizing index with
  | nil => cases there
  | cons first rest ih =>
    cases index with
    | zero => cases there; simp only [List.set_cons_zero, toils]; omega
    | succ index => have further := ih there; simp only [List.set_cons_succ, toils]; omega

def Reader.toil : Reader -> Nat
  | unasked => 3
  | asked => 2
  | message (_ :: _) => 1
  | message [] | body | gone => 0

namespace SharedSink

open SinkUse (accepted)

variable {shared next : SharedSink} {actions : List Action} {index : Nat} {chunk : Bytes}

theorem resume_puts (pending : shared.pending? index = some chunk) (unclosed : shared.sink.body.receiving = true)
    (free : shared.sink.body.promised = some index \/ shared.sink.body.isFree = true) :
    shared.act (.resume index) = some { shared with
      writes := shared.writes.set index (some (.finished (.ok ())))
      sink := { shared.sink with body := { shared.sink.body with place := some chunk, promised := none } } } := by
  have taken : shared.sink.body.offer index chunk =
      .taken { shared.sink.body with place := some chunk, promised := none } :=
    Channel.offer_eq_taken_iff.2 ⟨unclosed, free, rfl⟩
  obtain ⟨writer, there, offered⟩ := pending?_eq_some_iff.1 pending
  rcases Writer.offered?_eq_some_iff.1 offered with rfl | rfl <;>
    simp only [act, there, Writer.step, Writer.offerTo, taken, Option.map_some]

theorem takeFrame_takes (reading : shared.reader = .body) (ready : shared.sink.body.place = some chunk) :
    shared.act .takeFrame = some { shared with
      reader := .body, sink := { shared.sink with body := shared.sink.body.taken } } := by
  have taken := Channel.take_eq_item_iff.2 ⟨ready, rfl⟩
  simp only [act, reading, Reader.read, taken]

def Action.serves : Action -> Bool
  | resume _ | ask | receiveHead | takeFrame => true
  | use _ | abandon _ | leave => false

def backlog (shared : SharedSink) : Nat :=
  Writer.toils shared.writes + shared.sink.body.place.toList.length + shared.reader.toil

theorem serve_shrinks {asked granted put quit : List Nat} {action : Action} (lines : Lines asked granted put quit shared)
    (serves : action.serves = true) (acts : shared.Acts action next) : next.backlog < shared.backlog := by
  -- A write comes one step nearer to its end, or the client to the next chunk.
  cases acts with
  | put index chunk pending _ free =>
    obtain ⟨writer, there, offered⟩ := pending?_eq_some_iff.1 pending
    have toil := Writer.toils_set there (some (.finished (.ok ())))
    rw [backlog, backlog, place_of_granted lines free]
    rcases Writer.offered?_eq_some_iff.1 offered with rfl | rfl <;> simp [Writer.toil] at toil ⊢ <;> omega
  | queue index chunk pending unclosed unpromised taken fresh =>
    obtain ⟨writer, there, offered⟩ := pending?_eq_some_iff.1 pending
    have toil := Writer.toils_set there (some (.waiting chunk))
    rw [backlog, backlog]
    rcases Writer.offered?_eq_some_iff.1 offered with rfl | rfl
    next => simp [Writer.toil] at toil ⊢; omega
    next =>
      -- Who waits stands in line already.
      rcases List.mem_append.1 ((lines.waits unclosed index).1 ⟨chunk, there⟩) with promised | queued
      next => exact absurd (Option.mem_toList.1 promised) unpromised
      next => exact absurd queued fresh
  | refuse index chunk pending closed =>
    obtain ⟨writer, there, offered⟩ := pending?_eq_some_iff.1 pending
    have toil := Writer.toils_set there (some (.finished (.error Sink.clientGone)))
    rw [backlog, backlog]
    rcases Writer.offered?_eq_some_iff.1 offered with rfl | rfl <;> simp [Writer.toil] at toil ⊢ <;> omega
  | ask unasked => rw [backlog, backlog, unasked]; exact Nat.lt_succ_self _
  | receiveStream headers asked => rw [backlog, backlog, asked]; exact Nat.add_lt_add_left (Nat.zero_lt_two) _
  | receiveFault status text asked =>
    have short : (Reader.message (Text.utf8Bytes text)).toil <= 1 := by
      cases Text.utf8Bytes text <;> simp [Reader.toil]
    rw [backlog, backlog, asked]
    show Writer.toils shared.writes + 0 + (Reader.message (Text.utf8Bytes text)).toil <
      Writer.toils shared.writes + shared.sink.body.place.toList.length + 2
    omega
  | takeChunk chunk streaming ready =>
    rw [backlog, backlog, ready, streaming]
    simp [Channel.taken]
  | takeText rest telling more =>
    rw [backlog, backlog, telling]
    cases rest with
    | nil => exact absurd rfl more
    | cons => exact Nat.lt_succ_self _
  | use | abandon | leave => cases serves

theorem idle_of_reading {asked granted put quit : List Nat} (lines : Lines asked granted put quit shared)
    (heeds : shared.Heeds) (reading : shared.reader = .body)
    (stuck : forall action, action.serves = true -> shared.act action = none) :
    shared.sink.body.place = none /\ forall index, shared.pending? index = none := by
  have unclosed : shared.sink.body.receiving = true := by rw [heeds.wants, reading]; rfl
  -- A chunk in the slot could be taken. With the slot empty the write it is promised to could go on, and if it is
  -- promised to nobody, nobody waits, so that any write could go on.
  have empty : shared.sink.body.place = none := by
    cases place : shared.sink.body.place with
    | none => rfl
    | some chunk => cases (takeFrame_takes reading place).symm.trans (stuck .takeFrame rfl)
  have idle {index : Nat} {chunk : Bytes} (pending : shared.pending? index = some chunk)
      (free : shared.sink.body.promised = some index \/ shared.sink.body.isFree = true) : False := by
    cases (resume_puts pending unclosed free).symm.trans (stuck (.resume index) rfl)
  have unpromised : shared.sink.body.promised = none := by
    cases promised : shared.sink.body.promised with
    | none => rfl
    | some index =>
      have among : index ∈ shared.sink.body.promised.toList ++ shared.sink.body.waiting := by simp [promised]
      obtain ⟨chunk, there⟩ := lines.pending_of_mem among
      exact (idle (pending?_of_writes there) (.inl promised)).elim
  have nobody : shared.sink.body.waiting = [] := by
    refine Decidable.byContradiction fun rest => ?_
    rcases lines.busy rest with full | promised
    next => exact full empty
    next => exact promised unpromised
  refine ⟨empty, fun index => ?_⟩
  cases pending : shared.pending? index with
  | none => rfl
  | some chunk => exact (idle pending (.inr (Channel.isFree_iff.2 ⟨empty, unpromised, nobody⟩))).elim

theorem idle_of_stuck (reached : follow act {} actions = some shared) (present : shared.reader ≠ .gone)
    (stuck : forall action, action.serves = true -> shared.act action = none) :
    shared.sink.body.place = none /\ forall index, shared.pending? index = none := by
  have heeds := heeds_of_run reached
  -- Without a stream there is nothing to begin with.
  have untouched (unstreamed : forall headers, shared.sink.head ≠ some (.stream headers)) :
      shared.sink.body.place = none /\ forall index, shared.pending? index = none := by
    refine ⟨?_, fun index => ?_⟩
    next =>
      cases ready : shared.sink.body.place with
      | none => rfl
      | some chunk =>
        obtain ⟨headers, streams⟩ := streams_of_place reached present ready
        exact absurd streams (unstreamed headers)
    next =>
      cases pending : shared.pending? index with
      | none => rfl
      | some chunk =>
        obtain ⟨headers, streams⟩ := streams_of_pending reached pending
        exact absurd streams (unstreamed headers)
  cases reader : shared.reader with
  | unasked =>
    have asks := stuck .ask rfl
    simp only [act, reader] at asks
    cases asks
  | asked =>
    refine untouched fun headers decided => ?_
    have receives := stuck .receiveHead rfl
    simp only [act, reader, Reader.receiveHead, decided, Option.map_some] at receives
    cases receives
  | body => exact idle_of_reading (lines_of_run reached) heeds reader stuck
  | message rest =>
    obtain ⟨status, text, failed⟩ := heeds.told rest reader
    exact untouched fun headers decided => by cases failed.symm.trans decided
  | gone => exact absurd reader present

theorem present_act {action : Action} (acts : shared.Acts action next) (serves : action.serves = true)
    (present : shared.reader ≠ .gone) : next.reader ≠ .gone := by
  cases acts with
  | put | queue | refuse => exact present
  | ask | receiveStream | receiveFault | takeChunk | takeText => simp
  | use | abandon | leave => cases serves

theorem present_run {moves : List Action} {last : SharedSink} (reached : follow act {} actions = some shared)
    (present : shared.reader ≠ .gone) (serving : forall action, action ∈ moves -> action.serves = true)
    (led : follow act shared moves = some last) : last.reader ≠ .gone := by
  refine follow_keeps (fun done last => (forall action, action ∈ done -> action.serves = true) -> last.reader ≠ .gone)
    (fun _ => present) ?_ led serving
  intro done middle action next led stays possible serving
  have before : follow act {} (actions ++ done) = some middle := by rw [follow_append, reached]; exact led
  exact present_act (acts_of_run before possible) (serving action (by simp))
    (stays fun other among => serving other (List.mem_append_left _ among))

theorem served_bounded {moves : List Action} {last : SharedSink} (reached : follow act {} actions = some shared)
    (serving : forall action, action ∈ moves -> action.serves = true) (led : follow act shared moves = some last) :
    moves.length + last.backlog <= shared.backlog := by
  refine follow_bounded (fun done middle action next led possible serves => ?_) serving led
  have before : follow act {} (actions ++ done) = some middle := by rw [follow_append, reached]; exact led
  exact serve_shrinks (lines_of_run before) serves (acts_of_run before possible)

theorem served_out {moves : List Action} {last : SharedSink} (reached : follow act {} actions = some shared)
    (present : shared.reader ≠ .gone) (serving : forall action, action ∈ moves -> action.serves = true)
    (led : follow act shared moves = some last)
    (stuck : forall action, action.serves = true -> last.act action = none) :
    takes (actions ++ moves) = (puts (actions ++ moves)).map Prod.snd /\
      forall index chunk, shared.pending? index = some chunk -> (index, chunk) ∈ puts (actions ++ moves) := by
  have after : follow act {} (actions ++ moves) = some last := by rw [follow_append, reached]; exact led
  have stays := present_run reached present serving led
  obtain ⟨empty, idle⟩ := idle_of_stuck after stays stuck
  refine ⟨?_, fun index chunk pending => ?_⟩
  next => rw [kept_of_run after stays, empty, Option.toList_none, List.append_nil]
  next =>
    have held : .abandon index ∉ moves := fun among => by cases serving _ among
    rcases pending_lasts reached pending led held with still | put | gone
    next => cases (idle index).symm.trans still
    next => exact put
    next => exact absurd gone stays

theorem first_follows {previous : Bytes} {rest : List Nat} (reached : follow act {} actions = some shared)
    (reading : shared.reader = .body) (ready : shared.sink.body.place = some previous)
    (line : shared.sink.body.waiting = index :: rest) :
    exists chunk next, shared.pending? index = some chunk /\
      follow act shared [.takeFrame, .resume index] = some next /\ next.sink.body.place = some chunk /\
      next.writes[index]? = some (some (.finished (.ok ()))) /\
      puts (actions ++ [.takeFrame, .resume index]) = puts actions ++ [(index, chunk)] := by
  have lines := lines_of_run reached
  have among : index ∈ shared.sink.body.promised.toList ++ shared.sink.body.waiting := by simp [line]
  obtain ⟨chunk, there⟩ := lines.pending_of_mem among
  have pending : shared.pending? index = some chunk := pending?_of_writes there
  have unclosed := Channel.receiving_of_place (fun closed => (lines.lost closed).1) ready
  obtain ⟨middle, took, promised, still, stays, waits⟩ : exists middle, shared.act .takeFrame = some middle /\
      middle.sink.body.promised = some index /\ middle.pending? index = some chunk /\
      middle.sink.body.receiving = true /\ middle.writes[index]? = some (some (.waiting chunk)) :=
    ⟨_, takeFrame_takes reading ready, by rw [Channel.taken, line]; rfl, pending, unclosed, there⟩
  have put := resume_puts still stays (.inl promised)
  refine ⟨chunk, _, pending, by simp only [follow, took, put, Option.bind_some]; rfl, rfl, ?_, ?_⟩
  next => dsimp only; rw [writes_set waits, if_pos rfl]
  next =>
    have unput : shared.putsBy .takeFrame = [] := rfl
    rw [List.append_cons, puts, chronicle_snoc putsBy (follow_snoc reached took) put,
      chronicle_snoc putsBy reached took, unput, List.append_nil, putsBy_of_granted still stays (.inl promised)]
    rfl

/-- What the client is given of the writes begun by a run that has come to this state, whatever it goes on with. -/
structure Delivered (actions : List Action) (shared : SharedSink) : Prop where
  arrivals : arrivals actions = (puts actions).map Prod.snd
  -- What is put, and in which order.
  exactly : forall index chunk, (index, chunk) ∈ puts actions <->
    (accepted false (uses actions))[index]? = some (some chunk) /\
      exists early late middle, actions = early ++ .resume index :: late /\ follow act {} early = some middle /\
        middle.reader.wants = true /\
        (middle.sink.body.promised = some index \/ middle.sink.body.isFree = true)
  once : ((puts actions).map Prod.fst).Nodup
  fair : Fair (staying (quits actions) (asked actions)) (staying (quits actions) (grants actions))
    ((puts actions).map Prod.fst)
  line : shared.reader.wants = true ->
    staying (quits actions) (grants actions) = (puts actions).map Prod.fst ++ shared.sink.body.promised.toList /\
      staying (quits actions) (asked actions) =
        (puts actions).map Prod.fst ++ shared.sink.body.promised.toList ++ shared.sink.body.waiting
  quit : forall index, index ∈ quits actions -> index ∉ (puts actions).map Prod.fst
  fates : forall (index : Nat) writer, shared.writes[index]? = some (some writer) ->
    Fate (uses actions) (puts actions) shared index writer
  -- What the client is given. A chunk that was left in the slot when it went is lost.
  taken : exists left : Option Bytes, (puts actions).map Prod.snd = takes actions ++ left.toList
  kept : shared.reader ≠ .gone ->
    (puts actions).map Prod.snd = takes actions ++ shared.sink.body.place.toList
  streams : (puts actions ≠ [] \/ exists action, shared.putsBy action ≠ []) ->
    exists headers, shared.sink.head = some (.stream headers)
  -- After a failure, and whatever else there is between, one that waits for its turn still has it.
  late : (uses actions).any SinkUse.fails = true -> shared.sink.body.senders ≠ 0 -> forall chunk,
    shared.act (.use (.write chunk)) =
        some { shared with writes := shared.writes ++ [some (.finished (.error Sink.alreadyFailed))] } /\
      forall more last, follow act shared (.use (.write chunk) :: more) = some last ->
        shared.writes.length ∉ (puts (actions ++ .use (.write chunk) :: more)).map Prod.fst
  lasts : forall index chunk, shared.pending? index = some chunk -> forall later last,
    follow act shared later = some last -> .abandon index ∉ later ->
      last.pending? index = some chunk \/ (index, chunk) ∈ puts (actions ++ later) \/ last.reader = .gone
  follows : forall previous index rest, shared.reader = .body -> shared.sink.body.place = some previous ->
    shared.sink.body.waiting = index :: rest ->
      exists chunk next, shared.pending? index = some chunk /\
        follow act shared [.takeFrame, .resume index] = some next /\ next.sink.body.place = some chunk /\
        next.writes[index]? = some (some (.finished (.ok ()))) /\
        puts (actions ++ [.takeFrame, .resume index]) = puts actions ++ [(index, chunk)]
  -- A client that keeps reading is given everything, after so many moves at most.
  drains : shared.reader ≠ .gone -> exists bound, forall moves last,
    (forall action, action ∈ moves -> action.serves = true) -> follow act shared moves = some last ->
      moves.length <= bound /\
        ((forall action, action.serves = true -> last.act action = none) ->
          takes (actions ++ moves) = (puts (actions ++ moves)).map Prod.snd /\
            forall index chunk, shared.pending? index = some chunk -> (index, chunk) ∈ puts (actions ++ moves))

theorem body_delivered (reached : follow act {} actions = some shared) : Delivered actions shared := by
  have tallies := tallies_of_run reached
  have lines := lines_of_run reached
  have heeds := heeds_of_run reached
  have fair := lines.fair
  constructor
  case arrivals => exact arrivals_of_run reached
  case exactly => exact fun index chunk => mem_puts_iff reached
  case once =>
    exact (lines.once.filter _).sublist ((fair.used.trans fair.served).sublist)
  case fair => exact fair
  case line =>
    intro wants
    have unclosed := heeds.wants.trans wants
    exact ⟨lines.grants unclosed, lines.order unclosed⟩
  case quit =>
    intro index gone among
    have stays := (fair.used.trans fair.served).subset among
    exact of_decide_eq_true (List.mem_filter.1 stays).2 gone
  case fates => exact fun index writer there => fate_of_run reached there
  case taken =>
    obtain ⟨left, same, -⟩ := passes_of_run reached
    exact ⟨left, same⟩
  case kept => exact kept_of_run reached
  case streams =>
    rintro (something | ⟨action, something⟩)
    next => exact streams_of_put reached something
    next =>
      obtain ⟨index, chunk, pending⟩ := pending_of_putsBy something
      exact streams_of_pending reached pending
  case late =>
    intro failed held chunk
    refine ⟨late_write ((commits_of_run reached).failed.2 failed) held chunk, fun more last led among => ?_⟩
    obtain ⟨⟨_, other⟩, put, rfl⟩ := List.mem_map.1 among
    have reached : follow act {} (actions ++ .use (.write chunk) :: more) = some last := by
      rw [follow_append, reached]
      exact led
    have early := ((tallies_of_run reached).through _ other put).1
    rw [uses, List.filterMap_append] at early
    cases (SinkUse.accepted_late failed chunk (uses more)).symm.trans (tallies.count ▸ early)
  case lasts => exact fun index chunk pending later last led held => pending_lasts reached pending led held
  case follows => exact fun previous index rest reading ready line => first_follows reached reading ready line
  case drains =>
    intro present
    refine ⟨shared.backlog, fun moves last serving led => ⟨?_, served_out reached present serving led⟩⟩
    exact Nat.le_trans (Nat.le_add_right _ _) (served_bounded reached serving led)

def crowdedClip : List Action :=
  [.use .clone, .ask, .use (.write [1]), .resume 0, .use (.write [2]), .resume 1, .use (.write [3]), .resume 2,
    .receiveHead, .use (.fail 500 internalFaultText), .abandon 1, .use .drop, .use (.write [4]), .takeFrame, .resume 2,
    .takeFrame]

theorem crowded_clip_delivered : exists shared, follow act {} crowdedClip = some shared /\
    Delivered crowdedClip shared /\ puts crowdedClip = [(0, [1]), (2, [3])] /\ takes crowdedClip = [[1], [3]] /\
    quits crowdedClip = [1] /\ asked crowdedClip = [0, 1, 2] /\ shared.sink.written = 3 := by
  obtain ⟨shared, reached, written⟩ : exists shared, follow act {} crowdedClip = some shared /\
      shared.sink.written = 3 := ⟨_, rfl, rfl⟩
  exact ⟨shared, reached, body_delivered reached, rfl, rfl, rfl, rfl, written⟩

end SharedSink

end VideoRelay
