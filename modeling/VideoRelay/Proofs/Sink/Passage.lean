import VideoRelay.Proofs.Sink.Line

set_option autoImplicit false

namespace VideoRelay

def Reader.wants : Reader -> Bool
  | unasked | asked | body => true
  | message _ | gone => false

namespace SharedSink

open SinkUse (accepted)

variable {shared next : SharedSink} {actions : List Action} {index : Nat} {chunk : Bytes}

theorem Performs.reader {use : SinkUse} (performed : shared.Performs use next) : next.reader = shared.reader := by
  cases performed <;> rfl

structure Heeds (shared : SharedSink) : Prop where
  wants : shared.sink.body.receiving = shared.reader.wants
  told : forall rest, shared.reader = .message rest ->
    exists status text, shared.sink.head = some (.failed status text)

namespace Heeds

theorem act {action : Action} (before : shared.Heeds) (acts : shared.Acts action next) : next.Heeds := by
  obtain ⟨wants, told⟩ := before
  cases acts with
  | use use _ performed =>
    obtain ⟨senders, body⟩ := performed.body
    refine ⟨by rw [body, performed.reader, <- wants], fun rest telling => ?_⟩
    rw [performed.reader] at telling
    obtain ⟨status, text, decided⟩ := told rest telling
    exact ⟨status, text, performed.head decided⟩
  | put | queue | refuse => exact ⟨wants, told⟩
  | abandon index => exact ⟨(Sink.Released.withdraw index).receiving.trans wants, told⟩
  | ask unasked => exact ⟨by rw [wants, unasked]; rfl, fun rest telling => by cases telling⟩
  | receiveStream headers asked => exact ⟨by rw [wants, asked]; rfl, fun rest telling => by cases telling⟩
  | receiveFault status text asked decided => exact ⟨rfl, fun _ _ => ⟨status, text, decided⟩⟩
  | takeChunk chunk streaming => exact ⟨by rw [Channel.taken, wants, streaming], fun rest telling => by cases telling⟩
  | takeText rest telling => exact ⟨by rw [wants, telling]; rfl, fun _ _ => told rest telling⟩
  | leave => exact ⟨rfl, fun rest telling => by cases telling⟩

theorem gone (heeds : shared.Heeds) {headers : Headers} (streams : shared.sink.head = some (.stream headers))
    (closed : shared.sink.body.receiving = false) : shared.reader = .gone := by
  have wants := heeds.wants.symm.trans closed
  cases reader : shared.reader with
  | gone => rfl
  | message rest =>
    obtain ⟨status, text, failed⟩ := heeds.told rest reader
    cases streams.symm.trans failed
  | unasked | asked | body => rw [reader] at wants; cases wants

end Heeds

theorem heeds_of_run (reached : follow act {} actions = some shared) : shared.Heeds := by
  refine follow_keeps (fun _ => Heeds) ⟨rfl, fun rest telling => by cases telling⟩ ?_ reached
  exact fun done middle action next reached before possible => before.act (acts_of_run reached possible)

theorem place_of_granted {asked granted put quit : List Nat} (lines : Lines asked granted put quit shared)
    (free : shared.sink.body.promised = some index \/ shared.sink.body.isFree = true) : shared.sink.body.place = none := by
  rcases free with promised | free
  next => exact lines.empty (by simp [promised])
  next => exact (Channel.isFree_iff.1 free).1

def Passes (put taken : List Bytes) (shared : SharedSink) : Prop :=
  exists left : Option Bytes, put = taken ++ left.toList /\
    (shared.sink.body.receiving = true -> left = shared.sink.body.place)

namespace Passes

variable {put taken : List Bytes}

theorem quiet (after : Passes put taken next) : Passes (put ++ []) (taken ++ []) next := by
  simpa using after

theorem aside (before : Passes put taken shared) (place : next.sink.body.place = shared.sink.body.place)
    (receiving : next.sink.body.receiving = shared.sink.body.receiving) : Passes put taken next := by
  obtain ⟨left, same, held⟩ := before
  exact ⟨left, same, fun unclosed => (held (receiving.symm.trans unclosed)).trans place.symm⟩

theorem close (before : Passes put taken shared) (closed : next.sink.body.receiving = false) : Passes put taken next := by
  obtain ⟨left, same, -⟩ := before
  exact ⟨left, same, fun unclosed => by cases closed.symm.trans unclosed⟩

theorem act {action : Action} {asked granted putters quit : List Nat} (before : Passes put taken shared)
    (lines : Lines asked granted putters quit shared) (acts : shared.Acts action next) :
    Passes (put ++ (shared.putsBy action).map Prod.snd) (taken ++ shared.takesBy action) next := by
  cases acts with
  | use use _ performed =>
    obtain ⟨senders, body⟩ := performed.body
    exact quiet (before.aside (by rw [body]) (by rw [body]))
  | put index chunk pending unclosed free =>
    obtain ⟨left, same, held⟩ := before
    rw [held unclosed, place_of_granted lines free, Option.toList_none, List.append_nil] at same
    rw [putsBy_of_granted pending unclosed free, same]
    exact ⟨some chunk, by simp [takesBy], fun _ => rfl⟩
  | queue index chunk pending unclosed unpromised taken fresh =>
    rw [putsBy_of_queued pending unclosed unpromised taken fresh]
    exact quiet (before.aside rfl rfl)
  | refuse index chunk pending closed =>
    rw [putsBy_of_closed pending closed]
    exact quiet (before.aside rfl rfl)
  | abandon index =>
    have released : shared.sink.Released { shared.sink with body := shared.sink.body.withdraw index } := .withdraw index
    exact quiet (before.aside released.place released.receiving)
  | ask | receiveStream => exact quiet (before.aside rfl rfl)
  | receiveFault | leave => exact quiet (before.close rfl)
  | takeChunk chunk streaming ready =>
    obtain ⟨left, same, held⟩ := before
    have unclosed := Channel.receiving_of_place (fun closed => (lines.lost closed).1) ready
    rw [held unclosed, ready] at same
    exact ⟨none, by simp [takesBy, putsBy, streaming, ready, same], fun _ => rfl⟩
  | takeText rest telling =>
    have none : shared.takesBy .takeFrame = [] := by rw [takesBy, telling]
    rw [none]
    exact quiet (before.aside rfl rfl)

end Passes

theorem passes_of_run (reached : follow act {} actions = some shared) :
    Passes ((puts actions).map Prod.snd) (takes actions) shared := by
  refine follow_keeps (fun done shared => Passes ((puts done).map Prod.snd) (takes done) shared)
    ⟨none, rfl, fun _ => rfl⟩ ?_ reached
  intro done middle action next reached before possible
  rw [puts, takes, chronicle_snoc putsBy reached possible, chronicle_snoc takesBy reached possible, List.map_append]
  exact before.act (lines_of_run reached) (acts_of_run reached possible)

theorem arrival_of_acts {action : Action} {asked granted put quit : List Nat} (lines : Lines asked granted put quit shared)
    (acts : shared.Acts action next) :
    shared.sink.body.arrival next.sink.body = (shared.putsBy action).map Prod.snd := by
  cases acts with
  | use use _ performed =>
    obtain ⟨senders, body⟩ := performed.body
    exact Channel.arrival_of_same (by rw [body])
  | put index chunk pending unclosed free =>
    rw [putsBy_of_granted pending unclosed free, Channel.arrival, place_of_granted lines free]
    rfl
  | queue index chunk pending unclosed unpromised taken fresh =>
    rw [putsBy_of_queued pending unclosed unpromised taken fresh]
    exact Channel.arrival_of_same rfl
  | refuse index chunk pending closed =>
    rw [putsBy_of_closed pending closed]
    exact Channel.arrival_of_same rfl
  | abandon index => exact Channel.arrival_of_same (Sink.Released.withdraw index).place
  | ask | receiveStream | takeText => exact Channel.arrival_of_same rfl
  | receiveFault | takeChunk | leave => exact Channel.arrival_of_empty rfl

def arrivals (actions : List Action) : List Bytes :=
  trace act (fun before after => before.sink.body.arrival after.sink.body) {} actions

theorem arrivals_of_run (reached : follow act {} actions = some shared) :
    arrivals actions = (puts actions).map Prod.snd := by
  refine follow_keeps (fun done _ => arrivals done = (puts done).map Prod.snd) rfl ?_ reached
  intro done middle action next reached before possible
  rw [arrivals, trace_snoc _ reached possible, puts, chronicle_snoc putsBy reached possible, List.map_append,
    arrival_of_acts (lines_of_run reached) (acts_of_run reached possible)]
  exact congrArg (· ++ _) before

theorem pending_act {action : Action} (acts : shared.Acts action next) (pending : shared.pending? index = some chunk)
    (held : action ≠ .abandon index) : next.pending? index = some chunk \/ (index, chunk) ∈ shared.putsBy action \/
      shared.sink.body.receiving = false := by
  -- A move of one of the writes leaves the others as they are.
  have others {moved : Nat} {writer : Writer} {after : Option Writer} (there : shared.writes[moved]? = some (some writer))
      (writes : next.writes = shared.writes.set moved after) (apart : index ≠ moved) :
      next.pending? index = some chunk := by
    rw [pending?_set there writes, if_neg apart, pending]
  cases acts with
  | use use _ performed =>
    refine .inl ?_
    rcases performed.writes with same | ⟨writer, more, -⟩
    next => rw [pending?, same]; exact pending
    next =>
      obtain ⟨underway, there, -⟩ := pending?_eq_some_iff.1 pending
      rw [pending?, more, List.getElem?_append_left (List.getElem?_eq_some_iff.1 there).1]
      exact pending
  | put moved other offers unclosed free =>
    by_cases same : index = moved
    next =>
      subst same
      cases pending.symm.trans offers
      exact .inr (.inl (by rw [putsBy_of_granted pending unclosed free]; exact List.mem_singleton_self _))
    next =>
      obtain ⟨writer, there, -⟩ := pending?_eq_some_iff.1 offers
      exact .inl (others there rfl same)
  | queue moved other offers =>
    obtain ⟨writer, there, -⟩ := pending?_eq_some_iff.1 offers
    by_cases same : index = moved
    next =>
      subst same
      cases pending.symm.trans offers
      exact .inl (by rw [pending?_set there rfl, if_pos rfl]; rfl)
    next => exact .inl (others there rfl same)
  | refuse moved other offers closed => exact .inr (.inr closed)
  | abandon moved writer there => exact .inl (others there rfl fun same => held (same ▸ rfl))
  | ask | receiveStream | receiveFault | takeChunk | takeText | leave => exact .inl pending

theorem gone_act {action : Action} (acts : shared.Acts action next) (gone : shared.reader = .gone) : next.reader = .gone := by
  cases acts with
  | use use _ performed => exact performed.reader.trans gone
  | put | queue | refuse | abandon => exact gone
  | ask other | receiveStream _ other | receiveFault _ _ other | takeChunk _ other | takeText _ other =>
    cases gone.symm.trans other
  | leave => rfl

theorem streams_of_pending (reached : follow act {} actions = some shared)
    (pending : shared.pending? index = some chunk) : exists headers, shared.sink.head = some (.stream headers) :=
  (commits_of_run reached).streams
    (.inr ⟨chunk, List.mem_of_getElem? ((tallies_of_run reached).pending index chunk pending)⟩)

theorem streams_of_put (reached : follow act {} actions = some shared) (something : puts actions ≠ []) :
    exists headers, shared.sink.head = some (.stream headers) := by
  obtain ⟨⟨index, chunk⟩, among⟩ := List.exists_mem_of_ne_nil _ something
  exact (commits_of_run reached).streams
    (.inr ⟨chunk, List.mem_of_getElem? ((tallies_of_run reached).through index chunk among).1⟩)

theorem kept_of_run (reached : follow act {} actions = some shared) (present : shared.reader ≠ .gone) :
    (puts actions).map Prod.snd = takes actions ++ shared.sink.body.place.toList := by
  obtain ⟨left, same, held⟩ := passes_of_run reached
  cases unclosed : shared.sink.body.receiving with
  | true => rw [same, held unclosed]
  | false =>
    -- The body was dropped for the text of a failure, before which nothing was put.
    rw [((lines_of_run reached).lost unclosed).1]
    cases left with
    | none => exact same
    | some chunk =>
      obtain ⟨headers, streams⟩ := streams_of_put reached fun none => by simp [none] at same
      exact absurd ((heeds_of_run reached).gone streams unclosed) present

theorem streams_of_place (reached : follow act {} actions = some shared) (present : shared.reader ≠ .gone)
    (ready : shared.sink.body.place = some chunk) : exists headers, shared.sink.head = some (.stream headers) := by
  have kept := kept_of_run reached present
  rw [ready] at kept
  exact streams_of_put reached fun none => by simp [none] at kept

theorem pending_of_putsBy {action : Action} (something : shared.putsBy action ≠ []) :
    exists index chunk, shared.pending? index = some chunk := by
  unfold putsBy at something
  split at something
  next index =>
    split at something
    next chunk pending => exact ⟨index, chunk, pending⟩
    next => exact absurd rfl something
  next => exact absurd rfl something

theorem mem_puts_iff (reached : follow act {} actions = some shared) : (index, chunk) ∈ puts actions <->
    (accepted false (uses actions))[index]? = some (some chunk) /\
      exists early late middle, actions = early ++ .resume index :: late /\ follow act {} early = some middle /\
        middle.reader.wants = true /\
        (middle.sink.body.promised = some index \/ middle.sink.body.isFree = true) := by
  have tallies := tallies_of_run reached
  constructor
  next =>
    intro among
    refine ⟨(tallies.through index chunk among).1, ?_⟩
    obtain ⟨early, action, late, middle, rfl, before, now⟩ := (mem_chronicle_iff putsBy reached).1 among
    unfold putsBy at now
    split at now
    next other =>
      split at now
      next found pending =>
        split at now
        next channel taken =>
          obtain ⟨unclosed, free, -⟩ := Channel.offer_eq_taken_iff.1 taken
          cases List.mem_singleton.1 now
          exact ⟨early, late, middle, rfl, before, (heeds_of_run before).wants.symm.trans unclosed, free⟩
        next => cases now
      next => cases now
    next => cases now
  next =>
    rintro ⟨unfailed, early, late, middle, rfl, before, wants, free⟩
    have unclosed := (heeds_of_run before).wants.trans wants
    have rest : follow act middle (.resume index :: late) = some shared := by
      rw [follow_append, before] at reached
      exact reached
    obtain ⟨next, possible, -⟩ := Option.bind_eq_some_iff.1 rest
    obtain ⟨found, now⟩ : exists found, (index, found) ∈ middle.putsBy (.resume index) := by
      cases acts_of_run before possible with
      | put _ found pending =>
        rw [putsBy_of_granted pending unclosed free]
        exact ⟨found, List.mem_singleton_self _⟩
      | queue _ found pending _ unpromised taken => rcases free with promised | free <;> simp_all
      | refuse _ found pending closed => cases closed.symm.trans unclosed
    have among := (mem_chronicle_iff putsBy reached).2 ⟨early, _, late, middle, rfl, before, now⟩
    cases unfailed.symm.trans (tallies.through index found among).1
    exact among

theorem pending_lasts {late : List Action} {last : SharedSink} (reached : follow act {} actions = some shared)
    (pending : shared.pending? index = some chunk) (led : follow act shared late = some last)
    (held : .abandon index ∉ late) :
    last.pending? index = some chunk \/ (index, chunk) ∈ puts (actions ++ late) \/ last.reader = .gone := by
  refine follow_keeps (fun done last => .abandon index ∉ done -> last.pending? index = some chunk \/
    (index, chunk) ∈ puts (actions ++ done) \/ last.reader = .gone) (fun _ => .inl pending) ?_ led held
  intro done middle action next before lasts possible held
  simp only [List.mem_append, List.mem_singleton, not_or] at held
  have before : follow act {} (actions ++ done) = some middle := by rw [follow_append, reached]; exact before
  have acts := acts_of_run before possible
  rw [<- List.append_assoc, puts, chronicle_snoc putsBy before possible]
  rcases lasts held.1 with pending | put | gone
  next =>
    rcases pending_act acts pending (Ne.symm held.2) with still | puts | closed
    next => exact .inl still
    next => exact .inr (.inl (List.mem_append_right _ puts))
    next =>
      obtain ⟨headers, streams⟩ := streams_of_pending before pending
      exact .inr (.inr (gone_act acts ((heeds_of_run before).gone streams closed)))
  next => exact .inr (.inl (List.mem_append_left _ put))
  next => exact .inr (.inr (gone_act acts gone))

theorem late_write (failed : shared.sink.commit = .failed) (held : shared.sink.body.senders ≠ 0) (chunk : Bytes) :
    shared.act (.use (.write chunk)) =
      some { shared with writes := shared.writes ++ [some (.finished (.error Sink.alreadyFailed))] } := by
  simp only [act, perform, if_neg held, Writer.step, Sink.beginWrite, failed, Option.map_some]

/-- What has become of a write, by how it stands. -/
def Fate (uses : List SinkUse) (put : List (Nat × Bytes)) (shared : SharedSink) (index : Nat) : Writer -> Prop
  | .starting _ => False
  | .offering chunk | .waiting chunk =>
    (accepted false uses)[index]? = some (some chunk) /\ index ∉ put.map Prod.fst
  | .finished (.ok ()) => exists chunk, (accepted false uses)[index]? = some (some chunk) /\ (index, chunk) ∈ put
  | .finished (.error fault) => index ∉ put.map Prod.fst /\
      (fault = Sink.alreadyFailed /\ (accepted false uses)[index]? = some none \/
        fault = Sink.clientGone /\ shared.reader = .gone /\
          exists chunk, (accepted false uses)[index]? = some (some chunk))

theorem fate_of_run {writer : Writer} (reached : follow act {} actions = some shared)
    (there : shared.writes[index]? = some (some writer)) : Fate (uses actions) (puts actions) shared index writer := by
  have tallies := tallies_of_run reached
  have held {chunk : Bytes} (offered : writer.offered? = some chunk) :
      (accepted false (uses actions))[index]? = some (some chunk) /\ index ∉ (puts actions).map Prod.fst := by
    have pending := (pending?_of_writes there).trans offered
    exact ⟨tallies.pending index chunk pending, tallies.unput pending⟩
  cases writer with
  | starting chunk => exact (records_of_run reached).begun _ (List.mem_of_getElem? there) chunk rfl
  | offering chunk | waiting chunk => exact held rfl
  | finished outcome =>
    cases outcome with
    | ok done =>
      obtain ⟨chunk, among⟩ := tallies.ok index there
      exact ⟨chunk, (tallies.through index chunk among).1, among⟩
    | error fault =>
      refine ⟨fun among => ?_, ?_⟩
      next =>
        obtain ⟨⟨_, chunk⟩, put, rfl⟩ := List.mem_map.1 among
        rcases (tallies.through _ chunk put).2 with ended | ended <;> cases there.symm.trans ended
      next =>
        rcases tallies.error index fault there with late | ⟨gone, closed, chunk, early⟩
        next => exact .inl late
        next =>
          obtain ⟨headers, streams⟩ := (commits_of_run reached).streams (.inr ⟨chunk, List.mem_of_getElem? early⟩)
          exact .inr ⟨gone, (heeds_of_run reached).gone streams closed, chunk, early⟩

end SharedSink

end VideoRelay
