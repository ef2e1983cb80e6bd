import VideoRelay.Proofs.Sink.Acts

set_option autoImplicit false

namespace VideoRelay

namespace SinkUse

def fails : SinkUse -> Bool
  | fail _ _ => true
  | clone | drop | setHeader _ _ | write _ => false

def accepted (failed : Bool) : List SinkUse -> List (Option Bytes)
  | [] => []
  | write chunk :: rest => (if failed then none else some chunk) :: accepted failed rest
  | fail _ _ :: rest => accepted true rest
  | clone :: rest | drop :: rest | setHeader _ _ :: rest => accepted failed rest

theorem accepted_append (failed : Bool) (first more : List SinkUse) :
    accepted failed (first ++ more) = accepted failed first ++ accepted (failed || first.any fails) more := by
  induction first generalizing failed with
  | nil => simp [accepted]
  | cons use rest ih => cases use <;> simp [accepted, fails, ih]

theorem accepted_late {uses : List SinkUse} (failed : uses.any fails = true) (chunk : Bytes) (more : List SinkUse) :
    (accepted false (uses ++ write chunk :: more))[(accepted false uses).length]? = some none := by
  rw [accepted_append, failed, List.getElem?_append_right (Nat.le_refl _), Nat.sub_self]
  rfl

end SinkUse

namespace SharedSink

open SinkUse (accepted)

inductive Changes (index : Nat) (receiving : Bool) (old : Writer) : Option Writer -> List (Nat × Bytes) -> Prop
  | dropped : Changes index receiving old none []
  | waits (chunk : Bytes) (offered : old.offered? = some chunk) :
      Changes index receiving old (some (.waiting chunk)) []
  | refused (chunk : Bytes) (offered : old.offered? = some chunk) (closed : receiving = false) :
      Changes index receiving old (some (.finished (.error Sink.clientGone))) []
  | put (chunk : Bytes) (offered : old.offered? = some chunk) :
      Changes index receiving old (some (.finished (.ok ()))) [(index, chunk)]

structure Commits (uses : List SinkUse) (sink : Sink) : Prop where
  failed : sink.commit = .failed <-> uses.any SinkUse.fails = true
  fresh : sink.commit = .pending -> accepted false uses = []
  unfailed : sink.commit ≠ .failed -> forall status text, sink.head ≠ some (.failed status text)
  streams : (sink.commit = .streaming \/ exists chunk, some chunk ∈ accepted false uses) ->
    exists headers, sink.head = some (.stream headers)

namespace Commits

variable {uses : List SinkUse} {sink after : Sink} {shared next : SharedSink} {actions : List Action}

theorem start : Commits [] {} := by
  constructor <;> simp [accepted]

theorem aside {use : SinkUse} (before : Commits uses sink) (unwritten : accepted (uses.any SinkUse.fails) [use] = [])
    (unfailing : use.fails = false) (commit : after.commit = sink.commit)
    (head : after.head = sink.head \/ exists headers, after.head = sink.head.or (some (.stream headers))) :
    Commits (uses ++ [use]) after := by
  have same : accepted false (uses ++ [use]) = accepted false uses := by
    rw [SinkUse.accepted_append, Bool.false_or, unwritten, List.append_nil]
  constructor
  case failed => rw [commit, before.failed]; simp [unfailing]
  case fresh => rw [commit, same]; exact before.fresh
  case unfailed =>
    rw [commit]
    intro still status text decided
    have open_ := before.unfailed still status text
    rcases head with head | ⟨headers, head⟩
    next => exact open_ (head.symm.trans decided)
    next =>
      cases earlier : sink.head with
      | none => rw [head, earlier] at decided; cases decided
      | some first => rw [head, earlier] at decided; exact open_ (earlier.trans decided)
  case streams =>
    rw [commit, same]
    intro begun
    obtain ⟨headers, decided⟩ := before.streams begun
    rcases head with head | ⟨_, head⟩
    next => exact ⟨headers, head.trans decided⟩
    next => exact ⟨headers, by rw [head, decided]; rfl⟩

theorem fail (before : Commits uses sink) (status : Nat) (message : String) :
    Commits (uses ++ [.fail status message]) (sink.fail status message).2 := by
  have same : accepted false (uses ++ [.fail status message]) = accepted false uses := by
    rw [SinkUse.accepted_append]
    exact List.append_nil _
  rw [Sink.fail_eq]
  constructor
  case failed => simp [SinkUse.fails]
  case fresh => intro uncommitted; cases uncommitted
  case unfailed => exact fun still => absurd rfl still
  case streams =>
    rw [same]
    rintro (streaming | ⟨chunk, among⟩)
    next => cases streaming
    next =>
      -- Where a write has begun the head is decided.
      rw [if_neg fun uncommitted => by simp [before.fresh uncommitted] at among]
      exact before.streams (.inr ⟨chunk, among⟩)

theorem count {chunk : Bytes} (before : Commits uses sink) (counted : sink.beginWrite chunk = .ok after) :
    Commits (uses ++ [.write chunk]) after := by
  obtain ⟨streaming, decision⟩ := Sink.beginWrite_cases counted
  have unfailed : sink.commit ≠ .failed := by
    rcases decision with ⟨begun, -⟩ | ⟨pending, -⟩ <;> simp [*]
  -- The first write decides on a stream, where nothing has been decided yet. The others find it decided.
  have stream : exists headers, after.head = some (.stream headers) := by
    rcases decision with ⟨begun, same⟩ | ⟨pending, decided⟩
    next =>
      obtain ⟨headers, known⟩ := before.streams (.inl begun)
      exact ⟨headers, same.trans known⟩
    next =>
      rw [decided]
      cases known : sink.head with
      | none => exact ⟨_, rfl⟩
      | some head =>
        cases head with
        | stream headers => exact ⟨headers, rfl⟩
        | failed status text => exact absurd known (before.unfailed unfailed status text)
  constructor
  case failed =>
    rw [List.any_append, Bool.or_eq_true, <- before.failed]
    simp [streaming, unfailed, SinkUse.fails]
  case fresh => intro pending; cases streaming.symm.trans pending
  case unfailed =>
    obtain ⟨headers, stream⟩ := stream
    exact fun _ status text decided => by cases stream.symm.trans decided
  case streams => exact fun _ => stream

theorem refuse (before : Commits uses sink) (failed : sink.commit = .failed) (chunk : Bytes) :
    Commits (uses ++ [.write chunk]) sink := by
  have late : accepted false (uses ++ [.write chunk]) = accepted false uses ++ [none] := by
    rw [SinkUse.accepted_append, before.failed.1 failed]
    rfl
  constructor
  case failed => rw [before.failed]; simp [SinkUse.fails]
  case fresh => intro pending; cases failed.symm.trans pending
  case unfailed => exact fun still => absurd failed still
  case streams =>
    rw [late]
    rintro (streaming | ⟨other, among⟩)
    next => cases failed.symm.trans streaming
    next => exact before.streams (.inr ⟨other, by simpa using among⟩)

theorem perform {use : SinkUse} (before : Commits uses shared.sink) (performed : shared.Performs use next) :
    Commits (uses ++ [use]) next.sink := by
  cases performed with
  | clone => exact before.aside rfl rfl rfl (.inl rfl)
  | drop =>
    refine before.aside rfl rfl (by simp) ?_
    rw [Sink.dropHandle_eq]
    dsimp only
    split
    next => exact .inr ⟨_, rfl⟩
    next => exact .inl rfl
  | setHeader name value =>
    obtain ⟨headers, same, -⟩ := shared.sink.setHeader_settable name value
    rw [same]
    exact before.aside rfl rfl rfl (.inl rfl)
  | fail status message => exact before.fail status message
  | count chunk counted accepted => exact before.count accepted
  | refuse chunk failed => exact before.refuse failed chunk

end Commits

theorem commits_of_run {shared : SharedSink} {actions : List Action} (reached : follow act {} actions = some shared) :
    Commits (uses actions) shared.sink := by
  have start : Commits (uses []) (sink {}) := .start
  refine follow_keeps (fun done shared => Commits (uses done) shared.sink) start ?_ reached
  intro done middle action next reached before possible
  rw [uses, List.filterMap_append]
  cases step_of_act (records_of_run reached).begun possible with
  | use use _ _ performed => exact before.perform performed
  | aside _ _ foreign same =>
    rw [uses] at foreign
    rw [foreign, List.append_nil]
    obtain ⟨failed, fresh, unfailed, streams⟩ := before
    rw [<- same.commit] at failed fresh unfailed streams
    rw [<- same.head] at unfailed streams
    exact ⟨failed, fresh, unfailed, streams⟩

structure Tallies (uses : List SinkUse) (put : List (Nat × Bytes)) (shared : SharedSink) : Prop where
  count : shared.writes.length = (accepted false uses).length
  pending : forall index chunk, shared.pending? index = some chunk -> (accepted false uses)[index]? = some (some chunk)
  through : forall (index : Nat) (chunk : Bytes), (index, chunk) ∈ put ->
    (accepted false uses)[index]? = some (some chunk) /\
      (shared.writes[index]? = some (some (.finished (.ok ()))) \/ shared.writes[index]? = some none)
  ok : forall index : Nat, shared.writes[index]? = some (some (.finished (.ok ()))) ->
    exists chunk, (index, chunk) ∈ put
  error : forall (index : Nat) (fault : Fault), shared.writes[index]? = some (some (.finished (.error fault))) ->
    fault = Sink.alreadyFailed /\ (accepted false uses)[index]? = some none \/
      fault = Sink.clientGone /\ shared.sink.body.receiving = false /\
        exists chunk, (accepted false uses)[index]? = some (some chunk)
  refused : forall index : Nat, (accepted false uses)[index]? = some none ->
    shared.writes[index]? = some (some (.finished (.error Sink.alreadyFailed))) \/ shared.writes[index]? = some none

namespace Tallies

variable {uses : List SinkUse} {put : List (Nat × Bytes)} {shared next : SharedSink}

theorem start : Tallies [] [] {} := by
  constructor <;> simp [accepted, pending?]

theorem aside (before : Tallies uses put shared) (writes : next.writes = shared.writes)
    (closed : shared.sink.body.receiving = false -> next.sink.body.receiving = false) : Tallies uses put next := by
  have pending (index : Nat) : next.pending? index = shared.pending? index := by rw [pending?, pending?, writes]
  obtain ⟨count, pendings, through, ok, error, refused⟩ := before
  constructor
  case count => rw [writes]; exact count
  case pending => simp only [pending]; exact pendings
  case through => rw [writes]; exact through
  case ok => rw [writes]; exact ok
  case error =>
    rw [writes]
    intro index fault there
    rcases error index fault there with late | ⟨gone, refusing, held⟩
    next => exact .inl late
    next => exact .inr ⟨gone, closed refusing, held⟩
  case refused => rw [writes]; exact refused

theorem use {use : SinkUse} (before : Tallies uses put shared)
    (unwritten : accepted (uses.any SinkUse.fails) [use] = []) : Tallies (uses ++ [use]) put shared := by
  have same : accepted false (uses ++ [use]) = accepted false uses := by
    rw [SinkUse.accepted_append, Bool.false_or, unwritten, List.append_nil]
  obtain ⟨count, pending, through, ok, error, refused⟩ := before
  rw [<- same] at count pending through error refused
  exact ⟨count, pending, through, ok, error, refused⟩

theorem unput (before : Tallies uses put shared) {index : Nat} {chunk : Bytes}
    (pending : shared.pending? index = some chunk) : index ∉ put.map Prod.fst := by
  intro member
  obtain ⟨⟨_, other⟩, among, rfl⟩ := List.mem_map.1 member
  obtain ⟨writer, there, offered⟩ := pending?_eq_some_iff.1 pending
  rcases (before.through _ other among).2 with through | through <;> cases there.symm.trans through
  cases offered

theorem change {index : Nat} {old : Writer} {after : Option Writer} {more : List (Nat × Bytes)}
    (before : Tallies uses put shared) (there : shared.writes[index]? = some (some old))
    (changed : Changes index shared.sink.body.receiving old after more)
    (writes : next.writes = shared.writes.set index after)
    (receiving : next.sink.body.receiving = shared.sink.body.receiving) :
    Tallies uses (put ++ more) next := by
  have stands (other : Nat) : next.writes[other]? = if other = index then some after else shared.writes[other]? := by
    rw [writes, writes_set there]
  have pending {chunk : Bytes} (offered : old.offered? = some chunk) : shared.pending? index = some chunk :=
    (pending?_of_writes there).trans offered
  have held (other : Nat) (chunk : Bytes) (offers : next.pending? other = some chunk) :
      shared.pending? other = some chunk := by
    rw [pending?_set there writes] at offers
    split at offers
    next same =>
      subst same
      cases changed with
      | waits _ offered => cases offers; exact pending offered
      | dropped | refused | put => cases offers
    next => exact offers
  -- It is this write alone that can have put a chunk.
  have putting (other : Nat) (chunk : Bytes) (among : (other, chunk) ∈ more) :
      other = index /\ old.offered? = some chunk /\ after = some (.finished (.ok ())) := by
    cases changed with
    | put _ offered => cases List.mem_singleton.1 among; exact ⟨rfl, offered, rfl⟩
    | dropped | waits | refused => cases among
  constructor
  case count => rw [writes, List.length_set]; exact before.count
  case pending => exact fun other chunk offers => before.pending other chunk (held other chunk offers)
  case through =>
    intro other chunk among
    rw [stands]
    rcases List.mem_append.1 among with earlier | new
    next =>
      refine ⟨(before.through other chunk earlier).1, ?_⟩
      split
      next same =>
        subst same
        -- A write that has put its chunk is over, and can only be forgotten.
        cases changed with
        | dropped => exact .inr rfl
        | waits _ offered | refused _ offered | put _ offered =>
          exact absurd (List.mem_map_of_mem earlier) (before.unput (pending offered))
      next => exact (before.through other chunk earlier).2
    next =>
      obtain ⟨rfl, offered, rfl⟩ := putting other chunk new
      exact ⟨before.pending other chunk (pending offered), by simp⟩
  case ok =>
    intro other finished
    rw [stands] at finished
    split at finished
    next same =>
      subst same
      cases changed with
      | put chunk => exact ⟨chunk, by simp⟩
      | dropped | waits | refused => cases finished
    next =>
      obtain ⟨chunk, among⟩ := before.ok other finished
      exact ⟨chunk, List.mem_append_left _ among⟩
  case error =>
    intro other fault finished
    rw [stands] at finished
    rw [receiving]
    split at finished
    next same =>
      subst same
      cases changed with
      | refused chunk offered closed =>
        cases finished
        exact .inr ⟨rfl, closed, chunk, before.pending _ chunk (pending offered)⟩
      | dropped | waits | put => cases finished
    next => exact before.error other fault finished
  case refused =>
    intro other late
    rw [stands]
    split
    next same =>
      subst same
      cases changed with
      | dropped => exact .inr rfl
      | waits _ offered | refused _ offered | put _ offered =>
        cases late.symm.trans (before.pending _ _ (pending offered))
    next => exact before.refused other late

theorem write {writer : Writer} {chunk : Bytes} {sink : Sink} (before : Tallies uses put shared)
    (begun : uses.any SinkUse.fails = false /\ writer = .offering chunk \/
      uses.any SinkUse.fails = true /\ writer = .finished (.error Sink.alreadyFailed))
    (receiving : sink.body.receiving = shared.sink.body.receiving) :
    Tallies (uses ++ [.write chunk]) put { shared with sink, writes := shared.writes ++ [some writer] } := by
  have tally : accepted false (uses ++ [.write chunk]) =
      accepted false uses ++ [if uses.any SinkUse.fails then none else some chunk] := by
    rw [SinkUse.accepted_append, Bool.false_or]
    rfl
  have within {index : Nat} {found : Option Bytes} (there : (accepted false uses)[index]? = some found) :
      (accepted false (uses ++ [.write chunk]))[index]? = some found := by
    rw [tally, List.getElem?_append_left (List.getElem?_eq_some_iff.1 there).1, there]
  have last : (accepted false (uses ++ [.write chunk]))[shared.writes.length]? =
      some (if uses.any SinkUse.fails then none else some chunk) := by
    rw [tally, before.count, List.getElem?_concat_length]
  -- The write that is begun stands behind all others.
  have stands (index : Nat) := writes_snoc shared (some writer) index
  constructor
  case count => rw [tally, List.length_append, List.length_append, before.count]; rfl
  case pending =>
    intro index other pending
    rw [pending?, stands] at pending
    split at pending
    next same =>
      rcases begun with ⟨early, rfl⟩ | ⟨late, rfl⟩
      next => cases pending; rw [same, last, early]; rfl
      next => cases pending
    next => exact within (before.pending index other pending)
  case through =>
    intro index other among
    obtain ⟨early, ended⟩ := before.through index other among
    refine ⟨within early, ?_⟩
    rw [stands, if_neg]
    next => exact ended
    next =>
      rintro rfl
      rw [List.getElem?_eq_none (Nat.le_refl _)] at ended
      rcases ended with ended | ended <;> cases ended
  case ok =>
    intro index finished
    rw [stands] at finished
    split at finished
    next => rcases begun with ⟨-, rfl⟩ | ⟨-, rfl⟩ <;> cases finished
    next => exact before.ok index finished
  case error =>
    intro index fault finished
    rw [stands] at finished
    rw [receiving]
    split at finished
    next same =>
      subst same
      rcases begun with ⟨-, rfl⟩ | ⟨late, rfl⟩
      next => cases finished
      next => cases finished; exact .inl ⟨rfl, by rw [last, if_pos late]⟩
    next =>
      rcases before.error index fault finished with ⟨refused, late⟩ | ⟨gone, closed, other, early⟩
      next => exact .inl ⟨refused, within late⟩
      next => exact .inr ⟨gone, closed, other, within early⟩
  case refused =>
    intro index late
    rw [stands]
    split
    next same =>
      rw [same, last] at late
      rcases begun with ⟨early, -⟩ | ⟨-, rfl⟩
      next => simp [early] at late
      next => exact .inl rfl
    next earlier =>
      refine before.refused index ?_
      rw [tally, List.getElem?_append] at late
      split at late
      next => exact late
      next beyond =>
        rw [List.getElem?_eq_none (by simp; have := before.count; omega)] at late
        cases late

theorem perform {use : SinkUse} (before : Tallies uses put shared) (commits : Commits uses shared.sink)
    (performed : shared.Performs use next) : Tallies (uses ++ [use]) put next := by
  cases performed with
  | clone => exact (before.use rfl).aside rfl id
  | drop => exact (before.use rfl).aside rfl (by simp [Channel.dropSender])
  | setHeader name value =>
    obtain ⟨headers, same, -⟩ := shared.sink.setHeader_settable name value
    rw [same]
    exact (before.use rfl).aside rfl id
  | fail status message =>
    rw [Sink.fail_eq]
    exact (before.use rfl).aside rfl id
  | count chunk counted accepted =>
    have unfailed : shared.sink.commit ≠ .failed := by
      rcases (Sink.beginWrite_cases accepted).2 with ⟨begun, -⟩ | ⟨pending, -⟩ <;> simp [*]
    have early := Bool.eq_false_iff.2 fun failed => unfailed (commits.failed.2 failed)
    exact before.write (.inl ⟨early, rfl⟩) (by rw [Sink.beginWrite_body accepted])
  | refuse chunk failed => exact before.write (.inr ⟨commits.failed.1 failed, rfl⟩) rfl

theorem unused (after : Tallies uses put next) : Tallies (uses ++ []) put next := by
  rw [List.append_nil]
  exact after

theorem quiet (after : Tallies uses put next) : Tallies (uses ++ []) (put ++ []) next := by
  rw [List.append_nil put]
  exact after.unused

theorem act {action : Action} (before : Tallies uses put shared) (commits : Commits uses shared.sink)
    (acts : shared.Acts action next) :
    Tallies (uses ++ SharedSink.uses [action]) (put ++ shared.putsBy action) next := by
  cases acts with
  | use use _ performed => simpa [SharedSink.uses, Action.use?, putsBy] using before.perform commits performed
  | put index chunk pending unclosed granted =>
    obtain ⟨writer, there, offered⟩ := pending?_eq_some_iff.1 pending
    rw [putsBy_of_granted pending unclosed granted]
    exact unused (before.change there (.put chunk offered) rfl rfl)
  | queue index chunk pending unclosed unpromised taken fresh =>
    obtain ⟨writer, there, offered⟩ := pending?_eq_some_iff.1 pending
    rw [putsBy_of_queued pending unclosed unpromised taken fresh]
    exact unused (before.change there (.waits chunk offered) rfl rfl)
  | refuse index chunk pending closed =>
    obtain ⟨writer, there, offered⟩ := pending?_eq_some_iff.1 pending
    rw [putsBy_of_closed pending closed]
    exact unused (before.change there (.refused chunk offered closed) rfl rfl)
  | abandon index writer there =>
    exact unused (before.change there .dropped rfl (Sink.Released.withdraw index).receiving)
  | ask | receiveStream | takeChunk | takeText =>
    exact quiet (before.aside rfl id)
  | receiveFault | leave => exact quiet (before.aside rfl fun _ => rfl)

end Tallies

variable {shared next : SharedSink} {actions : List Action}

theorem acts_of_run {action : Action} (reached : follow act {} actions = some shared)
    (possible : shared.act action = some next) : shared.Acts action next :=
  acts_of_act (records_of_run reached).begun possible

theorem tallies_of_run (reached : follow act {} actions = some shared) :
    Tallies (uses actions) (puts actions) shared := by
  refine follow_keeps (fun done shared => Tallies (uses done) (puts done) shared) .start ?_ reached
  intro done middle action next reached before possible
  rw [uses, List.filterMap_append, puts, chronicle_snoc putsBy reached possible]
  exact before.act (commits_of_run reached) (acts_of_run reached possible)

end SharedSink

end VideoRelay
