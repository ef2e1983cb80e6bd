import VideoRelay.Proofs.Run
import VideoRelay.Proofs.Sink

set_option autoImplicit false

namespace VideoRelay

theorem Headers.insert_nodup (headers : Headers) {name value : String}
    (once : (headers.entries.map Prod.fst).Nodup) : ((headers.insert name value).entries.map Prod.fst).Nodup := by
  have others : ((headers.entries.filter fun entry => entry.1 != name).map Prod.fst).Nodup :=
    once.sublist (List.filter_sublist.map Prod.fst)
  simp only [Headers.insert, List.map_append, List.map_cons, List.map_nil]
  refine List.nodup_append.2 ⟨others, by simp, ?_⟩
  simp only [List.mem_map, List.mem_filter, List.mem_singleton]
  rintro other ⟨entry, ⟨-, kept⟩, rfl⟩ _ rfl
  simpa using kept

inductive SinkUse where
  | clone | drop
  | setHeader (name value : String)
  | write (chunk : Bytes)
  | fail (status : Nat) (message : String)

namespace SinkUse

def counted (count : Nat) : SinkUse -> Nat
  | clone => count + 1
  | drop => count - 1
  | setHeader _ _ | write _ | fail _ _ => count

def handles (uses : List SinkUse) : Nat :=
  uses.foldl counted 1

def set (headers : Headers) : SinkUse -> Headers
  | setHeader name value => headers.insert name value
  | clone | drop | write _ | fail _ _ => headers

def fields (uses : List SinkUse) : Headers :=
  uses.foldl set {}

def value? (name : String) : SinkUse -> Option String
  | setHeader other value => if name = other then some value else none
  | clone | drop | write _ | fail _ _ => none

def commits : SinkUse -> Bool
  | write _ | fail _ _ => true
  | clone | drop | setHeader _ _ => false

/-- Whether the head is decided by this use if nothing before it has decided it. -/
def decides (before : List SinkUse) : SinkUse -> Bool
  | write _ | fail _ _ => true
  | drop => handles before = 1
  | clone | setHeader _ _ => false

/-- The head that such a use decides on. -/
def ruling (before : List SinkUse) : SinkUse -> Head
  | fail status message => .failed status message
  | clone | drop | setHeader _ _ | write _ => .stream (fields before)

def Undecided (uses : List SinkUse) : Prop :=
  forall before use after, uses = before ++ use :: after -> use.decides before = false

theorem undecided_nil : Undecided [] := by
  intro before use after same
  cases before <;> cases same

theorem undecided_snoc {uses : List SinkUse} {use : SinkUse} :
    Undecided (uses ++ [use]) <-> Undecided uses /\ use.decides uses = false := by
  constructor
  next =>
    intro open_
    refine ⟨fun before other after same => open_ before other (after ++ [use]) ?_, open_ uses use [] rfl⟩
    simp [same]
  next =>
    rintro ⟨open_, undecisive⟩ before other after same
    -- The use in question is the last one or one of those before.
    rcases List.append_eq_append_iff.1 same with ⟨more, rfl, split⟩ | ⟨more, rfl, split⟩
    next =>
      rcases List.singleton_eq_append_iff.1 split with ⟨rfl, split⟩ | ⟨rfl, split⟩
      next => cases split; simpa using undecisive
      next => cases split
    next =>
      cases more with
      | nil => cases split; simpa using undecisive
      | cons first more => cases split; exact open_ before other more rfl

theorem get?_foldl (uses : List SinkUse) (headers : Headers) (name : String) :
    (uses.foldl set headers).get? name = (uses.filterMap (value? name)).getLast?.or (headers.get? name) := by
  induction uses generalizing headers with
  | nil => rfl
  | cons use rest ih =>
    rw [List.foldl_cons, ih, List.filterMap_cons]
    cases use with
    | setHeader other value =>
      by_cases same : name = other
      next => simp [set, value?, same, Headers.get?_insert, List.getLast?_cons]
      next => simp [set, value?, same, Headers.get?_insert]
    | clone | drop | write | fail => rfl

theorem nodup_foldl (uses : List SinkUse) {headers : Headers} (once : (headers.entries.map Prod.fst).Nodup) :
    ((uses.foldl set headers).entries.map Prod.fst).Nodup := by
  induction uses generalizing headers with
  | nil => exact once
  | cons use rest ih =>
    cases use with
    | setHeader name value => exact ih (headers.insert_nodup once)
    | clone | drop | write | fail => exact ih once

theorem get?_fields (uses : List SinkUse) (name : String) :
    (fields uses).get? name = (uses.filterMap (value? name)).getLast? := by
  rw [fields, get?_foldl]
  exact Option.or_none

end SinkUse

/-- A sink with the writes begun through its handles, those that were given up left out, and its client. -/
structure SharedSink where
  sink : Sink := {}
  writes : List (Option Writer) := []
  reader : Reader := .unasked

namespace Sink

inductive Awaited where
  | waiting
  | decided (head : Head)
  | vanished
deriving DecidableEq, Repr

def awaited (sink : Sink) : Awaited :=
  match sink.head with
  | some head => .decided head
  | none => if sink.body.senders = 0 then .vanished else .waiting

end Sink

namespace SharedSink

inductive Action where
  | use (use : SinkUse)
  | resume (index : Nat)
  | abandon (index : Nat)
  | ask | receiveHead | takeFrame | leave

def perform (shared : SharedSink) (use : SinkUse) : Option SharedSink :=
  if shared.sink.body.senders = 0 then none
  else match use with
    | .clone => some { shared with sink := shared.sink.addHandle }
    | .drop => some { shared with sink := shared.sink.dropHandle }
    | .setHeader name value => some { shared with sink := (shared.sink.setHeader name value).2 }
    | .fail status message => some { shared with sink := (shared.sink.fail status message).2 }
    | .write chunk => ((Writer.starting chunk).step shared.writes.length shared.sink).map fun (writer, sink) =>
        { shared with sink, writes := shared.writes ++ [some writer] }

def act (shared : SharedSink) : Action -> Option SharedSink
  | .use use => shared.perform use
  | .resume index =>
    match shared.writes[index]? with
    | some (some writer) => (writer.step index shared.sink).map fun (writer, sink) =>
        { shared with sink, writes := shared.writes.set index (some writer) }
    | _ => none
  | .abandon index =>
    match shared.writes[index]? with
    | some (some _) => some { shared with
        sink := { shared.sink with body := shared.sink.body.withdraw index }
        writes := shared.writes.set index none }
    | _ => none
  | .ask =>
    match shared.reader with
    | .unasked => some { shared with reader := .asked }
    | _ => none
  | .receiveHead => (shared.reader.receiveHead shared.sink).map fun (_, reader, sink) => { shared with reader, sink }
  | .takeFrame =>
    match shared.reader.read shared.sink with
    | some (.frame _ reader sink) => some { shared with reader, sink }
    | _ => none
  | .leave =>
    let (reader, sink) := Reader.drop shared.sink
    some { shared with reader, sink }

def Action.use? : Action -> Option SinkUse
  | use made => some made
  | _ => none

def uses (actions : List Action) : List SinkUse :=
  actions.filterMap Action.use?

theorem exists_of_uses {actions : List Action} {before after : List SinkUse} {use : SinkUse}
    (same : uses actions = before ++ use :: after) :
    exists early late, actions = early ++ .use use :: late /\ uses early = before := by
  obtain ⟨early, rest, rfl, made, later⟩ := List.filterMap_eq_append_iff.1 same
  obtain ⟨idle, action, late, rfl, foreign, found, -⟩ := List.filterMap_eq_cons_iff.1 later
  refine ⟨early ++ idle, late, ?_, ?_⟩
  next =>
    cases action with
    | use other => cases found; simp
    | _ => cases found
  next => rw [uses, List.filterMap_append, made, List.filterMap_eq_nil_iff.2 foreign, List.append_nil]

end SharedSink

structure Sink.Alike (before after : Sink) : Prop where
  headers : after.headers = before.headers
  head : after.head = before.head
  commit : after.commit = before.commit
  senders : after.body.senders = before.body.senders

theorem Sink.Alike.refl (sink : Sink) : sink.Alike sink :=
  ⟨rfl, rfl, rfl, rfl⟩

theorem Writer.alike_of_step {handle : Nat} {writer after : Writer} {sink next : Sink}
    (begun : forall chunk, writer ≠ starting chunk) (stepped : writer.step handle sink = some (after, next)) :
    sink.Alike next /\ forall chunk, after ≠ starting chunk := by
  cases move_of_step stepped with
  | count chunk | refuse chunk => exact absurd rfl (begun chunk)
  | put | queue => exact ⟨⟨rfl, rfl, rfl, rfl⟩, by simp⟩
  | abandon => exact ⟨.refl _, by simp⟩

theorem Reader.alike_of_receiveHead {reader after : Reader} {sink next : Sink} {head : ResponseHead}
    (received : reader.receiveHead sink = some (head, after, next)) : sink.Alike next := by
  unfold receiveHead at received
  split at received
  next =>
    split at received
    next => cases received; exact .refl _
    next => cases received; exact ⟨rfl, rfl, rfl, rfl⟩
  next => cases received

theorem Reader.receiveHead_asked (sink : Sink) :
    (asked.receiveHead sink).map Prod.fst = sink.head.map Head.response := by
  unfold receiveHead
  cases sink.head with
  | none => rfl
  | some head => cases head <;> rfl

theorem Reader.alike_of_read {reader after : Reader} {sink next : Sink} {frame : Bytes}
    (taken : reader.read sink = some (.frame frame after next)) : sink.Alike next := by
  unfold read at taken
  split at taken
  next =>
    split at taken
    next chunk channel item =>
      obtain ⟨-, rfl⟩ := Channel.take_eq_item_iff.1 item
      cases taken
      exact ⟨rfl, rfl, rfl, rfl⟩
    next => cases taken
    next => cases taken
  next =>
    split at taken
    next => cases taken
    next => cases taken; exact .refl _
  next => cases taken

namespace SharedSink

inductive Performs (shared : SharedSink) : SinkUse -> SharedSink -> Prop
  | clone : Performs shared .clone { shared with sink := shared.sink.addHandle }
  | drop : Performs shared .drop { shared with sink := shared.sink.dropHandle }
  | setHeader (name value : String) :
      Performs shared (.setHeader name value) { shared with sink := (shared.sink.setHeader name value).2 }
  | fail (status : Nat) (message : String) :
      Performs shared (.fail status message) { shared with sink := (shared.sink.fail status message).2 }
  | count (chunk : Bytes) (counted : Sink) (accepted : shared.sink.beginWrite chunk = .ok counted) :
      Performs shared (.write chunk)
        { shared with sink := counted, writes := shared.writes ++ [some (.offering chunk)] }
  | refuse (chunk : Bytes) (failed : shared.sink.commit = .failed) :
      Performs shared (.write chunk)
        { shared with writes := shared.writes ++ [some (.finished (.error Sink.alreadyFailed))] }

theorem performs_of_perform {shared next : SharedSink} {use : SinkUse} (performed : shared.perform use = some next) :
    shared.sink.body.senders ≠ 0 /\ shared.Performs use next := by
  unfold perform at performed
  split at performed
  next => cases performed
  next present =>
    refine ⟨present, ?_⟩
    split at performed
    next => cases performed; exact .clone
    next => cases performed; exact .drop
    next name value => cases performed; exact .setHeader name value
    next status message => cases performed; exact .fail status message
    next chunk =>
      obtain ⟨⟨writer, sink⟩, stepped, rfl⟩ := Option.map_eq_some_iff.1 performed
      cases Writer.move_of_step stepped with
      | count _ _ accepted => exact .count chunk _ accepted
      | refuse _ failed => exact .refuse chunk failed
      | put _ _ offered | queue _ _ offered | abandon _ _ offered =>
        rcases offered with offered | offered <;> cases offered

theorem Performs.head {shared next : SharedSink} {use : SinkUse} {head : Head} (performed : shared.Performs use next)
    (decided : shared.sink.head = some head) : next.sink.head = some head := by
  cases performed with
  | clone | refuse => exact decided
  | drop => simp [Sink.dropHandle_eq, decided]
  | setHeader name value =>
    obtain ⟨headers, same, -⟩ := shared.sink.setHeader_settable name value
    rw [same]
    exact decided
  | fail status message => simp [Sink.fail_eq, decided]
  | count chunk _ accepted =>
    rcases (Sink.beginWrite_cases accepted).2 with ⟨-, same⟩ | ⟨-, later⟩
    next => rw [same, decided]
    next => rw [later, decided]; rfl

theorem Performs.senders {shared next : SharedSink} {use : SinkUse} (performed : shared.Performs use next) :
    next.sink.body.senders = use.counted shared.sink.body.senders := by
  cases performed with
  | clone | refuse => rfl
  | drop => simp [Channel.dropSender, SinkUse.counted]
  | setHeader name value =>
    obtain ⟨headers, same, -⟩ := shared.sink.setHeader_settable name value
    rw [same]
    rfl
  | fail => rw [Sink.fail_eq]; rfl
  | count chunk _ accepted => rw [Sink.beginWrite_body accepted]; rfl

theorem Performs.isCommitted {shared next : SharedSink} {use : SinkUse} (performed : shared.Performs use next) :
    next.sink.isCommitted = (shared.sink.isCommitted || use.commits) := by
  cases performed with
  | clone => simp [Sink.addHandle, Sink.isCommitted, SinkUse.commits]
  | drop => simp [Sink.isCommitted, SinkUse.commits]
  | setHeader name value =>
    obtain ⟨headers, same, -⟩ := shared.sink.setHeader_settable name value
    rw [same]
    simp [Sink.isCommitted, SinkUse.commits]
  | fail => simp [Sink.fail_eq, Sink.isCommitted, SinkUse.commits]
  | count chunk _ accepted => simp [(Sink.beginWrite_cases accepted).1, Sink.isCommitted, SinkUse.commits]
  | refuse chunk failed => simp [failed, Sink.isCommitted, SinkUse.commits]

theorem Performs.headers {shared next : SharedSink} {use : SinkUse} (performed : shared.Performs use next)
    (uncommitted : next.sink.isCommitted = false) : next.sink.headers = use.set shared.sink.headers := by
  have before := performed.isCommitted
  rw [uncommitted, eq_comm, Bool.or_eq_false_iff] at before
  cases performed with
  | clone => rfl
  | drop => simp [SinkUse.set]
  | setHeader name value => simp [Sink.setHeader, before.1, SinkUse.set]
  | fail | count | refuse => cases before.2

def Begun (shared : SharedSink) : Prop :=
  forall writer, some writer ∈ shared.writes -> forall chunk, writer ≠ .starting chunk

theorem Performs.begun {shared next : SharedSink} {use : SinkUse} (performed : shared.Performs use next)
    (before : shared.Begun) : next.Begun := by
  cases performed with
  | clone | drop | setHeader | fail => exact before
  | count | refuse =>
    intro writer underway
    rcases List.mem_append.1 underway with earlier | new
    next => exact before writer earlier
    next =>
      cases List.mem_singleton.1 new
      simp

inductive Step (shared : SharedSink) : Action -> SharedSink -> Prop
  | use (use : SinkUse) (next : SharedSink) (present : shared.sink.body.senders ≠ 0)
      (performed : shared.Performs use next) : Step shared (.use use) next
  | aside (action : Action) (next : SharedSink) (foreign : uses [action] = []) (same : shared.sink.Alike next.sink)
      (begun : next.Begun) : Step shared action next

theorem step_of_act {shared next : SharedSink} {action : Action} (before : shared.Begun)
    (acted : shared.act action = some next) : shared.Step action next := by
  unfold act at acted
  split at acted
  next use =>
    obtain ⟨present, performed⟩ := performs_of_perform acted
    exact .use use next present performed
  next index =>
    split at acted
    next writer found =>
      obtain ⟨⟨after, sink⟩, stepped, rfl⟩ := Option.map_eq_some_iff.1 acted
      obtain ⟨same, begun⟩ := Writer.alike_of_step (before writer (List.mem_of_getElem? found)) stepped
      refine .aside _ _ rfl same fun other underway => ?_
      rcases List.mem_or_eq_of_mem_set underway with earlier | new
      next => exact before other earlier
      next => cases new; exact begun
    next => cases acted
  next index =>
    split at acted
    next =>
      cases acted
      refine .aside _ _ rfl ⟨rfl, rfl, rfl, Channel.withdraw_senders _ _⟩ fun other underway => ?_
      rcases List.mem_or_eq_of_mem_set underway with earlier | gone
      next => exact before other earlier
      next => cases gone
    next => cases acted
  next =>
    split at acted
    next => cases acted; exact .aside _ _ rfl (.refl _) before
    next => cases acted
  next =>
    obtain ⟨⟨head, reader, sink⟩, received, rfl⟩ := Option.map_eq_some_iff.1 acted
    exact .aside _ _ rfl (Reader.alike_of_receiveHead received) before
  next =>
    split at acted
    next frame reader sink taken => cases acted; exact .aside _ _ rfl (Reader.alike_of_read taken) before
    next => cases acted
  next => cases acted; exact .aside _ _ rfl ⟨rfl, rfl, rfl, rfl⟩ before

theorem Step.head {shared next : SharedSink} {action : Action} {head : Head} (step : shared.Step action next)
    (decided : shared.sink.head = some head) : next.sink.head = some head := by
  cases step with
  | use use _ _ performed => exact performed.head decided
  | aside _ _ _ same => exact same.head.trans decided

structure Records (uses : List SinkUse) (shared : SharedSink) : Prop where
  handles : shared.sink.body.senders = SinkUse.handles uses
  begun : shared.Begun
  committed : shared.sink.isCommitted = uses.any SinkUse.commits
  undecided : shared.sink.head = none <-> SinkUse.Undecided uses
  uncommitted : shared.sink.head = none -> shared.sink.isCommitted = false
  fields : shared.sink.isCommitted = false -> shared.sink.headers = SinkUse.fields uses
  held : shared.sink.isCommitted = false -> (shared.sink.head = none <-> shared.sink.body.senders ≠ 0)

namespace Records

variable {uses : List SinkUse} {shared next : SharedSink} {use : SinkUse}

theorem decide (before : Records uses shared) (open_ : shared.sink.head = none)
    (performed : shared.Performs use next) (present : shared.sink.body.senders ≠ 0) :
    next.sink.head = if use.decides uses then some (use.ruling uses) else none := by
  have uncommitted := before.uncommitted open_
  have fields := before.fields uncommitted
  have pending := shared.sink.isCommitted_eq_false_iff.1 uncommitted
  cases performed with
  | clone => exact open_
  | setHeader name value =>
    obtain ⟨headers, same, -⟩ := shared.sink.setHeader_settable name value
    rw [same]
    exact open_
  | drop =>
    have last : shared.sink.body.senders - 1 = 0 <-> SinkUse.handles uses = 1 := by
      rw [before.handles] at present ⊢
      omega
    simp [Sink.dropHandle_eq, open_, pending, fields, last, SinkUse.decides, SinkUse.ruling]
  | fail => simp [Sink.fail_eq, open_, pending, SinkUse.decides, SinkUse.ruling]
  | count chunk _ accepted =>
    rcases (Sink.beginWrite_cases accepted).2 with ⟨streaming, -⟩ | ⟨-, decided⟩
    next => simp [pending] at streaming
    next => simp [decided, open_, fields, SinkUse.decides, SinkUse.ruling]
  | refuse chunk failed => simp [pending] at failed

theorem perform (before : Records uses shared) (performed : shared.Performs use next)
    (present : shared.sink.body.senders ≠ 0) : Records (uses ++ [use]) next := by
  have undecided : next.sink.head = none <-> shared.sink.head = none /\ use.decides uses = false := by
    cases head : shared.sink.head with
    | some head => simp [performed.head head]
    | none => simp [before.decide head performed present]
  constructor
  case handles => simp [performed.senders, before.handles, SinkUse.handles]
  case begun => exact performed.begun before.begun
  case committed => simp [performed.isCommitted, before.committed]
  case undecided => rw [undecided, before.undecided, SinkUse.undecided_snoc]
  case uncommitted =>
    intro open_
    obtain ⟨earlier, undecisive⟩ := undecided.1 open_
    rw [performed.isCommitted, before.uncommitted earlier]
    -- All that commits decides as well.
    cases use with
    | write | fail => cases undecisive
    | clone | drop | setHeader => rfl
  case fields =>
    intro uncommitted
    have earlier := performed.isCommitted
    rw [uncommitted, eq_comm, Bool.or_eq_false_iff] at earlier
    simp [performed.headers uncommitted, before.fields earlier.1, SinkUse.fields]
  case held =>
    intro uncommitted
    have earlier := performed.isCommitted
    rw [uncommitted, eq_comm, Bool.or_eq_false_iff] at earlier
    have open_ := (before.held earlier.1).2 present
    rw [undecided, performed.senders]
    cases use with
    | clone => simp [open_, SinkUse.decides, SinkUse.counted]
    | drop =>
      simp only [open_, true_and, SinkUse.decides, ← before.handles, decide_eq_false_iff_not, SinkUse.counted]
      omega
    | setHeader => simp [open_, SinkUse.decides, SinkUse.counted, present]
    | write | fail => cases earlier.2

theorem act (before : Records uses shared) {action : Action} (step : shared.Step action next) :
    Records (uses ++ SharedSink.uses [action]) next := by
  cases step with
  | use use _ present performed => exact before.perform performed present
  | aside _ _ foreign same begun =>
    obtain ⟨headers, head, commit, senders⟩ := same
    have committed : next.sink.isCommitted = shared.sink.isCommitted := by simp [Sink.isCommitted, commit]
    rw [foreign, List.append_nil]
    refine ⟨senders.trans before.handles, begun, committed.trans before.committed, ?_, ?_, ?_, ?_⟩
    next => rw [head]; exact before.undecided
    next => rw [head, committed]; exact before.uncommitted
    next => rw [committed, headers]; exact before.fields
    next => rw [head, committed, senders]; exact before.held

end Records

theorem records_of_run {actions : List Action} {shared : SharedSink} (reached : follow act {} actions = some shared) :
    Records (uses actions) shared := by
  refine follow_keeps (fun done shared => Records (uses done) shared) ?_ ?_ reached
  next =>
    exact ⟨rfl, fun _ underway => (by cases underway), rfl, ⟨fun _ => SinkUse.undecided_nil, fun _ => rfl⟩,
      fun _ => rfl, fun _ => rfl, by simp⟩
  next =>
    intro done middle action next _ before possible
    rw [uses, List.filterMap_append]
    exact before.act (step_of_act before.begun possible)

theorem head_of_run {actions : List Action} {shared last : SharedSink} {head : Head} {uses : List SinkUse}
    (before : Records uses shared) (decided : shared.sink.head = some head)
    (reached : follow act shared actions = some last) : last.sink.head = some head := by
  -- The records come along, since a write is known to have begun by them only.
  have kept := follow_keeps (fun done last => Records (uses ++ SharedSink.uses done) last /\ last.sink.head = some head)
    ⟨by simpa [SharedSink.uses] using before, decided⟩ (fun done middle action next _ before possible => ?_) reached
  next => exact kept.2
  next =>
    have step := step_of_act before.1.begun possible
    have further := before.1.act step
    rw [SharedSink.uses, List.filterMap_append, ← List.append_assoc]
    exact ⟨further, step.head before.2⟩

theorem awaited_eq_decided_iff {sink : Sink} {head : Head} :
    sink.awaited = .decided head <-> sink.head = some head := by
  unfold Sink.awaited
  split
  next first decided => simp [decided]
  next open_ => split <;> simp [open_]

/-- The client's head is the ruling of the first use that decides, and is fixed from then on. It carries the fields set
before that use, each once and with its last value. The answers of the sink tell whether the head was still open. -/
theorem head_decided_once {actions : List Action} {shared : SharedSink}
    (reached : follow act {} actions = some shared) :
    (SinkUse.Undecided (uses actions) -> shared.sink.awaited = .waiting) /\
      (forall before use after, uses actions = before ++ use :: after -> SinkUse.Undecided before ->
        use.decides before = true ->
        shared.sink.awaited = .decided (use.ruling before) /\
          (Reader.asked.receiveHead shared.sink).map Prod.fst = some (use.ruling before).response /\
          ((SinkUse.fields before).entries.map Prod.fst).Nodup /\
          forall name, (SinkUse.fields before).get? name = (before.filterMap (SinkUse.value? name)).getLast?) /\
      shared.sink.awaited ≠ .vanished /\
      (shared.sink.isCommitted = true <-> exists use, use ∈ uses actions /\ use.commits = true) /\
      (shared.sink.body.senders ≠ 0 ->
        (forall name value, (shared.sink.setHeader name value).1 = true <-> SinkUse.Undecided (uses actions)) /\
        forall status message, (shared.sink.fail status message).1 = true <-> SinkUse.Undecided (uses actions)) := by
  have records := records_of_run reached
  -- An open head is held by somebody, so that those who wait for it are not deceived.
  have held (open_ : shared.sink.head = none) : shared.sink.body.senders ≠ 0 :=
    (records.held (records.uncommitted open_)).1 open_
  refine ⟨?_, ?_, ?_, ?_, ?_⟩
  next =>
    intro undecided
    have open_ := records.undecided.2 undecided
    simp [Sink.awaited, open_, held open_]
  next =>
    intro before use after same undecided decides
    obtain ⟨early, late, rfl, rfl⟩ := exists_of_uses same
    rw [follow_append, Option.bind_eq_some_iff] at reached
    obtain ⟨middle, before, later⟩ := reached
    obtain ⟨next, performed, later⟩ := Option.bind_eq_some_iff.1 later
    -- Up to the use nothing is decided, and it decides as it is ruled.
    have open_ := records_of_run before
    obtain ⟨present, performed⟩ := performs_of_perform performed
    have ruled := open_.decide (open_.undecided.2 undecided) performed present
    rw [if_pos decides] at ruled
    have decided := head_of_run (open_.perform performed present) ruled later
    refine ⟨awaited_eq_decided_iff.2 decided, ?_, SinkUse.nodup_foldl _ List.nodup_nil, SinkUse.get?_fields _⟩
    rw [Reader.receiveHead_asked, decided]
    rfl
  next =>
    unfold Sink.awaited
    split
    next => simp
    next open_ => simp [held open_]
  next => rw [records.committed, List.any_eq_true]
  next =>
    intro present
    have open_ : shared.sink.isCommitted = false <-> SinkUse.Undecided (uses actions) := by
      rw [← records.undecided]
      exact ⟨fun uncommitted => (records.held uncommitted).2 present, records.uncommitted⟩
    refine ⟨fun name value => ?_, fun status message => ?_⟩
    next =>
      rw [← open_, Sink.setHeader]
      split <;> simp_all
    next =>
      rw [← open_, Sink.isCommitted_eq_false_iff, Sink.fail]
      split <;> simp_all

def sharedClip : List Action :=
  [.use .clone, .ask, .use (.setHeader contentType "video/mp4"), .use (.setHeader contentType "video/mp2t"),
    .use .drop, .use (.write [1, 2]), .resume 0, .use (.fail 500 internalFaultText), .receiveHead, .takeFrame,
    .use (.setHeader contentType "text/plain"), .use (.write [3]), .use .drop]

theorem shared_clip_typed_once : exists shared, follow act {} sharedClip = some shared /\
    shared.sink.awaited = .decided (.stream { entries := [("content-type", "video/mp2t")] }) := by
  obtain ⟨shared, reached⟩ : exists shared, follow act {} sharedClip = some shared := ⟨_, rfl⟩
  obtain ⟨-, decided, -⟩ := head_decided_once reached
  have undecided : SinkUse.Undecided (uses (sharedClip.take 5)) := by
    show SinkUse.Undecided (((([] ++ [_]) ++ [_]) ++ [_]) ++ [_])
    simp only [SinkUse.undecided_snoc, SinkUse.undecided_nil]
    decide
  exact ⟨shared, reached, (decided _ (.write [1, 2]) (uses (sharedClip.drop 6)) rfl undecided rfl).1⟩

end SharedSink

end VideoRelay
