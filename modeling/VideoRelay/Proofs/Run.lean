/-!
Runs of anything that moves by actions: where a sequence of actions leads, what every step of it keeps, and what an
observer of its states notes on the way.
-/

set_option autoImplicit false

namespace VideoRelay

section

variable {State Move : Type} (act : State -> Move -> Option State)

/-- Where these actions lead, if all of them are possible. -/
def follow : State -> List Move -> Option State
  | state, [] => some state
  | state, action :: rest => (act state action).bind fun next => follow next rest

theorem follow_append (first : State) (before after : List Move) :
    follow act first (before ++ after) = (follow act first before).bind fun middle => follow act middle after := by
  induction before generalizing first with
  | nil => rfl
  | cons action rest ih =>
    simp only [List.cons_append, follow]
    cases act first action with
    | none => rfl
    | some next => exact ih next

variable {act} {first middle last next : State} {actions : List Move} {action : Move}

theorem follow_snoc (reached : follow act first actions = some middle) (possible : act middle action = some next) :
    follow act first (actions ++ [action]) = some next := by
  rw [follow_append, reached]
  simp [follow, possible]

/-- What holds at the start and is kept by every further action holds after every run. -/
theorem follow_keeps (holds : List Move -> State -> Prop) (start : holds [] first)
    (kept : forall done middle action next, follow act first done = some middle -> holds done middle ->
      act middle action = some next -> holds (done ++ [action]) next)
    (reached : follow act first actions = some last) : holds actions last := by
  -- By induction on what is left of the run, so that what was done can grow at its end.
  have extend (rest : List Move) : forall done middle, follow act first done = some middle -> holds done middle ->
      follow act middle rest = some last -> holds (done ++ rest) last := by
    induction rest with
    | nil =>
      intro done middle _ held later
      cases later
      simpa using held
    | cons action rest ih =>
      intro done middle reached held later
      obtain ⟨next, possible, later⟩ := Option.bind_eq_some_iff.1 later
      have further := ih (done ++ [action]) next (follow_snoc reached possible)
        (kept done middle action next reached held possible) later
      simpa using further
  exact extend actions [] first rfl start reached

theorem follow_turns (holds : State -> Prop) (start : ¬ holds first) (done : holds last)
    (reached : follow act first actions = some last) :
    exists early action late middle next, actions = early ++ action :: late /\
      follow act first early = some middle /\ ¬ holds middle /\ act middle action = some next /\ holds next /\
      follow act next late = some last := by
  induction actions generalizing first with
  | nil => cases reached; exact absurd done start
  | cons action rest ih =>
    obtain ⟨next, possible, later⟩ := Option.bind_eq_some_iff.1 reached
    by_cases turned : holds next
    next => exact ⟨[], action, rest, first, next, rfl, rfl, start, possible, turned, later⟩
    next =>
      obtain ⟨early, turning, late, middle, after, split, before, still, turns, turned, rest⟩ := ih turned later
      exact ⟨action :: early, turning, late, middle, after, by rw [split]; rfl, by simp [follow, possible, before],
        still, turns, turned, rest⟩

theorem follow_exhausts (kind : Move -> Prop) (keeps : State -> Prop) (size : State -> Nat)
    (shrinks : forall state action next, keeps state -> kind action -> act state action = some next ->
      keeps next /\ size next < size state) (start : keeps first) :
    exists actions last, (forall action, action ∈ actions -> kind action) /\ follow act first actions = some last /\
      keeps last /\ forall action, kind action -> act last action = none := by
  induction bound : size first using Nat.strongRecOn generalizing first with
  | ind bound ih =>
    subst bound
    by_cases moves : exists action next, kind action /\ act first action = some next
    next =>
      obtain ⟨action, next, among, possible⟩ := moves
      obtain ⟨kept, smaller⟩ := shrinks first action next start among possible
      obtain ⟨rest, last, others, later, holds, stuck⟩ := ih (size next) smaller kept rfl
      refine ⟨action :: rest, last, ?_, by simp [follow, possible, later], holds, stuck⟩
      simpa [among] using others
    next =>
      refine ⟨[], first, by simp, rfl, start, fun action among => ?_⟩
      cases possible : act first action with
      | none => rfl
      | some next => exact absurd ⟨action, next, among, possible⟩ moves

theorem follow_bounded {kind : Move -> Prop} {size : State -> Nat}
    (shrinks : forall done middle action next, follow act first done = some middle -> act middle action = some next ->
      kind action -> size next < size middle)
    (among : forall action, action ∈ actions -> kind action) (reached : follow act first actions = some last) :
    actions.length + size last <= size first := by
  refine follow_keeps (fun done state => (forall action, action ∈ done -> kind action) ->
    done.length + size state <= size first) (fun _ => by simp) ?_ reached among
  intro done middle action next before bounded possible among
  have smaller := shrinks done middle action next before possible (among action (by simp))
  have within := bounded fun other member => among other (List.mem_append_left _ member)
  rw [List.length_append, List.length_singleton]
  omega

theorem follow_alike {View Kind : Type} (view : State -> View) (kind : Move -> Kind)
    (steps : forall state other action another, view state = view other -> kind action = kind another ->
      (act state action).map view = (act other another).map view)
    {second : State} {others : List Move} (alike : view first = view second)
    (same : actions.map kind = others.map kind) :
    (follow act first actions).map view = (follow act second others).map view := by
  induction actions generalizing first second others with
  | nil =>
    cases others with
    | nil => exact congrArg some alike
    | cons another more => cases same
  | cons action rest ih =>
    cases others with
    | nil => cases same
    | cons another more =>
      obtain ⟨kinds, later⟩ := List.cons_eq_cons.1 same
      have step := steps first second action another alike kinds
      simp only [follow]
      cases possible : act first action with
      | none =>
        rw [possible] at step
        rw [Option.map_eq_none_iff.1 step.symm]
        rfl
      | some next =>
        rw [possible] at step
        obtain ⟨after, moved, seen⟩ := Option.map_eq_some_iff.1 step.symm
        rw [moved]
        exact ih seen.symm later

theorem bind_alike {View Other : Type} {view : State -> View} {goOn : State -> Option Other}
    {first second : Option State} (alike : first.map view = second.map view)
    (same : forall state other, view state = view other -> goOn state = goOn other) :
    first.bind goOn = second.bind goOn := by
  cases first with
  | none => rw [Option.map_eq_none_iff.1 alike.symm]
  | some state =>
    obtain ⟨other, rfl, seen⟩ := Option.map_eq_some_iff.1 alike.symm
    exact same state other seen.symm

variable {Note : Type} (act) (observe : State -> State -> List Note)

/-- What an observer of two successive states notes along a run. -/
def trace : State -> List Move -> List Note
  | _, [] => []
  | state, action :: rest =>
    match act state action with
    | some next => observe state next ++ trace next rest
    | none => []

variable {act}

theorem trace_append (reached : follow act first actions = some middle) (after : List Move) :
    trace act observe first (actions ++ after) = trace act observe first actions ++ trace act observe middle after := by
  induction actions generalizing first with
  | nil => cases reached; rfl
  | cons action rest ih =>
    obtain ⟨next, possible, later⟩ := Option.bind_eq_some_iff.1 reached
    simp only [List.cons_append, trace, possible, ih later, List.append_assoc]

theorem trace_snoc (reached : follow act first actions = some middle) (possible : act middle action = some next) :
    trace act observe first (actions ++ [action]) = trace act observe first actions ++ observe middle next := by
  rw [trace_append observe reached]
  simp only [trace, possible, List.append_nil]

variable (act) (note : State -> Move -> List Note)

/-- What somebody notes along a run who sees each move before it is made. -/
def chronicle : State -> List Move -> List Note
  | _, [] => []
  | state, action :: rest =>
    match act state action with
    | some next => note state action ++ chronicle next rest
    | none => []

variable {act}

theorem chronicle_append (reached : follow act first actions = some middle) (after : List Move) :
    chronicle act note first (actions ++ after) =
      chronicle act note first actions ++ chronicle act note middle after := by
  induction actions generalizing first with
  | nil => cases reached; rfl
  | cons action rest ih =>
    obtain ⟨next, possible, later⟩ := Option.bind_eq_some_iff.1 reached
    simp only [List.cons_append, chronicle, possible, ih later, List.append_assoc]

theorem chronicle_snoc (reached : follow act first actions = some middle) (possible : act middle action = some next) :
    chronicle act note first (actions ++ [action]) = chronicle act note first actions ++ note middle action := by
  rw [chronicle_append note reached]
  simp only [chronicle, possible, List.append_nil]

theorem mem_chronicle_iff {seen : Note} (reached : follow act first actions = some last) :
    seen ∈ chronicle act note first actions <-> exists early action late middle,
      actions = early ++ action :: late /\ follow act first early = some middle /\ seen ∈ note middle action := by
  induction actions generalizing first with
  | nil => simp [chronicle]
  | cons action rest ih =>
    obtain ⟨next, possible, later⟩ := Option.bind_eq_some_iff.1 reached
    simp only [chronicle, possible, List.mem_append, ih later]
    constructor
    next =>
      rintro (now | ⟨early, other, late, middle, rfl, before, among⟩)
      next => exact ⟨[], action, rest, first, rfl, rfl, now⟩
      next => exact ⟨action :: early, other, late, middle, rfl, by simp [follow, possible, before], among⟩
    next =>
      rintro ⟨early, other, late, middle, split, before, among⟩
      rcases List.cons_eq_append_iff.1 split with ⟨rfl, same⟩ | ⟨early, rfl, rfl⟩
      next => cases same; cases before; exact .inl among
      next =>
        refine .inr ⟨early, other, late, middle, rfl, ?_, among⟩
        simpa [follow, possible] using before

theorem trace_balance {Other : Type} {enter : State -> State -> List Note} {leave : State -> State -> List Other}
    {hold : State -> Nat}
    (passes : forall done middle action next, follow act first done = some middle -> act middle action = some next ->
      (enter middle next).length + hold middle <= hold next + (leave middle next).length)
    (reached : follow act first actions = some last) :
    (trace act enter first actions).length <= (trace act leave first actions).length + hold last := by
  refine follow_keeps (fun done state => (trace act enter first done).length <=
    (trace act leave first done).length + hold state) (Nat.zero_le _) ?_ reached
  intro done middle action next reached balanced possible
  have passed := passes done middle action next reached possible
  rw [trace_snoc enter reached possible, trace_snoc leave reached possible, List.length_append, List.length_append]
  omega

end

end VideoRelay
