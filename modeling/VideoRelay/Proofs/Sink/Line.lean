import VideoRelay.Proofs.Sink.Tally

set_option autoImplicit false

namespace VideoRelay

theorem head_append_tail {A : Type} (items : List A) : items.head?.toList ++ items.tail = items := by
  cases items <;> rfl

theorem Channel.withdraw_line {A : Type} (channel : Channel A) (sender : Nat)
    (once : (channel.promised.toList ++ channel.waiting).Nodup) :
    (channel.withdraw sender).promised.toList ++ (channel.withdraw sender).waiting =
      (channel.promised.toList ++ channel.waiting).filter (· ≠ sender) := by
  unfold withdraw
  split
  next promised =>
    rw [promised] at once
    have apart : sender ∉ channel.waiting := (List.nodup_cons.1 once).1
    have kept : channel.waiting.filter (· ≠ sender) = channel.waiting := by
      refine List.filter_eq_self.2 fun other among => decide_eq_true ?_
      rintro rfl
      exact apart among
    rw [promised, Option.toList_some, List.singleton_append, List.filter_cons, kept]
    simpa using head_append_tail channel.waiting
  next unpromised =>
    have kept : channel.promised.toList.filter (· ≠ sender) = channel.promised.toList := by
      refine List.filter_eq_self.2 fun other among => decide_eq_true ?_
      rintro rfl
      exact unpromised (Option.mem_toList.1 among)
    rw [List.filter_append, kept, (List.nodup_append.1 once).2.1.erase_eq_filter]
    exact congrArg _ (List.filter_congr fun other _ => by rw [Bool.eq_iff_iff]; simp)

theorem Channel.withdraw_promised {A : Type} (channel : Channel A) (sender : Nat) :
    (channel.withdraw sender).promised.toList = channel.promised.toList.filter (· ≠ sender) ++
      if channel.promised = some sender then channel.waiting.head?.toList else [] := by
  unfold withdraw
  split
  next promised => simp [promised]
  next unpromised =>
    cases promised : channel.promised with
    | none => rfl
    | some other =>
      have apart : other ≠ sender := fun same => unpromised (same ▸ promised)
      simp [apart]

namespace SharedSink

variable {shared next : SharedSink} {actions : List Action}

def staying (quit : List Nat) (indices : List Nat) : List Nat :=
  indices.filter fun index => index ∉ quit

theorem staying_append (quit first more : List Nat) :
    staying quit (first ++ more) = staying quit first ++ staying quit more :=
  List.filter_append first more

theorem staying_more (quit more indices : List Nat) :
    staying (quit ++ more) indices = staying more (staying quit indices) := by
  rw [staying, staying, staying, List.filter_filter]
  refine List.filter_congr fun other _ => ?_
  simp [Bool.and_comm]

theorem staying_all {quit indices : List Nat} (stay : forall index, index ∈ indices -> index ∉ quit) :
    staying quit indices = indices :=
  List.filter_eq_self.2 fun index among => decide_eq_true (stay index among)

theorem Performs.body {use : SinkUse} (performed : shared.Performs use next) :
    exists senders, next.sink.body = { shared.sink.body with senders } := by
  cases performed with
  | clone => exact ⟨_, rfl⟩
  | drop => rw [Sink.dropHandle_body]; exact ⟨_, rfl⟩
  | setHeader name value =>
    obtain ⟨headers, same, -⟩ := shared.sink.setHeader_settable name value
    rw [same]
    exact ⟨_, rfl⟩
  | fail => rw [Sink.fail_eq]; exact ⟨_, rfl⟩
  | count chunk _ accepted => exact ⟨_, Sink.beginWrite_body accepted⟩
  | refuse => exact ⟨_, rfl⟩

theorem Performs.writes {use : SinkUse} (performed : shared.Performs use next) : next.writes = shared.writes \/
    exists writer, next.writes = shared.writes ++ [some writer] /\ forall chunk, writer ≠ .waiting chunk := by
  cases performed with
  | clone | drop | setHeader | fail => exact .inl rfl
  | count | refuse => exact .inr ⟨_, rfl, by simp⟩

/-- The slot is granted in the order in which it was asked for, and put to use in that order, the last time perhaps not
yet. -/
structure Fair (asked granted put : List Nat) : Prop where
  served : granted <+: asked
  used : put <+: granted
  close : granted.length <= put.length + 1

theorem Fair.of_line {asked granted put waiting : List Nat} {promised : Option Nat}
    (order : asked = put ++ promised.toList ++ waiting) (grants : granted = put ++ promised.toList) :
    Fair asked granted put := by
  subst order grants
  refine ⟨List.prefix_append _ _, List.prefix_append _ _, ?_⟩
  cases promised <;> simp

theorem Fair.filter {asked granted put : List Nat} (fair : Fair asked granted put) {keeps : Nat -> Bool}
    (kept : put.filter keeps = put) : Fair (asked.filter keeps) (granted.filter keeps) put := by
  have used := fair.used.filter keeps
  rw [kept] at used
  exact ⟨fair.served.filter keeps, used, Nat.le_trans (List.length_filter_le _ _) fair.close⟩

structure Lines (asked granted put quit : List Nat) (shared : SharedSink) : Prop where
  order : shared.sink.body.receiving = true ->
    staying quit asked = put ++ shared.sink.body.promised.toList ++ shared.sink.body.waiting
  grants : shared.sink.body.receiving = true -> staying quit granted = put ++ shared.sink.body.promised.toList
  settled : shared.sink.body.receiving = false -> Fair (staying quit asked) (staying quit granted) put
  lost : shared.sink.body.receiving = false -> shared.sink.body.place = none /\
    shared.sink.body.promised = none /\ shared.sink.body.waiting = []
  waits : shared.sink.body.receiving = true -> forall index : Nat,
    (exists chunk, shared.writes[index]? = some (some (.waiting chunk))) <->
      index ∈ shared.sink.body.promised.toList ++ shared.sink.body.waiting
  once : asked.Nodup
  came : forall index : Nat, index ∈ asked ->
    index < shared.writes.length /\ forall chunk, shared.writes[index]? ≠ some (some (.offering chunk))
  left : forall index : Nat, index ∈ quit -> shared.writes[index]? = some none
  empty : shared.sink.body.promised ≠ none -> shared.sink.body.place = none
  busy : shared.sink.body.waiting ≠ [] -> shared.sink.body.place ≠ none \/ shared.sink.body.promised ≠ none

namespace Lines

variable {asked granted put quit : List Nat}

theorem start : Lines [] [] [] [] {} := by
  constructor <;> simp [staying]

theorem keep (before : Lines asked granted put quit shared) (senders : Nat)
    (body : next.sink.body = { shared.sink.body with senders })
    (writes : next.writes = shared.writes \/
      exists writer, next.writes = shared.writes ++ [some writer] /\ forall chunk, writer ≠ .waiting chunk) :
    Lines asked granted put quit next := by
  have stands {index : Nat} (within : index < shared.writes.length) : next.writes[index]? = shared.writes[index]? := by
    rcases writes with same | ⟨writer, more, -⟩
    next => rw [same]
    next => rw [more, List.getElem?_append_left within]
  have longer : shared.writes.length <= next.writes.length := by
    rcases writes with same | ⟨writer, more, -⟩
    next => exact Nat.le_of_eq (by rw [same])
    next => rw [more, List.length_append]; exact Nat.le_add_right _ _
  have waiting (index : Nat) (chunk : Bytes) : next.writes[index]? = some (some (.waiting chunk)) <->
      shared.writes[index]? = some (some (.waiting chunk)) := by
    by_cases within : index < shared.writes.length
    next => rw [stands within]
    next =>
      rw [List.getElem?_eq_none (Nat.le_of_not_lt within)]
      refine ⟨fun there => ?_, fun there => by cases there⟩
      rcases writes with same | ⟨writer, more, other⟩
      next => rwa [same, List.getElem?_eq_none (Nat.le_of_not_lt within)] at there
      next =>
        rw [more, List.getElem?_append_right (Nat.le_of_not_lt within)] at there
        cases List.mem_singleton.1 (List.mem_of_getElem? there)
        exact absurd rfl (other chunk)
  constructor
  case order => rw [body]; exact before.order
  case grants => rw [body]; exact before.grants
  case settled => rw [body]; exact before.settled
  case lost => rw [body]; exact before.lost
  case waits => simp only [body, waiting]; exact before.waits
  case once => exact before.once
  case came =>
    intro index among
    obtain ⟨within, other⟩ := before.came index among
    exact ⟨Nat.lt_of_lt_of_le within longer, fun chunk => stands within ▸ other chunk⟩
  case left =>
    intro index among
    have gone := before.left index among
    rw [stands (List.getElem?_eq_some_iff.1 gone).1, gone]
  case empty => rw [body]; exact before.empty
  case busy => rw [body]; exact before.busy

variable {index : Nat} {chunk : Bytes}

theorem fair (before : Lines asked granted put quit shared) : Fair (staying quit asked) (staying quit granted) put := by
  cases unclosed : shared.sink.body.receiving with
  | true => exact .of_line (before.order unclosed) (before.grants unclosed)
  | false => exact before.settled unclosed

theorem pending_of_mem (before : Lines asked granted put quit shared)
    (among : index ∈ shared.sink.body.promised.toList ++ shared.sink.body.waiting) :
    exists chunk, shared.writes[index]? = some (some (.waiting chunk)) := by
  cases unclosed : shared.sink.body.receiving with
  | true => exact (before.waits unclosed index).2 among
  | false =>
    obtain ⟨-, unpromised, nobody⟩ := before.lost unclosed
    simp [unpromised, nobody] at among

theorem stays (before : Lines asked granted put quit shared) {writer : Writer}
    (there : shared.writes[index]? = some (some writer)) : index ∉ quit :=
  fun among => by cases there.symm.trans (before.left index among)

theorem stays_of_mem (before : Lines asked granted put quit shared)
    (among : index ∈ shared.sink.body.promised.toList ++ shared.sink.body.waiting) : index ∉ quit := by
  obtain ⟨_, there⟩ := before.pending_of_mem among
  exact before.stays there

theorem nodup (before : Lines asked granted put quit shared) :
    (shared.sink.body.promised.toList ++ shared.sink.body.waiting).Nodup := by
  cases unclosed : shared.sink.body.receiving with
  | true =>
    have once := before.once.filter (fun other => decide (other ∉ quit))
    have order := before.order unclosed
    rw [staying] at order
    rw [order, List.append_assoc] at once
    exact (List.nodup_append.1 once).2.1
  | false =>
    obtain ⟨-, unpromised, nobody⟩ := before.lost unclosed
    simp [unpromised, nobody]

theorem asks (before : Lines asked granted put quit shared) (unclosed : shared.sink.body.receiving = true)
    (pending : shared.pending? index = some chunk) :
    (shared.asksBy (.resume index) = [] /\ index ∈ shared.sink.body.promised.toList ++ shared.sink.body.waiting) \/
      (shared.asksBy (.resume index) = [index] /\
        index ∉ shared.sink.body.promised.toList ++ shared.sink.body.waiting /\ index ∉ asked) := by
  obtain ⟨writer, there, offered⟩ := pending?_eq_some_iff.1 pending
  -- One that waits has come before and stands in line; one that offers its chunk comes now.
  rcases Writer.offered?_eq_some_iff.1 offered with rfl | rfl
  next =>
    refine .inr ⟨by simp [asksBy, there, unclosed], fun among => ?_, fun among => ?_⟩
    next =>
      obtain ⟨_, waiting⟩ := before.pending_of_mem among
      cases there.symm.trans waiting
    next => exact (before.came index among).2 chunk there
  next => exact .inl ⟨by simp [asksBy, there], (before.waits unclosed index).1 ⟨chunk, there⟩⟩

theorem once_of_asks (before : Lines asked granted put quit shared) (unclosed : shared.sink.body.receiving = true)
    (pending : shared.pending? index = some chunk) : (asked ++ shared.asksBy (.resume index)).Nodup := by
  rcases before.asks unclosed pending with ⟨old, -⟩ | ⟨new, -, absent⟩
  next => rw [old, List.append_nil]; exact before.once
  next =>
    rw [new]
    refine List.nodup_append.2 ⟨before.once, by simp, ?_⟩
    rintro other among _ last rfl
    exact absent (List.mem_singleton.1 last ▸ among)

theorem came_of_set {writer : Writer} (before : Lines asked granted put quit shared)
    (there : shared.writes[index]? = some (some writer)) (after : Option Writer)
    (further : forall chunk, after ≠ some (.offering chunk))
    (other : Nat) (among : other ∈ asked ++ shared.asksBy (.resume index)) :
    other < (shared.writes.set index after).length /\
      forall chunk, (shared.writes.set index after)[other]? ≠ some (some (.offering chunk)) := by
  have within := (List.getElem?_eq_some_iff.1 there).1
  have stands := writes_set there after other
  rw [List.length_set, stands]
  by_cases same : other = index
  next => subst same; exact ⟨within, fun chunk => by simpa using further chunk⟩
  next =>
    rw [if_neg same]
    rcases List.mem_append.1 among with earlier | new
    next => exact before.came other earlier
    next =>
      simp only [asksBy, there] at new
      split at new
      next => split at new <;> simp_all
      next => cases new

theorem left_of_set {writer : Writer} {after : Option Writer} (before : Lines asked granted put quit shared)
    (there : shared.writes[index]? = some (some writer)) (other : Nat) (among : other ∈ quit) :
    (shared.writes.set index after)[other]? = some none := by
  rw [writes_set there, if_neg, before.left other among]
  rintro rfl
  exact before.stays there among

theorem arrive (before : Lines asked granted put quit shared) (pending : shared.pending? index = some chunk)
    (unclosed : shared.sink.body.receiving = true)
    (free : shared.sink.body.promised = some index \/ shared.sink.body.isFree = true) :
    Lines (asked ++ shared.asksBy (.resume index)) (granted ++ shared.grantsBy (.resume index)) (put ++ [index]) quit
      { shared with
        writes := shared.writes.set index (some (.finished (.ok ())))
        sink := { shared.sink with body := { shared.sink.body with place := some chunk, promised := none } } } := by
  obtain ⟨writer, there, offered⟩ := pending?_eq_some_iff.1 pending
  have stay := before.stays there
  have stands := writes_set there (some (.finished (.ok ())))
  have order := before.order unclosed
  have grants := before.grants unclosed
  have alone : staying quit [index] = [index] := by simp [staying, stay]
  -- The slot was promised to a write in line, or found free by one that has just come.
  obtain ⟨asked', granted', absent⟩ : staying quit (asked ++ shared.asksBy (.resume index)) =
      put ++ [index] ++ shared.sink.body.waiting /\
      staying quit (granted ++ shared.grantsBy (.resume index)) = put ++ [index] /\
        forall other, other ∈ shared.sink.body.waiting <->
          other ∈ shared.sink.body.promised.toList ++ shared.sink.body.waiting /\ other ≠ index := by
    rcases before.asks unclosed pending with ⟨old, among⟩ | ⟨new, absent, -⟩
    next =>
      have promised : shared.sink.body.promised = some index := by
        rcases free with promised | free
        next => exact promised
        next =>
          obtain ⟨-, unpromised, nobody⟩ := Channel.isFree_iff.1 free
          simp [unpromised, nobody] at among
      have once := before.nodup
      rw [promised] at order grants once
      rw [old, grantsBy, if_pos promised, List.append_nil, List.append_nil, order, grants, promised]
      refine ⟨rfl, rfl, fun other => ?_⟩
      have apart : index ∉ shared.sink.body.waiting := (List.nodup_cons.1 once).1
      simp only [Option.toList_some, List.cons_append, List.nil_append, List.mem_cons]
      constructor
      next => exact fun among => ⟨.inr among, fun same => apart (same ▸ among)⟩
      next => rintro ⟨among, other⟩; exact among.resolve_left other
    next =>
      obtain ⟨-, unpromised, nobody⟩ : shared.sink.body.place = none /\ shared.sink.body.promised = none /\
          shared.sink.body.waiting = [] := by
        rcases free with promised | free
        next => simp [promised] at absent
        next => exact Channel.isFree_iff.1 free
      rw [unpromised, nobody, Option.toList_none, List.append_nil] at order
      rw [unpromised, Option.toList_none, List.append_nil] at grants
      rw [new, grantsBy, if_neg (by simp [unpromised]), putsBy_of_granted pending unclosed free, staying_append,
        staying_append, order, grants, nobody, unpromised]
      exact ⟨by simp [alone], by simp [alone], by simp⟩
  constructor
  case order => intro _; rw [asked']; simp
  case grants => intro _; rw [granted']; simp
  case settled | lost => intro closed; exact absurd (unclosed.symm.trans closed) (by simp)
  case waits =>
    intro _ other
    rw [stands, Option.toList_none, List.nil_append, absent, <- before.waits unclosed other]
    by_cases same : other = index <;> simp [same]
  case once => exact before.once_of_asks unclosed pending
  case came => exact before.came_of_set there _ (by simp)
  case left => exact before.left_of_set there
  case empty => exact fun promised => absurd rfl promised
  case busy => exact fun _ => .inl (Option.some_ne_none chunk)

theorem queue (before : Lines asked granted put quit shared) (pending : shared.pending? index = some chunk)
    (unclosed : shared.sink.body.receiving = true) (unpromised : shared.sink.body.promised ≠ some index)
    (taken : shared.sink.body.isFree = false) (fresh : index ∉ shared.sink.body.waiting) :
    Lines (asked ++ shared.asksBy (.resume index)) (granted ++ shared.grantsBy (.resume index)) put quit
      { shared with
        writes := shared.writes.set index (some (.waiting chunk))
        sink := { shared.sink with body := { shared.sink.body with
          waiting := shared.sink.body.waiting ++ [index] } } } := by
  obtain ⟨writer, there, offered⟩ := pending?_eq_some_iff.1 pending
  have stay := before.stays there
  have stands := writes_set there (some (.waiting chunk))
  have absent : index ∉ shared.sink.body.promised.toList ++ shared.sink.body.waiting := by
    simp [unpromised, fresh]
  have new : shared.asksBy (.resume index) = [index] := by
    rcases before.asks unclosed pending with ⟨-, among⟩ | ⟨new, -⟩
    next => exact absurd among absent
    next => exact new
  have ungranted : shared.grantsBy (.resume index) = [] := by
    rw [grantsBy, if_neg unpromised, putsBy_of_queued pending unclosed unpromised taken fresh]
    rfl
  have asked' : staying quit (asked ++ shared.asksBy (.resume index)) = staying quit asked ++ [index] := by
    rw [new, staying_append]
    simp [staying, stay]
  rw [ungranted, List.append_nil]
  constructor
  case order => intro _; rw [asked', before.order unclosed, List.append_assoc]
  case grants => exact before.grants
  case settled | lost => intro closed; exact absurd (unclosed.symm.trans closed) (by simp)
  case waits =>
    intro _ other
    rw [stands, <- List.append_assoc, List.mem_append, <- before.waits unclosed other]
    by_cases same : other = index <;> simp [same]
  case once => exact before.once_of_asks unclosed pending
  case came => exact before.came_of_set there _ (by simp)
  case left => exact before.left_of_set there
  case empty => exact before.empty
  case busy =>
    intro _
    by_cases line : shared.sink.body.waiting = []
    next =>
      by_cases place : shared.sink.body.place = none
      next =>
        refine .inr fun none => ?_
        rw [Channel.isFree_iff.2 ⟨place, none, line⟩] at taken
        cases taken
      next => exact .inl place
    next => exact before.busy line

theorem refuse (before : Lines asked granted put quit shared) (pending : shared.pending? index = some chunk)
    (closed : shared.sink.body.receiving = false) :
    Lines (asked ++ shared.asksBy (.resume index)) (granted ++ shared.grantsBy (.resume index)) put quit
      { shared with writes := shared.writes.set index (some (.finished (.error Sink.clientGone))) } := by
  obtain ⟨writer, there, offered⟩ := pending?_eq_some_iff.1 pending
  have unasked : shared.asksBy (.resume index) = [] := by
    simp only [asksBy, there]
    split <;> simp [closed]
  have ungranted : shared.grantsBy (.resume index) = [] := by
    rw [grantsBy, putsBy_of_closed pending closed]
    split <;> rfl
  have came := before.came_of_set there (some (.finished (.error Sink.clientGone))) (by simp)
  rw [unasked, List.append_nil] at came ⊢
  rw [ungranted, List.append_nil]
  constructor
  case order | grants | waits => exact fun unclosed => absurd (closed.symm.trans unclosed) (by simp)
  case settled => exact before.settled
  case lost => exact before.lost
  case once => exact before.once
  case came => exact came
  case left => exact before.left_of_set there
  case empty => exact before.empty
  case busy => exact before.busy

theorem taken (before : Lines asked granted put quit shared) (ready : shared.sink.body.place = some chunk) :
    Lines asked (granted ++ shared.sink.body.waiting.head?.toList) put quit { shared with
      reader := .body, sink := { shared.sink with body := shared.sink.body.taken } } := by
  have unclosed : shared.sink.body.receiving = true :=
    Channel.receiving_of_place (fun closed => (before.lost closed).1) ready
  have unpromised : shared.sink.body.promised = none := by
    cases promised : shared.sink.body.promised with
    | none => rfl
    | some index => cases ready.symm.trans (before.empty (by simp [promised]))
  have order := before.order unclosed
  have grants := before.grants unclosed
  have waits := before.waits unclosed
  rw [unpromised, Option.toList_none] at order grants waits
  rw [List.append_nil] at order grants
  have split := head_append_tail shared.sink.body.waiting
  have granted' : staying quit (granted ++ shared.sink.body.waiting.head?.toList) =
      put ++ shared.sink.body.waiting.head?.toList := by
    rw [staying_append, grants]
    congr 1
    refine List.filter_eq_self.2 fun index among => ?_
    have stay := before.stays_of_mem (List.mem_append_right _ (List.mem_of_mem_head? (Option.mem_toList.1 among)))
    simpa using stay
  constructor
  case order => intro _; rw [order, Channel.taken, List.append_assoc, split]
  case grants => exact fun _ => granted'
  case settled | lost => intro closed; exact absurd (unclosed.symm.trans closed) (by simp)
  case waits => intro _ index; rw [Channel.taken, split]; exact waits index
  case once => exact before.once
  case came => exact before.came
  case left => exact before.left
  case empty => exact fun _ => rfl
  case busy =>
    intro rest
    refine .inr fun none => rest ?_
    rw [Channel.taken] at none ⊢
    rw [List.head?_eq_none_iff.1 none]
    rfl

theorem close (before : Lines asked granted put quit shared) (reader : Reader) :
    Lines asked granted put quit { shared with reader, sink := shared.sink.dropBody } := by
  -- The line is dissolved, and what was granted in it stays as it is for good.
  constructor
  case order | grants | waits => intro unclosed; cases unclosed
  case settled => exact fun _ => before.fair
  case lost => exact fun _ => ⟨rfl, rfl, rfl⟩
  case once => exact before.once
  case came => exact before.came
  case left => exact before.left
  case empty => exact fun _ => rfl
  case busy => exact fun rest => absurd rfl rest

theorem abandon {writer : Writer} (before : Lines asked granted put quit shared)
    (there : shared.writes[index]? = some (some writer))
    (unput : (shared.pending? index).isSome = true -> index ∉ put) :
    Lines asked (granted ++ shared.grantsBy (.abandon index)) put (quit ++ shared.quitsBy (.abandon index)) { shared with
      sink := { shared.sink with body := shared.sink.body.withdraw index }
      writes := shared.writes.set index none } := by
  have stands := writes_set there none
  have released : shared.sink.Released { shared.sink with body := shared.sink.body.withdraw index } := .withdraw index
  have place : (shared.sink.body.withdraw index).place = shared.sink.body.place := released.place
  have receiving : (shared.sink.body.withdraw index).receiving = shared.sink.body.receiving := released.receiving
  have line := shared.sink.body.withdraw_line index before.nodup
  have promised := shared.sink.body.withdraw_promised index
  have inLine (among : index ∈ shared.sink.body.promised.toList ++ shared.sink.body.waiting) :
      (shared.pending? index).isSome = true := by
    obtain ⟨chunk, waiting⟩ := before.pending_of_mem among
    rw [pending?_of_writes waiting]
    rfl
  -- It has not put its chunk, and whoever has done so stays.
  have puts : staying (shared.quitsBy (.abandon index)) put = put := by
    refine staying_all fun other among gone => ?_
    rw [quitsBy] at gone
    split at gone
    next pending => exact unput pending (List.mem_singleton.1 gone ▸ among)
    next => cases gone
  -- For those in line, to have given up is to be the one that gives up now.
  have leaves {indices : List Nat}
      (within : indices ⊆ shared.sink.body.promised.toList ++ shared.sink.body.waiting) :
      staying (shared.quitsBy (.abandon index)) indices = indices.filter (· ≠ index) := by
    rw [quitsBy]
    refine List.filter_congr fun other among => ?_
    split
    next => simp
    next ended =>
      have apart : other ≠ index := fun same => ended (inLine (same ▸ within among))
      simp [apart]
  -- The next in line, if it is its turn now, stays.
  have next : staying (quit ++ shared.quitsBy (.abandon index)) (shared.grantsBy (.abandon index)) =
      shared.grantsBy (.abandon index) := by
    rw [grantsBy]
    split
    next mine =>
      have once := before.nodup
      rw [mine, Option.toList_some, List.singleton_append] at once
      have first {other : Nat} (among : other ∈ shared.sink.body.waiting.head?.toList) :
          other ∈ shared.sink.body.waiting :=
        List.mem_of_mem_head? (Option.mem_toList.1 among)
      rw [staying_more, staying_all fun other among => before.stays_of_mem (List.mem_append_right _ (first among)),
        leaves fun other among => List.mem_append_right _ (first among)]
      refine List.filter_eq_self.2 fun other among => decide_eq_true ?_
      rintro rfl
      exact (List.nodup_cons.1 once).1 (first among)
    next => rfl
  constructor
  case order =>
    intro unclosed
    rw [staying_more, before.order (receiving.symm.trans unclosed), List.append_assoc, staying_append, puts,
      leaves (List.Subset.refl _), <- line, List.append_assoc]
  case grants =>
    intro unclosed
    rw [staying_append, next, staying_more, before.grants (receiving.symm.trans unclosed), staying_append, puts,
      leaves (List.subset_append_left _ _), promised, List.append_assoc]
    rfl
  case settled =>
    intro closed
    have closed := receiving.symm.trans closed
    have ungranted : shared.grantsBy (.abandon index) = [] := by simp [grantsBy, (before.lost closed).2.1]
    rw [ungranted, List.append_nil, staying_more, staying_more]
    exact (before.settled closed).filter puts
  case lost =>
    intro closed
    obtain ⟨empty, unpromised, nobody⟩ := before.lost (receiving.symm.trans closed)
    refine ⟨place.trans empty, ?_⟩
    simp [Channel.withdraw, unpromised, nobody]
  case waits =>
    intro unclosed other
    rw [stands, line, List.mem_filter, decide_eq_true_eq, <- before.waits (receiving.symm.trans unclosed) other]
    by_cases same : other = index <;> simp [same]
  case once => exact before.once
  case came =>
    exact fun other among => before.came_of_set there none (by simp) other (List.mem_append_left _ among)
  case left =>
    intro other among
    rcases List.mem_append.1 among with earlier | new
    next => exact before.left_of_set there other earlier
    next =>
      rw [quitsBy] at new
      split at new
      next => cases List.mem_singleton.1 new; rw [stands, if_pos rfl]
      next => cases new
  case empty =>
    unfold Channel.withdraw
    split
    next mine => exact fun _ => before.empty (by simp [mine])
    next => exact before.empty
  case busy =>
    unfold Channel.withdraw
    split
    next =>
      cases shared.sink.body.waiting with
      | nil => exact fun rest => absurd rfl rest
      | cons first rest => exact fun _ => .inr (Option.some_ne_none first)
    next =>
      intro rest
      refine before.busy fun nobody => rest ?_
      dsimp only
      rw [nobody, List.erase_nil]

theorem quiet (after : Lines asked granted put quit next) :
    Lines (asked ++ []) (granted ++ []) (put ++ []) (quit ++ []) next := by
  simpa using after

theorem act {action : Action} (before : Lines asked granted put quit shared)
    (unput : forall index chunk, shared.pending? index = some chunk -> index ∉ put) (acts : shared.Acts action next) :
    Lines (asked ++ shared.asksBy action) (granted ++ shared.grantsBy action)
      (put ++ (shared.putsBy action).map Prod.fst) (quit ++ shared.quitsBy action) next := by
  cases acts with
  | use use _ performed =>
    obtain ⟨senders, body⟩ := performed.body
    exact quiet (before.keep senders body performed.writes)
  | put index chunk pending unclosed free =>
    have after := before.arrive pending unclosed free
    rw [putsBy_of_granted pending unclosed free]
    simpa only [quitsBy, List.map_cons, List.map_nil, List.append_nil] using after
  | queue index chunk pending unclosed unpromised taken fresh =>
    have after := before.queue pending unclosed unpromised taken fresh
    rw [putsBy_of_queued pending unclosed unpromised taken fresh]
    simpa only [quitsBy, List.map_nil, List.append_nil] using after
  | refuse index chunk pending closed =>
    have after := before.refuse pending closed
    rw [putsBy_of_closed pending closed]
    simpa only [quitsBy, List.map_nil, List.append_nil] using after
  | abandon index writer there =>
    have after := before.abandon there fun pending => by
      obtain ⟨chunk, pending⟩ := Option.isSome_iff_exists.1 pending
      exact unput index chunk pending
    simpa only [asksBy, putsBy, List.map_nil, List.append_nil] using after
  | ask | receiveStream => exact quiet (before.keep shared.sink.body.senders rfl (.inl rfl))
  | receiveFault | leave => exact quiet (before.close _)
  | takeChunk chunk streaming ready =>
    have after := before.taken ready
    simpa only [asksBy, grantsBy, putsBy, quitsBy, streaming, ready, List.map_nil, List.append_nil] using after
  | takeText rest telling =>
    have kept : Lines asked granted put quit { shared with reader := .message [] } :=
      before.keep shared.sink.body.senders rfl (.inl rfl)
    simpa only [asksBy, grantsBy, putsBy, quitsBy, telling, List.map_nil, List.append_nil] using kept

end Lines

theorem lines_of_run (reached : follow act {} actions = some shared) :
    Lines (asked actions) (grants actions) ((puts actions).map Prod.fst) (quits actions) shared := by
  refine follow_keeps (fun done shared => Lines (asked done) (grants done) ((puts done).map Prod.fst) (quits done) shared)
    .start ?_ reached
  intro done middle action next reached before possible
  rw [asked, grants, puts, quits, chronicle_snoc asksBy reached possible, chronicle_snoc grantsBy reached possible,
    chronicle_snoc putsBy reached possible, chronicle_snoc quitsBy reached possible, List.map_append]
  exact before.act (fun _ _ pending => (tallies_of_run reached).unput pending) (acts_of_run reached possible)

end SharedSink

end VideoRelay
