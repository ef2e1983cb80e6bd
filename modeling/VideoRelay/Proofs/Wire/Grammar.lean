import VideoRelay.Proofs.Wire.Fields

set_option autoImplicit false

namespace VideoRelay.Wire

inductive IsNumber : Nat -> Nat -> Bytes -> Prop
  | last {place : Nat} {byte : UInt8} (early : place < 9) (small : byte.toNat < 128) :
    IsNumber place byte.toNat [byte]
  | tenth {byte : UInt8} (bit : byte.toNat <= 1) : IsNumber 9 byte.toNat [byte]
  | more {place high : Nat} {byte : UInt8} {bytes : Bytes} (early : place < 9) (marked : 128 <= byte.toNat)
    (rest : IsNumber (place + 1) high bytes) : IsNumber place (byte.toNat - 128 + 128 * high) (byte :: bytes)

def IsKey (key : Key) (bytes : Bytes) : Prop :=
  IsFieldNumber key.number /\ IsNumber 0 (key.number * 8 + key.kind.code) bytes

inductive IsScalar : Kind -> Value -> Bytes -> Prop
  | varint {value : Nat} {bytes : Bytes} (number : IsNumber 0 value bytes) : IsScalar .varint (.varint value) bytes
  | fixed64 {bytes : Bytes} (size : bytes.length = 8) : IsScalar .fixed64 (.fixed64 bytes) bytes
  | fixed32 {bytes : Bytes} (size : bytes.length = 4) : IsScalar .fixed32 (.fixed32 bytes) bytes
  | delimited {size bytes : Bytes} (number : IsNumber 0 bytes.length size) :
    IsScalar .delimited (.delimited bytes) (size ++ bytes)

/-- The bytes of some fields, with groups at most `depth` deep in each other. A group holds any fields, and ends with
its own number. -/
inductive Spells : Nat -> List Field -> Bytes -> Prop
  | nil {depth : Nat} : Spells depth [] []
  | scalar {depth number : Nat} {kind : Kind} {value : Value} {fields : List Field} {key body rest : Bytes}
    (keyed : IsKey ⟨number, kind⟩ key) (valued : IsScalar kind value body) (others : Spells (depth + 1) fields rest) :
    Spells (depth + 1) (⟨number, value⟩ :: fields) (key ++ (body ++ rest))
  | group {depth number : Nat} {inner fields : List Field} {start text finish rest : Bytes}
    (opened : IsKey ⟨number, .groupStart⟩ start) (held : Spells depth inner text)
    (closed : IsKey ⟨number, .groupEnd⟩ finish) (others : Spells (depth + 1) fields rest) :
    Spells (depth + 1) (⟨number, .group⟩ :: fields) (start ++ (text ++ (finish ++ rest)))

theorem readVarintFrom_eq_some_iff {place value : Nat} {bytes rest : Bytes} (within : place <= 9) :
    readVarintFrom place bytes = some (value, rest) <->
      exists number, IsNumber place value number /\ bytes = number ++ rest := by
  constructor
  next =>
    intro read
    induction bytes generalizing place value with
    | nil => cases read
    | cons byte tail ih =>
      rw [readVarintFrom] at read
      split at read
      next tenth =>
        subst tenth
        split at read
        next bit => cases read; exact ⟨[byte], .tenth bit, rfl⟩
        next => cases read
      next early =>
        have early : place < 9 := Nat.lt_of_le_of_ne within early
        split at read
        next small => cases read; exact ⟨[byte], .last early small, rfl⟩
        next marked =>
          obtain ⟨⟨high, after⟩, inner, ⟨⟩⟩ := Option.map_eq_some_iff.1 read
          obtain ⟨number, spelled, rfl⟩ := ih early inner
          exact ⟨byte :: number, .more early (Nat.le_of_not_lt marked) spelled, rfl⟩
  next =>
    rintro ⟨number, spelled, rfl⟩
    induction spelled with
    | last early small => simp [readVarintFrom, Nat.ne_of_lt early, small]
    | tenth bit => simp [readVarintFrom, bit]
    | more early marked _ ih =>
      simp [readVarintFrom, Nat.ne_of_lt early, Nat.not_lt.2 marked, ih early]

theorem readVarint_eq_some_iff {value : Nat} {bytes rest : Bytes} : readVarint bytes = some (value, rest) <->
    exists number, IsNumber 0 value number /\ bytes = number ++ rest :=
  readVarintFrom_eq_some_iff (Nat.zero_le 9)

theorem Kind.code_of_ofCode {code : Nat} {kind : Kind} (known : ofCode code = some kind) : kind.code = code := by
  unfold ofCode at known
  split at known <;> cases known <;> rfl

theorem readKey_eq_some_iff {key : Key} {bytes rest : Bytes} : readKey bytes = some (key, rest) <->
    exists front, IsKey key front /\ bytes = front ++ rest := by
  constructor
  next =>
    intro read
    obtain ⟨⟨value, after⟩, number, made⟩ := Option.bind_eq_some_iff.1 read
    dsimp only at made
    split at made
    next => cases made
    next fits =>
      simp only [Bool.or_eq_true, decide_eq_true_eq, not_or, Nat.not_le, Nat.not_lt, UInt32.size] at fits
      obtain ⟨kind, known, ⟨⟩⟩ := Option.map_eq_some_iff.1 made
      obtain ⟨front, spelled, rfl⟩ := readVarint_eq_some_iff.1 number
      have whole : value / 8 * 8 + kind.code = value := by
        rw [Kind.code_of_ofCode known]
        omega
      exact ⟨front, ⟨⟨by dsimp only; omega, by dsimp only; omega⟩, by rwa [whole]⟩, rfl⟩
  next =>
    rintro ⟨front, ⟨numbered, spelled⟩, rfl⟩
    exact readKey_of_readVarint numbered (readVarint_eq_some_iff.2 ⟨front, spelled, rfl⟩)

theorem takeBytes_eq_some_iff {count : Nat} {bytes taken rest : Bytes} :
    takeBytes count bytes = some (taken, rest) <-> taken.length = count /\ bytes = taken ++ rest := by
  constructor
  next =>
    intro read
    rw [takeBytes] at read
    split at read
    next => cases read
    next enough =>
      simp only [List.splitAt_eq, Option.some.injEq, Prod.mk.injEq] at read
      obtain ⟨rfl, rfl⟩ := read
      exact ⟨List.length_take_of_le (Nat.le_of_not_lt enough), (List.take_append_drop count bytes).symm⟩
  next =>
    rintro ⟨rfl, rfl⟩
    exact takeBytes_append taken rest

theorem readScalar_eq_some_iff {kind : Kind} {value : Value} {bytes rest : Bytes} :
    readScalar kind bytes = some (value, rest) <-> exists body, IsScalar kind value body /\ bytes = body ++ rest := by
  constructor
  next =>
    intro read
    cases kind with
    | varint =>
      obtain ⟨⟨number, after⟩, inner, ⟨⟩⟩ := Option.map_eq_some_iff.1 read
      obtain ⟨body, spelled, rfl⟩ := readVarint_eq_some_iff.1 inner
      exact ⟨body, .varint spelled, rfl⟩
    | fixed64 =>
      obtain ⟨⟨taken, after⟩, inner, ⟨⟩⟩ := Option.map_eq_some_iff.1 read
      obtain ⟨size, rfl⟩ := takeBytes_eq_some_iff.1 inner
      exact ⟨taken, .fixed64 size, rfl⟩
    | fixed32 =>
      obtain ⟨⟨taken, after⟩, inner, ⟨⟩⟩ := Option.map_eq_some_iff.1 read
      obtain ⟨size, rfl⟩ := takeBytes_eq_some_iff.1 inner
      exact ⟨taken, .fixed32 size, rfl⟩
    | delimited =>
      obtain ⟨⟨length, after⟩, number, read⟩ := Option.bind_eq_some_iff.1 read
      obtain ⟨⟨taken, behind⟩, inner, ⟨⟩⟩ := Option.map_eq_some_iff.1 read
      obtain ⟨size, spelled, rfl⟩ := readVarint_eq_some_iff.1 number
      obtain ⟨rfl, rfl⟩ := takeBytes_eq_some_iff.1 inner
      exact ⟨size ++ taken, .delimited spelled, (List.append_assoc size taken _).symm⟩
    | groupStart | groupEnd => cases read
  next =>
    rintro ⟨body, spelled, rfl⟩
    cases spelled with
    | varint number => simp [readScalar, readVarint_eq_some_iff.2 ⟨body, number, rfl⟩]
    | fixed64 size | fixed32 size => simp [readScalar, takeBytes_eq_some_iff.2 ⟨size, rfl⟩]
    | @delimited size bytes number =>
      have length : readVarint (size ++ (bytes ++ rest)) = some (bytes.length, bytes ++ rest) :=
        readVarint_eq_some_iff.2 ⟨size, number, rfl⟩
      simp only [List.append_assoc, readScalar, length, Option.bind_some, takeBytes_append, Option.map_some]

theorem IsScalar.groupless {kind : Kind} {value : Value} {body : Bytes} (valued : IsScalar kind value body) :
    kind ≠ .groupStart /\ kind ≠ .groupEnd := by
  cases valued <;> decide

/-- What one key may do inside of groups. Only the end of the innermost group may stand in the deepest one. -/
inductive SkipsKey (limit innermost : Nat) (outer : List Nat) : List Nat -> Bytes -> Prop
  | finish {finish : Bytes} (closed : IsKey ⟨innermost, .groupEnd⟩ finish) :
    SkipsKey limit innermost outer outer finish
  | start {number : Nat} {start : Bytes} (within : outer.length + 1 < limit)
    (opened : IsKey ⟨number, .groupStart⟩ start) :
    SkipsKey limit innermost outer (number :: innermost :: outer) start
  | scalar {number : Nat} {kind : Kind} {value : Value} {key body : Bytes} (within : outer.length + 1 < limit)
    (keyed : IsKey ⟨number, kind⟩ key) (valued : IsScalar kind value body) :
    SkipsKey limit innermost outer (innermost :: outer) (key ++ body)

theorem skipInGroup_eq_some_iff {limit innermost : Nat} {outer opened : List Nat} {bytes rest : Bytes} :
    skipInGroup limit innermost outer bytes = some (opened, rest) <->
      exists front, SkipsKey limit innermost outer opened front /\ bytes = front ++ rest := by
  constructor
  next =>
    intro skipped
    obtain ⟨⟨⟨number, kind⟩, after⟩, read, went⟩ := Option.bind_eq_some_iff.1 skipped
    obtain ⟨key, keyed, rfl⟩ := readKey_eq_some_iff.1 read
    dsimp only at went
    split at went
    next =>
      split at went
      next same => cases went; subst same; exact ⟨key, .finish keyed, rfl⟩
      next => cases went
    next =>
      split at went
      next => cases went
      next within => cases went; exact ⟨key, .start (Nat.lt_of_not_le within) keyed, rfl⟩
    next =>
      split at went
      next => cases went
      next within =>
        obtain ⟨⟨value, behind⟩, scalar, ⟨⟩⟩ := Option.map_eq_some_iff.1 went
        obtain ⟨body, valued, rfl⟩ := readScalar_eq_some_iff.1 scalar
        exact ⟨key ++ body, .scalar (Nat.lt_of_not_le within) keyed valued, (List.append_assoc key body _).symm⟩
  next =>
    rintro ⟨front, skips, rfl⟩
    cases skips with
    | finish closed => simp [skipInGroup, readKey_eq_some_iff.2 ⟨_, closed, rfl⟩]
    | start within started => simp [skipInGroup, readKey_eq_some_iff.2 ⟨_, started, rfl⟩, within]
    | @scalar number kind value key body within keyed valued =>
      have read := readKey_eq_some_iff.2 ⟨key, keyed, List.append_assoc key body rest⟩
      have taken : readScalar kind (body ++ rest) = some (value, rest) :=
        readScalar_eq_some_iff.2 ⟨body, valued, rfl⟩
      cases valued <;> simp only [skipInGroup, read, taken, Option.bind_some, Nat.not_le.2 within, if_false,
        Option.map_some]

theorem skipGroups_of_skipsKey {limit innermost : Nat} {outer opened : List Nat} {front : Bytes}
    (skips : SkipsKey limit innermost outer opened front) (rest : Bytes) :
    skipGroups limit (innermost :: outer) (front ++ rest) = skipGroups limit opened rest :=
  skipGroups_of_skipInGroup (skipInGroup_eq_some_iff.2 ⟨front, skips, rfl⟩)

theorem skipGroups_of_spells {depth : Nat} {fields : List Field} {text : Bytes} (spelled : Spells depth fields text)
    (innermost : Nat) (outer : List Nat) (rest : Bytes) :
    skipGroups (outer.length + 1 + depth) (innermost :: outer) (text ++ rest) =
      skipGroups (outer.length + 1 + depth) (innermost :: outer) rest := by
  induction spelled generalizing innermost outer rest with
  | nil => rfl
  | @scalar depth number kind value fields key body tail keyed valued others ih =>
    have within : outer.length + 1 < outer.length + 1 + (depth + 1) := by omega
    calc
      _ = skipGroups _ (innermost :: outer) ((key ++ body) ++ (tail ++ rest)) := by simp only [List.append_assoc]
      _ = skipGroups _ (innermost :: outer) (tail ++ rest) := skipGroups_of_skipsKey (.scalar within keyed valued) _
      _ = _ := ih innermost outer rest
  | @group depth number inner fields start text finish tail opened held closed others ihHeld ih =>
    -- The limit is for all open groups together: the one that opens here takes its level from `depth`.
    have deeper : outer.length + 1 + (depth + 1) = (innermost :: outer).length + 1 + depth := by
      simp only [List.length_cons]
      omega
    have within : outer.length + 1 < outer.length + 1 + (depth + 1) := by omega
    simp only [List.append_assoc]
    calc
      _ = skipGroups _ (number :: innermost :: outer) (text ++ (finish ++ (tail ++ rest))) :=
        skipGroups_of_skipsKey (.start within opened) _
      _ = skipGroups _ (number :: innermost :: outer) (finish ++ (tail ++ rest)) := by
        rw [deeper, ihHeld]
      _ = skipGroups _ (innermost :: outer) (tail ++ rest) := skipGroups_of_skipsKey (.finish closed) _
      _ = _ := ih innermost outer rest

theorem spells_of_skipGroups {depth innermost : Nat} {outer : List Nat} {bytes rest : Bytes}
    (skipped : skipGroups (outer.length + 1 + depth) (innermost :: outer) bytes = some rest) :
    exists fields text finish behind, Spells depth fields text /\ IsKey ⟨innermost, .groupEnd⟩ finish /\
      bytes = text ++ (finish ++ behind) /\ skipGroups (outer.length + 1 + depth) outer behind = some rest := by
  induction size : bytes.length using Nat.strongRecOn generalizing depth innermost outer bytes with
  | ind size ih =>
    subst size
    rw [skipGroups] at skipped
    split at skipped
    next => cases skipped
    next opened after step =>
      have shorter := skipInGroup_length step
      obtain ⟨front, skips, rfl⟩ := skipInGroup_eq_some_iff.1 step
      cases skips with
      | finish closed => exact ⟨[], [], front, after, .nil, closed, rfl, skipped⟩
      | @start number _ within opened =>
        -- The group that has been opened is left first, and then the one around it.
        obtain ⟨depth, rfl⟩ : exists less, depth = less + 1 := ⟨depth - 1, by omega⟩
        have deeper : outer.length + 1 + (depth + 1) = (innermost :: outer).length + 1 + depth := by
          simp only [List.length_cons]
          omega
        rw [deeper] at skipped
        obtain ⟨inner, text, finish, behind, held, closed, rfl, left⟩ := ih _ shorter skipped rfl
        have nearer : behind.length < (front ++ (text ++ (finish ++ behind))).length := by
          simp only [List.length_append] at shorter ⊢
          omega
        rw [<- deeper] at left
        obtain ⟨fields, others, last, beyond, spelled, ended, rfl, away⟩ := ih _ nearer left rfl
        refine ⟨_, _, last, beyond, .group opened held closed spelled, ended, ?_, away⟩
        simp only [List.append_assoc]
      | @scalar number kind value key body within keyed valued =>
        obtain ⟨depth, rfl⟩ : exists less, depth = less + 1 := ⟨depth - 1, by omega⟩
        obtain ⟨fields, text, finish, behind, spelled, closed, rfl, left⟩ := ih _ shorter skipped rfl
        refine ⟨_, _, finish, behind, .scalar keyed valued spelled, closed, ?_, left⟩
        simp only [List.append_assoc]

theorem Spells.append {depth : Nat} {first second : List Field} {front back : Bytes}
    (before : Spells depth first front) (after : Spells depth second back) :
    Spells depth (first ++ second) (front ++ back) := by
  induction before with
  | nil => exact after
  | scalar keyed valued _ ih =>
    simp only [List.append_assoc, List.cons_append]
    exact .scalar keyed valued (ih after)
  | group opened held closed _ _ ih =>
    simp only [List.append_assoc, List.cons_append]
    exact .group opened held closed (ih after)

theorem readField_eq_some_iff {depth : Nat} {field : Field} {bytes rest : Bytes} :
    readField (depth + 1) bytes = some (field, rest) <->
      exists text, Spells (depth + 1) [field] text /\ bytes = text ++ rest := by
  constructor
  next =>
    intro read
    obtain ⟨⟨⟨number, kind⟩, after⟩, first, second⟩ := Option.bind_eq_some_iff.1 read
    obtain ⟨key, keyed, rfl⟩ := readKey_eq_some_iff.1 first
    dsimp only at second
    split at second
    next starts =>
      subst starts
      obtain ⟨behind, skipped, ⟨⟩⟩ := Option.map_eq_some_iff.1 second
      have within : depth + 1 = ([] : List Nat).length + 1 + depth := by simp [Nat.add_comm]
      rw [within] at skipped
      obtain ⟨inner, text, finish, others, held, closed, rfl, left⟩ := spells_of_skipGroups skipped
      rw [skipGroups] at left
      cases left
      exact ⟨_, .group keyed held closed .nil, by simp only [List.append_assoc, List.append_nil]⟩
    next =>
      obtain ⟨⟨value, behind⟩, scalar, ⟨⟩⟩ := Option.map_eq_some_iff.1 second
      obtain ⟨body, valued, rfl⟩ := readScalar_eq_some_iff.1 scalar
      exact ⟨_, .scalar keyed valued .nil, by simp only [List.append_assoc, List.append_nil]⟩
  next =>
    rintro ⟨text, spelled, rfl⟩
    cases spelled with
    | @scalar _ number kind value _ key body _ keyed valued others =>
      cases others
      have read : readKey (key ++ (body ++ rest)) = some (⟨number, kind⟩, body ++ rest) :=
        readKey_eq_some_iff.2 ⟨key, keyed, rfl⟩
      have taken : readScalar kind (body ++ rest) = some (value, rest) := readScalar_eq_some_iff.2 ⟨body, valued, rfl⟩
      simp only [List.append_nil, List.append_assoc, readField, read, Option.bind_some,
        valued.groupless.1, if_false, taken, Option.map_some]
    | @group _ number inner _ start text finish _ opened held closed others =>
      cases others
      have read : readKey (start ++ (text ++ (finish ++ rest))) = some (⟨number, .groupStart⟩, text ++ (finish ++ rest)) :=
        readKey_eq_some_iff.2 ⟨start, opened, rfl⟩
      have within : depth + 1 = ([] : List Nat).length + 1 + depth := by simp [Nat.add_comm]
      have skipped : skipGroups (depth + 1) [number] (text ++ (finish ++ rest)) = some rest := by
        rw [within, skipGroups_of_spells held, skipGroups_of_skipsKey (.finish closed), skipGroups]
      simp only [List.append_nil, List.append_assoc, readField, read, Option.bind_some, if_true, skipped,
        Option.map_some]

theorem readFields_append {limit : Nat} {fields : List Field} {text : Bytes} (spelled : Spells limit fields text)
    (rest : Bytes) : readFields limit (text ++ rest) = (readFields limit rest).map (fields ++ ·) := by
  have step {depth : Nat} {field : Field} {fields : List Field} {text behind : Bytes}
      (first : Spells (depth + 1) [field] text)
      (others : readFields (depth + 1) behind = (readFields (depth + 1) rest).map (fields ++ ·)) :
      readFields (depth + 1) (text ++ behind) = (readFields (depth + 1) rest).map (field :: fields ++ ·) := by
    rw [readFields_of_readField (readField_eq_some_iff.2 ⟨text, first, rfl⟩), others, Option.map_map]
    rfl
  induction spelled with
  | nil => simp
  | scalar keyed valued _ ih => simpa using step (.scalar keyed valued .nil) ih
  | group opened held closed _ _ ih => simpa using step (.group opened held closed .nil) ih

theorem readFields_eq_some_iff {depth : Nat} {fields : List Field} {bytes : Bytes} :
    readFields (depth + 1) bytes = some fields <-> Spells (depth + 1) fields bytes := by
  have finished : readFields (depth + 1) [] = some [] := by simp [readFields]
  constructor
  next =>
    intro read
    induction size : bytes.length using Nat.strongRecOn generalizing fields bytes with
    | ind size ih =>
      subst size
      cases bytes with
      | nil =>
        obtain rfl := Option.some.inj (finished.symm.trans read)
        exact .nil
      | cons byte tail =>
        cases first : readField (depth + 1) (byte :: tail) with
        | none =>
          rw [readFields_of_unread (List.cons_ne_nil byte tail) first] at read
          cases read
        | some field =>
          obtain ⟨field, rest⟩ := field
          rw [readFields_of_readField first] at read
          obtain ⟨others, behind, rfl⟩ := Option.map_eq_some_iff.1 read
          have later := ih _ (readField_length first) behind rfl
          obtain ⟨text, spelled, same⟩ := readField_eq_some_iff.1 first
          rw [same]
          exact spelled.append later
  next =>
    intro spelled
    simpa [finished] using readFields_append spelled []

end VideoRelay.Wire
