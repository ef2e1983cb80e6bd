import VideoRelay.Wire.Varint

set_option autoImplicit false

namespace VideoRelay.Wire

inductive Kind where
  | varint | fixed64 | delimited | groupStart | groupEnd | fixed32
deriving DecidableEq, Repr

def Kind.code : Kind -> Nat
  | varint => 0
  | fixed64 => 1
  | delimited => 2
  | groupStart => 3
  | groupEnd => 4
  | fixed32 => 5

def Kind.ofCode : Nat -> Option Kind
  | 0 => some varint
  | 1 => some fixed64
  | 2 => some delimited
  | 3 => some groupStart
  | 4 => some groupEnd
  | 5 => some fixed32
  | _ => none

structure Key where
  number : Nat
  kind : Kind
deriving DecidableEq, Repr

inductive Value where
  | varint (value : Nat)
  | fixed64 (bytes : Bytes)
  | delimited (bytes : Bytes)
  | group
  | fixed32 (bytes : Bytes)
deriving DecidableEq, Repr

structure Field where
  number : Nat
  value : Value
deriving DecidableEq, Repr

def writeKey (key : Key) : Bytes :=
  writeVarint (key.number * 8 + key.kind.code)

/-- A key fits 32 bits and its number is not 0. -/
def readKey (bytes : Bytes) : Option (Key × Bytes) :=
  (readVarint bytes).bind fun (key, rest) =>
    if UInt32.size <= key || key < 8 then none
    else (Kind.ofCode (key % 8)).map fun kind => (⟨key / 8, kind⟩, rest)

theorem readKey_length {bytes rest : Bytes} {key : Key} (read : readKey bytes = some (key, rest)) :
    rest.length < bytes.length := by
  obtain ⟨⟨value, after⟩, first, second⟩ := Option.bind_eq_some_iff.1 read
  dsimp only at second
  split at second
  next => cases second
  next =>
    obtain ⟨kind, _, same⟩ := Option.map_eq_some_iff.1 second
    cases same
    exact readVarint_length first

def takeBytes (count : Nat) (bytes : Bytes) : Option (Bytes × Bytes) :=
  if bytes.length < count then none else some (bytes.splitAt count)

theorem takeBytes_length {count : Nat} {bytes taken rest : Bytes}
    (read : takeBytes count bytes = some (taken, rest)) : rest.length <= bytes.length := by
  unfold takeBytes at read
  split at read
  next => cases read
  next =>
    simp only [List.splitAt_eq, Option.some.injEq, Prod.mk.injEq] at read
    rw [← read.2, List.length_drop]
    omega

def readScalar : Kind -> Bytes -> Option (Value × Bytes)
  | .varint, bytes => (readVarint bytes).map fun (value, rest) => (.varint value, rest)
  | .fixed64, bytes => (takeBytes 8 bytes).map fun (taken, rest) => (.fixed64 taken, rest)
  | .fixed32, bytes => (takeBytes 4 bytes).map fun (taken, rest) => (.fixed32 taken, rest)
  | .delimited, bytes => (readVarint bytes).bind fun (length, rest) =>
      (takeBytes length rest).map fun (taken, rest) => (.delimited taken, rest)
  | .groupStart, _ | .groupEnd, _ => none

theorem readScalar_length {kind : Kind} {bytes rest : Bytes} {value : Value}
    (read : readScalar kind bytes = some (value, rest)) : rest.length <= bytes.length := by
  cases kind with
  | varint =>
    obtain ⟨⟨_, _⟩, inner, same⟩ := Option.map_eq_some_iff.1 read
    cases same
    exact Nat.le_of_lt (readVarint_length inner)
  | fixed64 | fixed32 =>
    obtain ⟨⟨_, _⟩, inner, same⟩ := Option.map_eq_some_iff.1 read
    cases same
    exact takeBytes_length inner
  | delimited =>
    obtain ⟨⟨_, _⟩, first, second⟩ := Option.bind_eq_some_iff.1 read
    obtain ⟨⟨_, _⟩, inner, same⟩ := Option.map_eq_some_iff.1 second
    cases same
    exact Nat.le_trans (takeBytes_length inner) (Nat.le_of_lt (readVarint_length first))
  | groupStart | groupEnd => cases read

/-- Skips one key, with its value if it has one, inside the groups `innermost :: outer`. The result holds the
groups that are open afterwards. A group may hold fields only while fewer than `limit` groups are open. -/
def skipInGroup (limit innermost : Nat) (outer : List Nat) (bytes : Bytes) :
    Option (List Nat × Bytes) :=
  (readKey bytes).bind fun (key, rest) =>
    match key.kind with
    | .groupEnd => if key.number = innermost then some (outer, rest) else none
    | .groupStart =>
      if limit <= outer.length + 1 then none else some (key.number :: innermost :: outer, rest)
    | kind =>
      if limit <= outer.length + 1 then none
      else (readScalar kind rest).map fun (_, rest) => (innermost :: outer, rest)

theorem skipInGroup_length {limit innermost : Nat} {outer opened : List Nat} {bytes rest : Bytes}
    (skipped : skipInGroup limit innermost outer bytes = some (opened, rest)) :
    rest.length < bytes.length := by
  obtain ⟨⟨key, after⟩, first, second⟩ := Option.bind_eq_some_iff.1 skipped
  have shorter := readKey_length first
  dsimp only at second
  split at second <;> split at second <;> first | cases second; done | skip
  next => cases second; exact shorter
  next => cases second; exact shorter
  next =>
    obtain ⟨⟨_, _⟩, inner, same⟩ := Option.map_eq_some_iff.1 second
    cases same
    exact Nat.lt_of_le_of_lt (readScalar_length inner) shorter

def skipGroups (limit : Nat) (opened : List Nat) (bytes : Bytes) : Option Bytes :=
  match opened with
  | [] => some bytes
  | innermost :: outer =>
    match _skipped : skipInGroup limit innermost outer bytes with
    | none => none
    | some (opened, rest) => skipGroups limit opened rest
termination_by bytes.length
decreasing_by exact skipInGroup_length _skipped

theorem skipGroups_length {limit : Nat} {opened : List Nat} {bytes rest : Bytes}
    (skipped : skipGroups limit opened bytes = some rest) : rest.length <= bytes.length := by
  fun_induction skipGroups limit opened bytes with
  | case1 => cases skipped; exact Nat.le_refl _
  | case2 => cases skipped
  | case3 _ _ _ _ _ step ih =>
    exact Nat.le_trans (ih skipped) (Nat.le_of_lt (skipInGroup_length step))

def readField (limit : Nat) (bytes : Bytes) : Option (Field × Bytes) :=
  (readKey bytes).bind fun (key, rest) =>
    if key.kind = .groupStart then
      (skipGroups limit [key.number] rest).map fun rest => (⟨key.number, .group⟩, rest)
    else (readScalar key.kind rest).map fun (value, rest) => (⟨key.number, value⟩, rest)

theorem readField_length {limit : Nat} {bytes rest : Bytes} {field : Field}
    (read : readField limit bytes = some (field, rest)) : rest.length < bytes.length := by
  obtain ⟨⟨key, after⟩, first, second⟩ := Option.bind_eq_some_iff.1 read
  have shorter := readKey_length first
  dsimp only at second
  split at second
  next =>
    obtain ⟨_, inner, same⟩ := Option.map_eq_some_iff.1 second
    cases same
    exact Nat.lt_of_le_of_lt (skipGroups_length inner) shorter
  next =>
    obtain ⟨⟨_, _⟩, inner, same⟩ := Option.map_eq_some_iff.1 second
    cases same
    exact Nat.lt_of_le_of_lt (readScalar_length inner) shorter

def readFields (limit : Nat) (bytes : Bytes) : Option (List Field) :=
  if bytes.isEmpty then some []
  else
    match _read : readField limit bytes with
    | none => none
    | some (field, rest) => (readFields limit rest).map (field :: ·)
termination_by bytes.length
decreasing_by exact readField_length _read

def Field.write (field : Field) : Bytes :=
  match field.value with
  | .varint value => writeKey ⟨field.number, .varint⟩ ++ writeVarint value
  | .delimited bytes => writeKey ⟨field.number, .delimited⟩ ++ writeVarint bytes.length ++ bytes
  | .fixed64 bytes => writeKey ⟨field.number, .fixed64⟩ ++ bytes
  | .fixed32 bytes => writeKey ⟨field.number, .fixed32⟩ ++ bytes
  | .group => writeKey ⟨field.number, .groupStart⟩ ++ writeKey ⟨field.number, .groupEnd⟩

def writeFields (fields : List Field) : Bytes :=
  fields.flatMap Field.write

end VideoRelay.Wire
