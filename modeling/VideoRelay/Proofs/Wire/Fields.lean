import VideoRelay.Wire.Field

set_option autoImplicit false

namespace VideoRelay.Wire

def numberLimit : Nat := UInt64.size

theorem readVarintFrom_writeVarint {place value : Nat} (fits : value * Nat.pow 128 place < numberLimit) (rest : Bytes) :
    readVarintFrom place (writeVarint value ++ rest) = some (value, rest) := by
  unfold numberLimit UInt64.size at fits
  have ninth : Nat.pow 128 9 = 9223372036854775808 := rfl
  fun_induction writeVarint value generalizing place with
  | case1 value small =>
    have byte : (UInt8.ofNat value).toNat = value := by simp; omega
    by_cases last : place = 9
    next =>
      have bit : value <= 1 := by subst last; rw [ninth] at fits; omega
      simp only [List.singleton_append, readVarintFrom, last, if_true, byte, bit]
    next => simp only [List.singleton_append, readVarintFrom, last, if_false, byte, small, if_true]
  | case2 value large ih =>
    have byte : (UInt8.ofNat (value % 128 + 128)).toNat = value % 128 + 128 := by simp; omega
    have early : place ≠ 9 := by rintro rfl; rw [ninth] at fits; omega
    have next : Nat.pow 128 (place + 1) = 128 * Nat.pow 128 place := Nat.pow_succ'
    have high : value / 128 * Nat.pow 128 (place + 1) < 18446744073709551616 := by
      rw [next, <- Nat.mul_assoc]
      exact Nat.lt_of_le_of_lt (Nat.mul_le_mul_right _ (Nat.div_mul_le_self value 128)) fits
    have marked : ¬ value % 128 + 128 < 128 := by omega
    simp only [List.cons_append, readVarintFrom, early, if_false, byte, marked, ih high, Option.map_some,
      Nat.add_sub_cancel, Nat.mod_add_div]

theorem readVarint_writeVarint {value : Nat} (fits : value < numberLimit) (rest : Bytes) :
    readVarint (writeVarint value ++ rest) = some (value, rest) :=
  readVarintFrom_writeVarint (by simpa using fits) rest

theorem Kind.code_lt (kind : Kind) : kind.code < 8 := by
  cases kind <;> decide

theorem Kind.ofCode_code (kind : Kind) : ofCode kind.code = some kind := by
  cases kind <;> rfl

def IsFieldNumber (number : Nat) : Prop :=
  0 < number /\ number < 536870912

instance (number : Nat) : Decidable (IsFieldNumber number) :=
  inferInstanceAs (Decidable (_ /\ _))

theorem readKey_of_readVarint {key : Key} (numbered : IsFieldNumber key.number) {bytes rest : Bytes}
    (number : readVarint bytes = some (key.number * 8 + key.kind.code, rest)) : readKey bytes = some (key, rest) := by
  obtain ⟨positive, bounded⟩ := numbered
  have low := key.kind.code_lt
  have accepted : ¬ (UInt32.size <= key.number * 8 + key.kind.code || key.number * 8 + key.kind.code < 8) = true := by
    simp only [UInt32.size, Bool.or_eq_true, decide_eq_true_eq]
    omega
  have kind : (key.number * 8 + key.kind.code) % 8 = key.kind.code := by omega
  have field : (key.number * 8 + key.kind.code) / 8 = key.number := by omega
  simp only [readKey, number, Option.bind_some, if_neg accepted, kind, Kind.ofCode_code, field, Option.map_some]

theorem readKey_writeKey {key : Key} (numbered : IsFieldNumber key.number) (rest : Bytes) :
    readKey (writeKey key ++ rest) = some (key, rest) := by
  have bounded := numbered.2
  have low := key.kind.code_lt
  have fits : key.number * 8 + key.kind.code < numberLimit := by unfold numberLimit UInt64.size; omega
  exact readKey_of_readVarint numbered (readVarint_writeVarint fits rest)

theorem takeBytes_append (bytes rest : Bytes) : takeBytes bytes.length (bytes ++ rest) = some (bytes, rest) := by
  simp [takeBytes]

theorem skipGroups_of_skipInGroup {limit innermost : Nat} {outer opened : List Nat} {bytes rest : Bytes}
    (skipped : skipInGroup limit innermost outer bytes = some (opened, rest)) :
    skipGroups limit (innermost :: outer) bytes = skipGroups limit opened rest := by
  rw [skipGroups]
  split
  next stuck => rw [skipped] at stuck; cases stuck
  next other remaining again => rw [skipped] at again; cases again; rfl

namespace Field

def IsReadable (field : Field) : Prop :=
  IsFieldNumber field.number /\ match field.value with
    | .varint value => value < numberLimit
    | .delimited bytes => bytes.length < numberLimit
    | .fixed64 bytes => bytes.length = 8
    | .fixed32 bytes => bytes.length = 4
    | .group => True

end Field

theorem readField_write (limit : Nat) {field : Field} (readable : field.IsReadable) (rest : Bytes) :
    readField limit (field.write ++ rest) = some (field, rest) := by
  obtain ⟨number, value⟩ := field
  obtain ⟨numbered, valued⟩ := readable
  have keyed (kind : Kind) := @readKey_writeKey ⟨number, kind⟩ numbered
  cases value with
  | varint value =>
    simp [readField, Field.write, keyed, readScalar, readVarint_writeVarint valued]
  | fixed64 bytes =>
    simp [readField, Field.write, keyed, readScalar, <- (show bytes.length = 8 from valued), takeBytes_append]
  | fixed32 bytes =>
    simp [readField, Field.write, keyed, readScalar, <- (show bytes.length = 4 from valued), takeBytes_append]
  | delimited bytes =>
    simp [readField, Field.write, keyed, readScalar, readVarint_writeVarint valued, takeBytes_append]
  | group =>
    have closed : skipInGroup limit number [] (writeKey ⟨number, .groupEnd⟩ ++ rest) = some ([], rest) := by
      simp [skipInGroup, keyed]
    have skipped : skipGroups limit [number] (writeKey ⟨number, .groupEnd⟩ ++ rest) = some rest := by
      rw [skipGroups_of_skipInGroup closed, skipGroups]
    simp [readField, Field.write, keyed, skipped]

theorem readFields_of_readField {limit : Nat} {field : Field} {bytes rest : Bytes}
    (read : readField limit bytes = some (field, rest)) :
    readFields limit bytes = (readFields limit rest).map (field :: ·) := by
  have filled : bytes ≠ [] := by
    rintro rfl
    exact absurd (readField_length read) (Nat.not_lt_zero _)
  rw [readFields, if_neg (by simpa using filled)]
  split
  next unread => rw [read] at unread; cases unread
  next other remaining again => rw [read] at again; cases again; rfl

theorem readFields_of_unread {limit : Nat} {bytes : Bytes} (filled : bytes ≠ []) (unread : readField limit bytes = none) :
    readFields limit bytes = none := by
  rw [readFields, if_neg (by simpa using filled)]
  split
  next => rfl
  next read => rw [unread] at read; cases read

theorem readFields_cons (limit : Nat) {field : Field} (readable : field.IsReadable) (rest : Bytes) :
    readFields limit (field.write ++ rest) = (readFields limit rest).map (field :: ·) :=
  readFields_of_readField (readField_write limit readable rest)

theorem readFields_writeFields (limit : Nat) {fields : List Field}
    (readable : forall field, field ∈ fields -> field.IsReadable) :
    readFields limit (writeFields fields) = some fields := by
  induction fields with
  | nil => simp [writeFields, readFields]
  | cons field rest ih =>
    have next := ih fun other member => readable other (List.mem_cons_of_mem field member)
    have first := readFields_cons limit (readable field List.mem_cons_self) (writeFields rest)
    rw [next] at first
    simpa [writeFields] using first

end VideoRelay.Wire
