import VideoRelay.Proofs.Wire.Grammar
import VideoRelay.Proofs.Wire.Messages

set_option autoImplicit false

namespace VideoRelay.Wire

def bitsFrom (place : Nat) : Nat := 64 - 7 * place

theorem readVarintFrom_overlong {place value : Nat} (within : place <= 9) (long : Nat.pow 2 (bitsFrom place) <= value)
    (rest : Bytes) : readVarintFrom place (writeVarint value ++ rest) = none := by
  fun_induction writeVarint value generalizing place with
  | case1 value small =>
    -- Only the tenth byte has less than seven bits.
    have tenth : place = 9 := by
      refine Classical.byContradiction fun early => ?_
      have more : Nat.pow 2 8 <= Nat.pow 2 (bitsFrom place) :=
        Nat.pow_le_pow_right (by decide) (by unfold bitsFrom; omega)
      have wide : Nat.pow 2 8 = 256 := rfl
      omega
    subst tenth
    have two : 2 <= value := long
    have byte : (UInt8.ofNat value).toNat = value := by simp; omega
    have more : ¬ value <= 1 := by omega
    simp only [List.singleton_append, readVarintFrom, if_true, byte, more, if_false]
  | case2 value large ih =>
    have byte : (UInt8.ofNat (value % 128 + 128)).toNat = value % 128 + 128 := by simp; omega
    have more : ¬ value % 128 + 128 <= 1 := by omega
    have marked : ¬ value % 128 + 128 < 128 := by omega
    by_cases tenth : place = 9
    next => simp only [List.cons_append, readVarintFrom, tenth, if_true, byte, more, if_false]
    next =>
      have bits : bitsFrom place = bitsFrom (place + 1) + 7 := by
        unfold bitsFrom
        omega
      have high : Nat.pow 2 (bitsFrom (place + 1)) <= value / 128 := by
        rw [Nat.le_div_iff_mul_le (by decide)]
        rw [bits] at long
        exact Nat.pow_add 2 (bitsFrom (place + 1)) 7 ▸ long
      simp only [List.cons_append, readVarintFrom, tenth, if_false, byte, marked, ih (by omega) high, Option.map_none]

theorem readField_overlong (limit : Nat) {number : Nat} {bytes : Bytes} (numbered : IsFieldNumber number)
    (long : numberLimit <= bytes.length) : readField limit (Field.write ⟨number, .delimited bytes⟩) = none := by
  have keyed (rest : Bytes) := @readKey_writeKey ⟨number, .delimited⟩ numbered rest
  have unread (rest : Bytes) : readVarint (writeVarint bytes.length ++ rest) = none :=
    readVarintFrom_overlong (Nat.zero_le 9) long rest
  simp [readField, Field.write, keyed, readScalar, unread]

theorem readField_append {depth : Nat} {field : Field} {bytes rest : Bytes}
    (read : readField (depth + 1) bytes = some (field, rest)) (more : Bytes) :
    readField (depth + 1) (bytes ++ more) = some (field, rest ++ more) := by
  obtain ⟨text, spelled, rfl⟩ := readField_eq_some_iff.1 read
  exact readField_eq_some_iff.2 ⟨text, spelled, List.append_assoc text rest more⟩

theorem readField_cut {depth number : Nat} {bytes cut : Bytes} (numbered : IsFieldNumber number)
    (front : cut <+: Field.write ⟨number, .delimited bytes⟩) (proper : cut ≠ Field.write ⟨number, .delimited bytes⟩) :
    readField (depth + 1) cut = none := by
  obtain ⟨more, whole⟩ := front
  cases read : readField (depth + 1) cut with
  | none => rfl
  | some result =>
    obtain ⟨field, rest⟩ := result
    have longer := readField_append read more
    rw [whole] at longer
    by_cases short : bytes.length < numberLimit
    next =>
      have readable : Field.IsReadable ⟨number, .delimited bytes⟩ := ⟨numbered, short⟩
      have same := readField_write (depth + 1) readable []
      rw [List.append_nil, longer] at same
      simp only [Option.some.injEq, Prod.mk.injEq, List.append_eq_nil_iff] at same
      rw [same.2.2, List.append_nil] at whole
      exact absurd whole proper
    next =>
      rw [readField_overlong (depth + 1) numbered (Nat.le_of_not_lt short)] at longer
      cases longer

theorem decode?_cut {M : Type} [Message M] {number : Nat} {bytes cut : Bytes} (numbered : IsFieldNumber number)
    (front : cut <+: Field.write ⟨number, .delimited bytes⟩) (proper : cut ≠ Field.write ⟨number, .delimited bytes⟩)
    (filled : cut ≠ []) : decode? M cut = none := by
  have unread : readField outerLimit cut = none := readField_cut numbered front proper
  rw [decode?, readFields_of_unread filled unread, Option.bind_none]

theorem GetVideoResponse.encode_of_carried {response : GetVideoResponse} (carried : response ≠ .empty) :
    exists number bytes, IsFieldNumber number /\ encode response = Field.write ⟨number, .delimited bytes⟩ := by
  cases response with
  | empty => exact absurd rfl carried
  | header video => exact ⟨1, writeFields (Message.fields video), by decide, List.flatMap_singleton ..⟩
  | datagram data => exact ⟨2, writeFields (Message.fields data), by decide, List.flatMap_singleton ..⟩

/-- Of a header or a datagram that has been cut off nothing is taken for a frame, wherever the cut is. Without any byte
left it is a response that carries neither of them, with some bytes left it cannot be decoded. -/
theorem truncated_response_refused (response : GetVideoResponse) (carried : response ≠ .empty) (cut : Bytes)
    (front : cut <+: encode response) (proper : cut ≠ encode response) :
    (cut = [] -> (decode? GetVideoResponse cut).map (fun response => response.frame.mapError Fault.ofViolation) =
      some (.error (.streamProtocol "GetVideo response carries neither header nor datagram"))) /\
    (cut ≠ [] -> decode? GetVideoResponse cut = none) /\
    forall frame, (decode? GetVideoResponse cut).map GetVideoResponse.frame ≠ some (.ok frame) := by
  have nothing : decode? GetVideoResponse [] = some .empty := by decide +kernel
  have part (filled : cut ≠ []) : decode? GetVideoResponse cut = none := by
    obtain ⟨number, bytes, numbered, written⟩ := GetVideoResponse.encode_of_carried carried
    rw [written] at front proper
    exact decode?_cut numbered front proper filled
  refine ⟨?_, part, ?_⟩
  next =>
    rintro rfl
    rw [nothing]
    rfl
  next =>
    intro frame
    by_cases filled : cut = []
    next =>
      rw [filled, nothing]
      exact nofun
    next =>
      rw [part filled]
      exact nofun

def severedDatagram : Bytes := [0x12, 7, 0x08, 0xac, 2]

theorem severedDatagram_refused :
    severedDatagram <+: encode (GetVideoResponse.datagram { offset := 300, payload := [97, 98] }) /\
    decode? Datagram (severedDatagram.drop 2) = some { offset := 300 } /\
    decode? GetVideoResponse severedDatagram = none := by
  have written : encode (GetVideoResponse.datagram { offset := 300, payload := [97, 98] }) =
      severedDatagram ++ [0x12, 2, 97, 98] := by decide +kernel
  have front : severedDatagram <+: encode (GetVideoResponse.datagram { offset := 300, payload := [97, 98] }) :=
    ⟨_, written.symm⟩
  refine ⟨front, by decide +kernel, ?_⟩
  exact (truncated_response_refused (.datagram { offset := 300, payload := [97, 98] }) nofun severedDatagram front
    (by rw [written]; decide)).2.1 (by decide)

end VideoRelay.Wire
