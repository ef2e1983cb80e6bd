import VideoRelay.Frame

set_option autoImplicit false

namespace VideoRelay.Wire

def writeVarint (value : Nat) : Bytes :=
  if value < 128 then [UInt8.ofNat value]
  else UInt8.ofNat (value % 128 + 128) :: writeVarint (value / 128)

/-- Reads on at the byte of index `place`; the tenth byte can only hold the last bit. -/
def readVarintFrom (place : Nat) : Bytes -> Option (Nat × Bytes)
  | [] => none
  | byte :: rest =>
    if place = 9 then (if byte.toNat <= 1 then some (byte.toNat, rest) else none)
    else if byte.toNat < 128 then some (byte.toNat, rest)
    else (readVarintFrom (place + 1) rest).map fun (high, rest) =>
      (byte.toNat - 128 + 128 * high, rest)

def readVarint (bytes : Bytes) : Option (Nat × Bytes) :=
  readVarintFrom 0 bytes

theorem readVarintFrom_length {place : Nat} {bytes rest : Bytes} {value : Nat}
    (read : readVarintFrom place bytes = some (value, rest)) : rest.length < bytes.length := by
  induction bytes generalizing place value with
  | nil => simp [readVarintFrom] at read
  | cons byte tail ih =>
    unfold readVarintFrom at read
    split at read
    next =>
      split at read
      next => cases read; simp
      next => cases read
    next =>
      split at read
      next => cases read; simp
      next =>
        obtain ⟨⟨high, after⟩, inner, same⟩ := Option.map_eq_some_iff.1 read
        cases same
        have shorter := ih inner
        simp only [List.length_cons]
        omega

theorem readVarint_length {bytes rest : Bytes} {value : Nat}
    (read : readVarint bytes = some (value, rest)) : rest.length < bytes.length :=
  readVarintFrom_length read

end VideoRelay.Wire
