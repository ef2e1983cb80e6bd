set_option autoImplicit false

namespace VideoRelay.Text

def hexValue? (byte : UInt8) : Option UInt8 :=
  if 48 <= byte && byte <= 57 then some (byte - 48)
  else if 65 <= byte && byte <= 70 then some (byte - 55)
  else if 97 <= byte && byte <= 102 then some (byte - 87)
  else none

def hexPair? (high low : UInt8) : Option UInt8 :=
  (hexValue? high).bind fun high => (hexValue? low).map fun low => 16 * high + low

def percentSign : UInt8 := 37

def percentDecode : List UInt8 -> List UInt8
  | first :: high :: low :: rest =>
    match (if first = percentSign then hexPair? high low else none) with
    | some byte => byte :: percentDecode rest
    | none => first :: percentDecode (high :: low :: rest)
  | first :: rest => first :: percentDecode rest
  | [] => []

theorem percentDecode_cons (first : UInt8) (rest : List UInt8) (plain : first ≠ percentSign) :
    percentDecode (first :: rest) = first :: percentDecode rest := by
  match rest with
  | [] => rfl
  | [_] => rfl
  | _ :: _ :: _ => simp [percentDecode, plain]

end VideoRelay.Text
