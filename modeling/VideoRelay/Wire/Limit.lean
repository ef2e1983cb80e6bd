import VideoRelay.Status
import VideoRelay.Wire.Message

set_option autoImplicit false

namespace VideoRelay.Wire

def sizeLimit : Nat := 16 * 1024 * 1024

def tooLarge (size : Nat) : Status :=
  { code := .outOfRange
    message := "Error, decoded message length too large: found " ++ toString size ++
      " bytes, the limit is: " ++ toString sizeLimit ++ " bytes" }

def receive {M : Type} [Message M] (message : M) : Except Status M :=
  let size := encodedSize message
  if sizeLimit < size then .error (tooLarge size) else .ok message

end VideoRelay.Wire
