import VideoRelay.Text.Utf8
import VideoRelay.Wire.Field

set_option autoImplicit false

namespace VideoRelay.Wire

/-- How deep groups may nest in a message that stands alone, and in one that is a field. -/
def outerLimit : Nat := 100

def innerLimit : Nat := outerLimit - 1

namespace Value

def text? : Value -> Option String
  | delimited bytes => Text.utf8Text? bytes
  | _ => none

def bytes? : Value -> Option Bytes
  | delimited bytes => some bytes
  | _ => none

def uint64? : Value -> Option UInt64
  | varint value => some (UInt64.ofNat value)
  | _ => none

def uint32? : Value -> Option UInt32
  | varint value => some (UInt32.ofNat value)
  | _ => none

def int32? : Value -> Option Int32
  | varint value => some (Int32.ofNat value)
  | _ => none

def fields? : Value -> Option (List Field)
  | delimited bytes => readFields innerLimit bytes
  | _ => none

end Value

def textField (number : Nat) (text : String) : List Field :=
  if text.isEmpty then [] else [⟨number, .delimited (Text.utf8Bytes text)⟩]

def bytesField (number : Nat) (bytes : Bytes) : List Field :=
  if bytes.isEmpty then [] else [⟨number, .delimited bytes⟩]

def uint64Field (number : Nat) (value : UInt64) : List Field :=
  if value = 0 then [] else [⟨number, .varint value.toNat⟩]

def uint32Field (number : Nat) (value : UInt32) : List Field :=
  if value = 0 then [] else [⟨number, .varint value.toNat⟩]

/-- Negative numbers are written as their 64-bit complement. -/
def int32Field (number : Nat) (value : Int32) : List Field :=
  if value = 0 then [] else [⟨number, .varint value.toInt64.toUInt64.toNat⟩]

/-- A nested message is written also when it is empty. -/
def messageField (number : Nat) (fields : List Field) : List Field :=
  [⟨number, .delimited (writeFields fields)⟩]

end VideoRelay.Wire
