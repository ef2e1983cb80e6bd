import VideoRelay.Fault

set_option autoImplicit false

namespace VideoRelay

abbrev Bytes := List UInt8

structure Descriptor where
  id : String
  totalLength : UInt64
  mimeType : String
  fileName : String
deriving DecidableEq, Repr

structure Datagram where
  offset : UInt64 := 0
  payload : Bytes := []
deriving DecidableEq, Repr

inductive Frame where
  | header (descriptor : Descriptor)
  | datagram (datagram : Datagram)
deriving DecidableEq, Repr

structure FrameGate where
  headerSeen : Bool := false
deriving DecidableEq, Repr

namespace FrameGate

def header (order : FrameGate) : Except Violation FrameGate :=
  if order.headerSeen then .error .headerTwice else .ok { headerSeen := true }

def datagram (order : FrameGate) : Except Violation Unit :=
  if order.headerSeen then .ok () else .error .datagramBeforeHeader

def accept (order : FrameGate) : Frame -> Except Violation FrameGate
  | .header _ => order.header
  | .datagram _ => order.datagram.map fun _ => order

theorem accept_datagram (order : FrameGate) (datagram : Datagram) :
    order.accept (.datagram datagram) =
      if order.headerSeen then .ok order else .error .datagramBeforeHeader := by
  show (order.datagram).map (fun _ => order) = _
  unfold FrameGate.datagram
  split <;> rfl

end FrameGate

/-- Bytes sent so far on one stream. -/
structure RunningOffset where
  total : UInt64 := 0
deriving DecidableEq, Repr

def RunningOffset.advance (counter : RunningOffset) (length : Nat) : UInt64 × RunningOffset :=
  (counter.total, { total := counter.total + UInt64.ofNat length })

end VideoRelay
