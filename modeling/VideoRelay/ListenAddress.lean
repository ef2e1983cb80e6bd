import VideoRelay.Address.Ipv6

set_option autoImplicit false

namespace VideoRelay

inductive ListenAddress where
  | ipv4 (address : Ipv4) (port : UInt16)
  | ipv6 (address : Ipv6) (scope : UInt32) (port : UInt16)
deriving DecidableEq, Repr

namespace ListenAddress

def number? (max : Nat) (digits : List Char) : Option Nat :=
  (Decimal.wholeNumber? digits).filter (· <= max)

def port? (digits : List Char) : Option UInt16 :=
  (number? 65535 digits).map UInt16.ofNat

def scope? : Option (List Char) -> Option UInt32
  | none => some 0
  | some digits => (number? (UInt32.size - 1) digits).map UInt32.ofNat

def parseIpv6? (chars : List Char) : Option ListenAddress :=
  match Text.cut ']' chars with
  | (host, some (':' :: digits)) => do
    let (text, scope) := Text.cut '%' host
    let address <- Ipv6.parse? text
    let scope <- scope? scope
    let port <- port? digits
    return .ipv6 address scope port
  | _ => none

def parseIpv4? (chars : List Char) : Option ListenAddress :=
  match Text.cut ':' chars with
  | (host, some digits) => do
    let address <- Ipv4.parseStrict? host
    let port <- port? digits
    return .ipv4 address port
  | _ => none

def parse? (text : String) : Option ListenAddress :=
  match text.toList with
  | '[' :: rest => parseIpv6? rest
  | chars => parseIpv4? chars

end ListenAddress

end VideoRelay
