import VideoRelay.Address.Url
import VideoRelay.Fault
import VideoRelay.Text.Blank

set_option autoImplicit false

namespace VideoRelay

structure Address where
  host : Host
  port : Option UInt16
  secure : Bool
deriving DecidableEq, Repr

namespace Address

def noUrl (raw : String) (problem : UrlProblem) : Fault :=
  .config ("'" ++ raw ++ "' is not a URL: " ++ problem.message)

def unsupportedScheme (raw scheme : String) : Fault :=
  .config ("unsupported scheme '" ++ scheme ++ "' in '" ++ raw ++ "' (expected http or https)")

def noHost (raw : String) : Fault :=
  .config ("'" ++ raw ++ "' has no host")

def secure? : String -> Option Bool
  | "http" => some false
  | "https" => some true
  | _ => none

def ofUrl (raw : String) (url : Url) : Except Fault Address :=
  match secure? url.scheme, url.host with
  | none, _ => .error (unsupportedScheme raw url.scheme)
  | some _, none => .error (noHost raw)
  | some secure, some host => .ok { host, port := url.port, secure }

def parse (raw : String) : Except Fault Address :=
  match Url.parse (Text.trim raw) with
  | .error problem => .error (noUrl raw problem)
  | .ok url => ofUrl raw url

def authorityChars (address : Address) : List Char :=
  address.host.chars ++ match address.port with
    | none => []
    | some port => ':' :: Nat.toDigits 10 port.toNat

def authority (address : Address) : String :=
  String.ofList address.authorityChars

def scheme (address : Address) : String :=
  if address.secure then "https" else "http"

def uri (address : Address) : String :=
  address.scheme ++ "://" ++ address.authority

def isUnfit (c : Char) : Bool :=
  c = '"' || c.toNat = 96 || c.toNat = 123 || c.toNat = 125

def maxTarget : Nat := 65534

/-- Where requests go to. -/
def target (address : Address) : Except Fault String :=
  if address.authorityChars.any isUnfit || maxTarget < address.uri.utf8ByteSize then
    .error (.config ("Invalid endpoint URI " ++ address.uri ++ ": invalid URI"))
  else .ok (address.uri ++ "/")

end Address

end VideoRelay
