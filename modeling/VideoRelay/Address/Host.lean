import VideoRelay.Address.Ipv6
import VideoRelay.Text.Percent
import VideoRelay.Text.Utf8

set_option autoImplicit false

namespace VideoRelay

inductive UrlProblem where
  | noScheme
  | emptyHost
  | port
  | ipv4
  | ipv6
  | domain
  | hostCharacter
deriving DecidableEq, Repr

def UrlProblem.message : UrlProblem -> String
  | noScheme => "relative URL without a base"
  | emptyHost => "empty host"
  | port => "invalid port number"
  | ipv4 => "invalid IPv4 address"
  | ipv6 => "invalid IPv6 address"
  | domain => "invalid international domain name"
  | hostCharacter => "invalid domain character"

inductive Host where
  | domain (name : List Char)
  | ipv4 (address : Ipv4)
  | ipv6 (address : Ipv6)
deriving DecidableEq, Repr

namespace Host

def delimiters : List Char :=
  ['#', '/', ':', '<', '>', '?', '@', '[', '\\', ']', '^', '|']

def isDomainByte (byte : UInt8) : Bool :=
  32 < byte && byte < 127 && byte != Text.percentSign &&
    !delimiters.any fun c => c.toNat == byte.toNat

def lowerByte (byte : UInt8) : Char :=
  (Char.ofNat byte.toNat).toLower

def asciiName? (bytes : List UInt8) : Option (List Char) :=
  if bytes.all isDomainByte then some (bytes.map lowerByte) else none

def parseBracketed (text : List Char) : Except UrlProblem Host :=
  if text.getLast? = some ']' then
    match Ipv6.parse? text.tail.dropLast with
    | some address => .ok (ipv6 address)
    | none => .error .ipv6
  else .error .ipv6

/-- A name that ends in a number has to be an IPv4 address. -/
def ofName (name : List Char) : Except UrlProblem Host :=
  if name.isEmpty then .error .emptyHost
  else if Ipv4.endsInNumber name then
    match Ipv4.parse? name with
    | some address => .ok (ipv4 address)
    | none => .error .ipv4
  else .ok (domain name)

/-- Hosts are ASCII here, and no label starts with `xn--`: internationalised names are neither mapped nor checked. -/
def parse (text : List Char) : Except UrlProblem Host :=
  if text.head? = some '[' then parseBracketed text
  else
    match asciiName? (Text.percentDecode (Text.utf8Bytes (String.ofList text))) with
    | some name => ofName name
    | none => .error .domain

def parseVerbatim (text : List Char) : Except UrlProblem Host :=
  if text.head? = some '[' then parseBracketed text
  else if text.any fun c => c.toNat = 0 || c = ' ' || delimiters.contains c then
    .error .hostCharacter
  else .ok (domain text)

def chars : Host -> List Char
  | domain name => name
  | ipv4 address => address.chars
  | ipv6 address => '[' :: address.chars ++ [']']

/-- The form that `parse` gives: a name is not empty, holds ASCII in lower case, and is no number. -/
def IsNormal : Host -> Prop
  | domain name =>
    name ≠ [] /\ Ipv4.endsInNumber name = false /\
      forall c, c ∈ name -> c.toLower = c /\ c.toNat < 127 /\ isDomainByte (UInt8.ofNat c.toNat) = true
  | ipv4 _ | ipv6 _ => True

end Host

end VideoRelay
