import VideoRelay.Decimal.Numeral
import VideoRelay.Text.Split

set_option autoImplicit false

namespace VideoRelay

structure Ipv4 where
  first : UInt8
  second : UInt8
  third : UInt8
  fourth : UInt8
deriving DecidableEq, Repr

namespace Ipv4

def digitValue? (radix : Nat) (c : Char) : Option Nat :=
  let point := c.toNat
  let value :=
    if 48 <= point && point <= 57 then point - 48
    else if 65 <= point && point <= 70 then point - 55
    else if 97 <= point && point <= 102 then point - 87
    else 16
  if value < radix then some value else none

def digitsValue? (radix : Nat) (digits : List Char) : Option Nat :=
  (digits.mapM (digitValue? radix)).map fun values =>
    values.foldl (fun value digit => radix * value + digit) 0

def number? : List Char -> Option Nat
  | [] => none
  | '0' :: 'x' :: digits | '0' :: 'X' :: digits => digitsValue? 16 digits
  | ['0'] => some 0
  | '0' :: digits => digitsValue? 8 digits
  | digits => digitsValue? 10 digits

/-- The parts of a dotted text, without the empty one behind a closing dot. -/
def parts (text : List Char) : List (List Char) :=
  let all := Text.pieces '.' text
  if all.getLast? = some [] then all.dropLast else all

def endsInNumber (text : List Char) : Bool :=
  match (parts text).getLast? with
  | none | some [] => false
  | some last => last.all Decimal.isDigit || (number? last).isSome

def ofValue (value : Nat) : Ipv4 where
  first := UInt8.ofNat (value / 16777216)
  second := UInt8.ofNat (value / 65536)
  third := UInt8.ofNat (value / 256)
  fourth := UInt8.ofNat value

def weight (count : Nat) : Nat :=
  Nat.pow 256 (4 - count)

/-- The bytes in front, then the number that fills the rest. -/
def ofNumbers? (numbers : List Nat) : Option Ipv4 :=
  match numbers.reverse with
  | [] => none
  | last :: front =>
    if 3 < front.length || front.any (255 < ·) || weight front.length <= last then none
    else
      let bytes := front.reverse
      let value := bytes.foldl (fun value byte => 256 * value + byte) 0
      some (ofValue (value * weight front.length + last))

def parse? (text : List Char) : Option Ipv4 :=
  ((parts text).mapM number?).bind ofNumbers?

def bytes (address : Ipv4) : List UInt8 :=
  [address.first, address.second, address.third, address.fourth]

def chars (address : Ipv4) : List Char :=
  Text.joined ['.'] (address.bytes.map fun byte => Nat.toDigits 10 byte.toNat)

/-- Four decimal bytes without leading zeros, the only form inside other addresses. -/
def parseStrict? (text : List Char) : Option Ipv4 :=
  let byte? (part : List Char) : Option UInt8 :=
    if part.length = 1 || part.head? != some '0' then
      ((Decimal.wholeNumber? part).filter (· <= 255)).map UInt8.ofNat
    else none
  match (Text.pieces '.' text).mapM byte? with
  | some [first, second, third, fourth] => some { first, second, third, fourth }
  | _ => none

end Ipv4

end VideoRelay
