import VideoRelay.Decimal.Numeral

set_option autoImplicit false

namespace VideoRelay.Document

open Decimal

def hexNat? (digits : List Char) : Option Nat :=
  (digits.mapM fun c =>
    if isDigit c then some (digitValue c)
    else if 'a' <= c && c <= 'f' then some (c.toNat - 87)
    else if 'A' <= c && c <= 'F' then some (c.toNat - 55)
    else none).map fun values => values.foldl (fun value digit => 16 * value + digit) 0

def escapeWidth : Char -> Nat
  | 'x' => 2
  | 'u' => 4
  | 'U' => 8
  | _ => 0

def escapedChar? (digits : List Char) : Option Char :=
  (hexNat? digits).bind fun value =>
    if value < 0xd800 || (0xe000 <= value && value < 0x110000) then some (Char.ofNat value) else none

end VideoRelay.Document
