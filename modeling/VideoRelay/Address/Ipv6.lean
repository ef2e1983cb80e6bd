import VideoRelay.Address.Ipv4
import VideoRelay.Text.Quoted

set_option autoImplicit false

namespace VideoRelay

structure Ipv6 where
  pieces : List UInt16
  length_pieces : pieces.length = 8
deriving DecidableEq, Repr

namespace Ipv6

def ofPieces? (pieces : List UInt16) : Option Ipv6 :=
  if length_pieces : pieces.length = 8 then some { pieces, length_pieces } else none

def piece? (text : List Char) : Option UInt16 :=
  if text.isEmpty || 4 < text.length then none
  else (Ipv4.digitsValue? 16 text).map UInt16.ofNat

def ofIpv4 (address : Ipv4) : List UInt16 :=
  [256 * address.first.toUInt16 + address.second.toUInt16,
    256 * address.third.toUInt16 + address.fourth.toUInt16]

def pieces? (last : Bool) : List (List Char) -> Option (List UInt16)
  | [] => some []
  | [text] =>
    if last && text.contains '.' then (Ipv4.parseStrict? text).map ofIpv4
    else (piece? text).map fun piece => [piece]
  | text :: rest =>
    (piece? text).bind fun piece => (pieces? last rest).map fun others => piece :: others

def side? (last : Bool) (text : List Char) : Option (List UInt16) :=
  if text.isEmpty then some [] else pieces? last (Text.pieces ':' text)

def splitGap : List Char -> Option (List Char × List Char)
  | ':' :: ':' :: rest => some ([], rest)
  | first :: rest => (splitGap rest).map fun (before, after) => (first :: before, after)
  | [] => none

/-- Between two colons at least one piece is left out. -/
def parse? (text : List Char) : Option Ipv6 :=
  match splitGap text with
  | none => (pieces? true (Text.pieces ':' text)).bind ofPieces?
  | some (before, after) =>
    match side? false before, side? true after with
    | some front, some back =>
      if 7 < front.length + back.length then none
      else ofPieces? (front ++ List.replicate (8 - front.length - back.length) 0 ++ back)
    | _, _ => none

def zeroRun (pieces : List UInt16) : Nat :=
  (pieces.takeWhile (· = 0)).length

def longestZeros (place : Nat) : List UInt16 -> Nat × Nat
  | [] => (place, 0)
  | piece :: rest =>
    let later := longestZeros (place + 1) rest
    let here := zeroRun (piece :: rest)
    if later.2 <= here then (place, here) else later

def piecesText (pieces : List UInt16) : List Char :=
  Text.joined [':'] (pieces.map fun piece => Text.hexChars piece.toNat)

def chars (address : Ipv6) : List Char :=
  let (place, length) := longestZeros 0 address.pieces
  if length < 2 then piecesText address.pieces
  else
    piecesText (address.pieces.take place) ++ [':', ':'] ++
      piecesText (address.pieces.drop (place + length))

end Ipv6

end VideoRelay
