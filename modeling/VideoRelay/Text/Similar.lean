import VideoRelay.Decimal.Double

set_option autoImplicit false

namespace VideoRelay.Text

open Decimal

def takePlace (c : Char) (low high index : Nat) : List (Char × Bool) -> Option (List (Char × Bool))
  | [] => none
  | (other, taken) :: rest =>
    if high <= index then none
    else if low <= index && other = c && !taken then some ((other, true) :: rest)
    else (takePlace c low high (index + 1) rest).map fun rest => (other, taken) :: rest

def commonFrom (window index : Nat) : List Char -> List (Char × Bool) -> List Char × List (Char × Bool)
  | [], places => ([], places)
  | c :: rest, places =>
    match takePlace c (index - window) (index + window + 1) 0 places with
    | none => commonFrom window (index + 1) rest places
    | some places =>
      let (common, places) := commonFrom window (index + 1) rest places
      (c :: common, places)

def share (part whole : Nat) : Double :=
  Double.ofQuotient false part whole

/-- The mean of the shares of common characters in both words, and the share of these that are in order. -/
def likeness (first second : List Char) : Double :=
  let window := max first.length second.length / 2 - 1
  let (common, places) := commonFrom window 0 first (second.map fun c => (c, false))
  let ordered := (places.filter Prod.snd).map Prod.fst
  let moved := ((common.zip ordered).filter fun (a, b) => a != b).length / 2
  let shares := (share common.length first.length).add (share common.length second.length)
  if common.isEmpty then Double.zero false
  else (shares.add (share (common.length - moved) common.length)).div (share 3 1)

def mostAlike {A : Type} (name : A -> String) (word : String) (items : List A) : Option A :=
  let alike (item : A) : Double := likeness word.toList (name item).toList
  let closer (best : Option A) (item : A) : Option A :=
    match best with
    | none => some item
    | some other => if (alike item).lt (alike other) then best else some item
  (items.filter fun item => (share 7 10).lt (alike item)).foldl closer none

end VideoRelay.Text
