import VideoRelay.Decimal.Double

set_option autoImplicit false

namespace VideoRelay.Decimal

structure Scientific where
  digits : Nat
  exponent : Int
deriving DecidableEq, Repr

def compareScaled (a : Nat) (i : Int) (n : Nat) (j : Int) : Ordering :=
  compare (a * pow10 i.toNat * pow2 (-j).toNat) (n * pow2 j.toNat * pow10 (-i).toNat)

/-- Whether the decimal lies among the reals that round to `mantissa * 2 ^ exponent`. Below a power of two the
next double is half as far away as above it. -/
def readsBack (mantissa : Nat) (exponent : Int) (decimal : Scientific) : Bool :=
  let narrow := mantissa == pow2 52 && -1074 < exponent
  let low := if narrow then 4 * mantissa - 1 else 4 * mantissa - 2
  let toLow := compareScaled decimal.digits decimal.exponent low (exponent - 2)
  let toHigh := compareScaled decimal.digits decimal.exponent (4 * mantissa + 2) (exponent - 2)
  let even := mantissa % 2 == 0
  (toLow == .gt || (even && toLow == .eq)) && (toHigh == .lt || (even && toHigh == .eq))

def decimalScale (mantissa : Nat) (exponent : Int) : Nat -> Int -> Int
  | 0, guess => guess
  | tries + 1, guess =>
    if compareScaled 1 guess mantissa exponent == .gt then guess
    else decimalScale mantissa exponent tries (guess + 1)

def onGrid (mantissa : Nat) (exponent power : Int) : Option Scientific :=
  let num := mantissa * pow2 exponent.toNat * pow10 (-power).toNat
  let den := pow2 (-exponent).toNat * pow10 power.toNat
  let below : Scientific := ⟨num / den, power⟩
  let above : Scientific := ⟨num / den + 1, power⟩
  let reads := readsBack mantissa exponent
  match reads below, reads above with
  | true, true => some (if 2 * (num % den) < den then below else above)
  | true, false => some below
  | false, true => some above
  | false, false => none

/-- Looks for a decimal on finer and finer grids, and takes the exact value if none of them has one. -/
def searchShortest (mantissa : Nat) (exponent : Int) : Nat -> Int -> Scientific
  | 0, _ => ⟨mantissa * pow2 exponent.toNat * Nat.pow 5 (-exponent).toNat, min exponent 0⟩
  | grids + 1, power =>
    match onGrid mantissa exponent power with
    | some decimal => decimal
    | none => searchShortest mantissa exponent grids (power - 1)

def shortest (mantissa : Nat) (exponent : Int) : Scientific :=
  let bits : Int := mantissa.log2 + exponent
  let scale := decimalScale mantissa exponent 8 (bits * 30103 / 100000 - 2)
  searchShortest mantissa exponent 17 (scale - 1)

def decimalDigits (value : Nat) : List Char :=
  Nat.toDigits 10 value

def zeros (count : Nat) : List Char :=
  List.replicate count '0'

def positional (decimal : Scientific) : List Char :=
  let digits := decimalDigits decimal.digits
  if 0 <= decimal.exponent then digits ++ zeros decimal.exponent.toNat
  else
    let places := (-decimal.exponent).toNat
    let padded := zeros (places + 1 - digits.length) ++ digits
    let whole := padded.take (padded.length - places)
    let fraction := (padded.drop (padded.length - places)).reverse.dropWhile (· == '0')
    if fraction.isEmpty then whole else whole ++ '.' :: fraction.reverse

namespace Double

def text : Double -> String
  | nan => "NaN"
  | infinite negative => if negative then "-inf" else "inf"
  | finite negative mantissa exponent =>
    let sign := if negative then ['-'] else []
    if mantissa = 0 then String.ofList (sign ++ ['0'])
    else String.ofList (sign ++ positional (shortest mantissa exponent))

def textWithPoint (value : Double) : String :=
  match value with
  | finite .. => if value.text.toList.contains '.' then value.text else value.text ++ ".0"
  | _ => value.text

end Double

end VideoRelay.Decimal
