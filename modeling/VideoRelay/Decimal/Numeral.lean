import VideoRelay.Decimal.Double

set_option autoImplicit false

namespace VideoRelay.Decimal

def isDigit (c : Char) : Bool :=
  48 <= c.toNat && c.toNat <= 57

def digitValue (c : Char) : Nat :=
  c.toNat - 48

def digitsValue (digits : List Char) : Nat :=
  digits.foldl (fun value c => 10 * value + digitValue c) 0

def wholeNumber? (chars : List Char) : Option Nat :=
  if chars.isEmpty || !chars.all isDigit then none else some (digitsValue chars)

def splitSign : List Char -> Bool × List Char
  | '+' :: rest => (false, rest)
  | '-' :: rest => (true, rest)
  | chars => (false, chars)

def unsigned? (max : Nat) (text : String) : Option Nat :=
  let digits := match text.toList with
    | '+' :: rest => rest
    | chars => chars
  (wholeNumber? digits).filter (· <= max)

def isSigned64 (value : Int) : Bool :=
  -pow2 63 <= value && value < pow2 63

def signed? (text : String) : Option Int :=
  let (negative, digits) := splitSign text.toList
  (wholeNumber? digits).bind fun value =>
    let value : Int := if negative then -value else value
    if isSigned64 value then some value else none

def exponent? : List Char -> Option Int
  | [] => some 0
  | c :: rest =>
    if c = 'e' || c = 'E' then
      let (negative, digits) := splitSign rest
      (wholeNumber? digits).map fun value => if negative then -value else value
    else none

def decimal? (chars : List Char) : Option (Nat × Int) :=
  let whole := chars.takeWhile isDigit
  let rest := chars.dropWhile isDigit
  let (fraction, rest) := match rest with
    | '.' :: rest => (rest.takeWhile isDigit, rest.dropWhile isDigit)
    | rest => ([], rest)
  if whole.isEmpty && fraction.isEmpty then none
  else (exponent? rest).map fun exponent =>
    (digitsValue (whole ++ fraction), exponent - fraction.length)

def double? (text : String) : Option Double :=
  let (negative, chars) := splitSign text.toList
  let word := String.ofList (chars.map Char.toLower)
  if word = "inf" || word = "infinity" then some (.infinite negative)
  else if word = "nan" then some .nan
  else (decimal? chars).map fun (digits, exponent) => Double.ofDecimal negative digits exponent

end VideoRelay.Decimal
