set_option autoImplicit false

namespace VideoRelay.Decimal

def pow2 (exponent : Nat) : Nat :=
  Nat.pow 2 exponent

def pow10 (exponent : Nat) : Nat :=
  Nat.pow 10 exponent

/-- `finite negative mantissa exponent` is `mantissa * 2 ^ exponent`, with its sign. -/
inductive Double where
  | nan
  | infinite (negative : Bool)
  | finite (negative : Bool) (mantissa : Nat) (exponent : Int)
deriving DecidableEq, Repr

namespace Double

def zero (negative : Bool) : Double :=
  finite negative 0 (-1074)

def roundedQuotient (num den : Nat) : Nat :=
  let quotient := num / den
  let twice := 2 * (num % den)
  if twice < den then quotient
  else if den < twice then quotient + 1
  else quotient + quotient % 2

def scaledQuotient (num den : Nat) (exponent : Int) : Nat :=
  roundedQuotient (num * pow2 (-exponent).toNat) (den * pow2 exponent.toNat)

/-- The least exponent, but -1074 at least, at which the quotient has no more than 53 bits. -/
def quotientExponent (num den : Nat) : Int :=
  let guess : Int := (num.log2 : Int) - (den.log2 : Int) - 52
  let fits (exponent : Int) : Bool :=
    num * pow2 (-exponent).toNat / (den * pow2 exponent.toNat) < pow2 53
  let exponent := if fits (guess - 1) then guess - 1 else if fits guess then guess else guess + 1
  max exponent (-1074)

def ofQuotient (negative : Bool) (num den : Nat) : Double :=
  if num = 0 then zero negative
  else
    let exponent := quotientExponent num den
    let mantissa := scaledQuotient num den exponent
    let (mantissa, exponent) :=
      if mantissa = pow2 53 then (pow2 52, exponent + 1) else (mantissa, exponent)
    if 971 < exponent then infinite negative else finite negative mantissa exponent

/-- The double nearest to `digits * 10 ^ exponent`. Values beyond every double are not written out. -/
def ofDecimal (negative : Bool) (digits : Nat) (exponent : Int) : Double :=
  let size : Int := (digits.log2 : Int) * 30103 / 100000 + exponent
  if digits = 0 then zero negative
  else if 400 < size then infinite negative
  else if size < -400 then zero negative
  else ofQuotient negative (digits * pow10 exponent.toNat) (pow10 (-exponent).toNat)

def quotient (mantissa : Nat) (exponent : Int) : Nat × Nat :=
  (mantissa * pow2 exponent.toNat, pow2 (-exponent).toNat)

def add : Double -> Double -> Double
  | finite _ m e, finite _ m' e' =>
    let (num, den) := quotient m e
    let (num', den') := quotient m' e'
    ofQuotient false (num * den' + num' * den) (den * den')
  | nan, _ | _, nan => nan
  | infinite _, _ | _, infinite _ => infinite false

def lt : Double -> Double -> Bool
  | finite _ m e, finite _ m' e' =>
    let (num, den) := quotient m e
    let (num', den') := quotient m' e'
    num * den' < num' * den
  | finite _ _ _, infinite _ => true
  | _, _ => false

def mul : Double -> Double -> Double
  | finite s m e, finite s' m' e' =>
    let (num, den) := quotient m e
    let (num', den') := quotient m' e'
    ofQuotient (s != s') (num * num') (den * den')
  | infinite s, infinite s' => infinite (s != s')
  | infinite s, finite s' m _ => if m = 0 then nan else infinite (s != s')
  | finite s m _, infinite s' => if m = 0 then nan else infinite (s != s')
  | nan, _ | _, nan => nan

def div : Double -> Double -> Double
  | finite s m e, finite s' m' e' =>
    let (num, den) := quotient m e
    let (num', den') := quotient m' e'
    if m' = 0 then (if m = 0 then nan else infinite (s != s'))
    else ofQuotient (s != s') (num * den') (den * num')
  | infinite _, infinite _ => nan
  | infinite s, finite s' _ _ => infinite (s != s')
  | finite s _ _, infinite s' => zero (s != s')
  | nan, _ | _, nan => nan

def isInfinite : Double -> Bool
  | infinite _ => true
  | _ => false

/-- The nearest integer, halves away from zero, kept between `low` and `high`; NaN is 0. -/
def toIntClamped (low high : Int) : Double -> Int
  | nan => 0
  | infinite negative => if negative then low else high
  | finite negative mantissa exponent =>
    let (num, den) := quotient mantissa exponent
    let rounded : Int := (2 * num + den) / (2 * den)
    max low (min high (if negative then -rounded else rounded))

end Double

end VideoRelay.Decimal
