import VideoRelay.Decimal.Numeral
import VideoRelay.Document
import VideoRelay.Document.Escape
import VideoRelay.Text.Quoted

set_option autoImplicit false

namespace VideoRelay.Document

open Decimal Text

def controlEscape (c : Char) : List Char :=
  ['\\', 'u', '0', '0', hexDigit (c.toNat / 16), hexDigit (c.toNat % 16)]

def jsonChar (c : Char) : List Char :=
  if c = '"' then ['\\', '"']
  else if c = '\\' then ['\\', '\\']
  else if c = '\n' then ['\\', 'n']
  else if c = '\r' then ['\\', 'r']
  else if c = '\t' then ['\\', 't']
  else if c.toNat = 8 then ['\\', 'b']
  else if c.toNat = 12 then ['\\', 'f']
  else if c.toNat < 32 then controlEscape c
  else [c]

def jsonText (text : String) : List Char :=
  '"' :: text.toList.flatMap jsonChar ++ ['"']

def jsonScalar : Scalar -> List Char
  | .null => "null".toList
  | .bool value => if value then "true".toList else "false".toList
  | .integer value => (toString value).toList
  | .double value => match value with
    | .finite .. => value.textWithPoint.toList
    | _ => "null".toList
  | .text value => jsonText value

mutual

def jsonChars : Document -> List Char
  | scalar value => jsonScalar value
  | list items => '[' :: jsonItems items ++ [']']
  | table entries => '\x7b' :: jsonFields entries ++ ['\x7d']

def jsonItems : List Document -> List Char
  | [] => []
  | [item] => jsonChars item
  | item :: rest => jsonChars item ++ ',' :: jsonItems rest

def jsonFields : List (String × Document) -> List Char
  | [] => []
  | [(key, value)] => jsonText key ++ ':' :: jsonChars value
  | (key, value) :: rest => jsonText key ++ ':' :: jsonChars value ++ ',' :: jsonFields rest

end

def toJson (document : Document) : String :=
  String.ofList document.jsonChars

def isJsonSpace (c : Char) : Bool :=
  c = ' ' || c = '\n' || c = '\t' || c = '\r'

def skipSpace (chars : List Char) : List Char :=
  chars.dropWhile isJsonSpace

def isHighSurrogate (unit : Nat) : Bool :=
  0xd800 <= unit && unit < 0xdc00

def isLowSurrogate (unit : Nat) : Bool :=
  0xdc00 <= unit && unit < 0xe000

def surrogatePair (high low : Nat) : Char :=
  Char.ofNat (0x10000 + 0x400 * (high - 0xd800) + (low - 0xdc00))

def simpleEscape? : Char -> Option Char
  | '"' => some '"'
  | '\\' => some '\\'
  | '/' => some '/'
  | 'b' => some (Char.ofNat 8)
  | 'f' => some (Char.ofNat 12)
  | 'n' => some '\n'
  | 'r' => some '\r'
  | 't' => some '\t'
  | _ => none

def readText : List Char -> Option (List Char × List Char)
  | '"' :: rest => some ([], rest)
  | '\\' :: 'u' :: a :: b :: c :: d :: '\\' :: 'u' :: e :: f :: g :: h :: rest =>
    match hexNat? [a, b, c, d], hexNat? [e, f, g, h] with
    | some first, some second =>
      if isHighSurrogate first then
        if isLowSurrogate second then
          (readText rest).map fun (text, rest) => (surrogatePair first second :: text, rest)
        else none
      else if isLowSurrogate first then none
      else (readText ('\\' :: 'u' :: e :: f :: g :: h :: rest)).map fun (text, rest) =>
        (Char.ofNat first :: text, rest)
    | _, _ => none
  | '\\' :: 'u' :: a :: b :: c :: d :: rest =>
    match hexNat? [a, b, c, d] with
    | some unit =>
      if isHighSurrogate unit || isLowSurrogate unit then none
      else (readText rest).map fun (text, rest) => (Char.ofNat unit :: text, rest)
    | none => none
  | '\\' :: letter :: rest =>
    (simpleEscape? letter).bind fun c => (readText rest).map fun (text, rest) => (c :: text, rest)
  | c :: rest =>
    if c.toNat < 32 || c = '\\' then none
    else (readText rest).map fun (text, rest) => (c :: text, rest)
  | [] => none

structure Literal where
  negative : Bool
  whole : List Char
  fraction : Option (List Char)
  exponent : Option Int
deriving DecidableEq, Repr

def readWhole (chars : List Char) : Option (List Char × List Char) :=
  let digits := chars.takeWhile isDigit
  let rest := chars.dropWhile isDigit
  match digits with
  | [] => none
  | '0' :: _ :: _ => none
  | _ => some (digits, rest)

def readFraction : List Char -> Option (Option (List Char) × List Char)
  | '.' :: rest =>
    let digits := rest.takeWhile isDigit
    if digits.isEmpty then none else some (some digits, rest.dropWhile isDigit)
  | chars => some (none, chars)

def readExponent (chars : List Char) : Option (Option Int × List Char) :=
  match chars with
  | c :: rest =>
    if c = 'e' || c = 'E' then
      let (negative, rest) := splitSign rest
      (wholeNumber? (rest.takeWhile isDigit)).map fun value =>
        (some (if negative then -value else value), rest.dropWhile isDigit)
    else some (none, chars)
  | [] => some (none, [])

def readLiteral (chars : List Char) : Option (Literal × List Char) := do
  let (negative, chars) := match chars with
    | '-' :: rest => (true, rest)
    | _ => (false, chars)
  let (whole, rest) <- readWhole chars
  let (fraction, rest) <- readFraction rest
  let (exponent, rest) <- readExponent rest
  return ({ negative, whole, fraction, exponent }, rest)

/-- Adds digits to a significand as long as it stays below `2 ^ 64`, and tells how many were added. -/
def absorb (significand : Nat) : List Char -> Nat × Nat
  | [] => (significand, 0)
  | c :: rest =>
    let next := 10 * significand + digitValue c
    if next < UInt64.size then
      let (significand, count) := absorb next rest
      (significand, count + 1)
    else (significand, 0)

def powerOfTen (exponent : Nat) : Double :=
  Double.ofDecimal false 1 exponent

def negated : Double -> Double
  | .finite negative mantissa exponent => .finite (!negative) mantissa exponent
  | .infinite negative => .infinite (!negative)
  | .nan => .nan

def isZero : Double -> Bool
  | .finite _ mantissa _ => mantissa == 0
  | _ => false

/-- `value * 10 ^ exponent` by one multiplication or division, or by steps of `10 ^ 308` downwards. Values too
large for a double are refused. -/
def scaled : Nat -> Double -> Int -> Option Double
  | steps, value, exponent =>
    if exponent.natAbs <= 308 then
      if 0 <= exponent then
        let product := value.mul (powerOfTen exponent.toNat)
        if product.isInfinite then none else some product
      else some (value.div (powerOfTen exponent.natAbs))
    else if isZero value then some value
    else if 0 <= exponent then none
    else match steps with
      | 0 => some (Double.zero false)
      | steps + 1 => scaled steps (value.div (powerOfTen 308)) (exponent + 308)

namespace Literal

def significand (literal : Literal) : Nat × Nat × Nat :=
  let (significand, whole) := absorb 0 literal.whole
  let (significand, fraction) := absorb significand (literal.fraction.getD [])
  (significand, literal.whole.length - whole, fraction)

def double? (literal : Literal) : Option Double :=
  let (significand, dropped, places) := literal.significand
  let exponent : Int := literal.exponent.getD 0 + dropped - places
  (scaled 3 (Double.ofQuotient false significand 1) exponent).map fun value =>
    if literal.negative then negated value else value

def integer? (literal : Literal) : Option Int :=
  if literal.fraction.isSome || literal.exponent.isSome then none
  else
    let value := digitsValue literal.whole
    if literal.negative then (if value = 0 || pow2 63 < value then none else some (-value))
    else if value < UInt64.size then some value
    else none

def scalar? (literal : Literal) : Option Scalar :=
  match literal.integer? with
  | some value => some (.integer value)
  | none => literal.double?.map .double

end Literal

def readWord (word : String) (value : Scalar) (chars : List Char) : Option (Document × List Char) :=
  if word.toList.isPrefixOf chars then some (scalar value, chars.drop word.length) else none

def readScalar (chars : List Char) : Option (Document × List Char) :=
  match chars with
  | '"' :: rest => (readText rest).map fun (value, rest) => (text (String.ofList value), rest)
  | 'n' :: _ => readWord "null" .null chars
  | 't' :: _ => readWord "true" (.bool true) chars
  | 'f' :: _ => readWord "false" (.bool false) chars
  | _ => (readLiteral chars).bind fun (literal, rest) =>
    literal.scalar?.map fun value => (scalar value, rest)

def maxDepth : Nat := 127

mutual

/-- A value of at most the given depth; every call uses up a character. -/
def readValue : Nat -> Nat -> List Char -> Option (Document × List Char)
  | 0, _, _ => none
  | fuel + 1, depth, chars =>
    match skipSpace chars with
    | '[' :: rest =>
      if depth = 0 then none
      else match skipSpace rest with
        | ']' :: rest => some (list [], rest)
        | rest => (readItems fuel (depth - 1) rest).map fun (items, rest) => (list items, rest)
    | '\x7b' :: rest =>
      if depth = 0 then none
      else match skipSpace rest with
        | '\x7d' :: rest => some (table [], rest)
        | rest => (readFields fuel (depth - 1) rest []).map fun (entries, rest) => (table entries, rest)
    | chars => readScalar chars

def readItems : Nat -> Nat -> List Char -> Option (List Document × List Char)
  | 0, _, _ => none
  | fuel + 1, depth, chars =>
    match readValue fuel depth chars with
    | none => none
    | some (item, rest) =>
      match skipSpace rest with
      | ',' :: rest => (readItems fuel depth rest).map fun (items, rest) => (item :: items, rest)
      | ']' :: rest => some ([item], rest)
      | _ => none

def readFields : Nat -> Nat -> List Char -> List (String × Document) ->
    Option (List (String × Document) × List Char)
  | 0, _, _, _ => none
  | fuel + 1, depth, chars, entries =>
    match skipSpace chars with
    | '"' :: rest =>
      match readText rest with
      | none => none
      | some (key, rest) =>
        match skipSpace rest with
        | ':' :: rest =>
          match readValue fuel depth rest with
          | none => none
          | some (value, rest) =>
            let entries := put entries (String.ofList key) value
            match skipSpace rest with
            | ',' :: rest => readFields fuel depth rest entries
            | '\x7d' :: rest => some (entries, rest)
            | _ => none
        | _ => none
    | _ => none

end

def ofJson? (text : String) : Option Document :=
  let chars := text.toList
  match readValue (2 * chars.length + 2) maxDepth chars with
  | some (document, rest) => if (skipSpace rest).isEmpty then some document else none
  | none => none

end VideoRelay.Document
