import VideoRelay.Decimal.Numeral

set_option autoImplicit false

namespace VideoRelay.Settings

open Decimal

inductive KeyStep where
  | key (name : String)
  | index (place : Int)
deriving DecidableEq, Repr

structure KeyPath where
  root : String
  steps : List KeyStep := []
deriving DecidableEq, Repr

namespace KeyPath

def isKeyChar (c : Char) : Bool :=
  c.isAlphanum || c = '_' || c = '-'

def isSpace (c : Char) : Bool :=
  c = ' ' || c = '\t'

def readKey (chars : List Char) : Option (String × List Char) :=
  let key := chars.takeWhile isKeyChar
  if key.isEmpty then none else some (String.ofList key, chars.dropWhile isKeyChar)

def readIndex (chars : List Char) : Option (Int × List Char) :=
  let chars := chars.dropWhile isSpace
  let (sign, digits) := match chars with
    | '-' :: rest => (['-'], rest)
    | _ => ([], chars)
  match (digits.dropWhile isDigit).dropWhile isSpace with
  | ']' :: rest =>
    (signed? (String.ofList (sign ++ digits.takeWhile isDigit))).map fun place => (place, rest)
  | _ => none

def readSteps : Nat -> List Char -> Option (List KeyStep)
  | _, [] => some []
  | fuel + 1, '.' :: rest =>
    (readKey rest).bind fun (name, rest) => (readSteps fuel rest).map fun steps => .key name :: steps
  | fuel + 1, '[' :: rest =>
    (readIndex rest).bind fun (place, rest) => (readSteps fuel rest).map fun steps => .index place :: steps
  | _, _ => none

def parse? (name : String) : Option KeyPath :=
  let chars := name.toList
  (readKey chars).bind fun (root, rest) =>
    (readSteps chars.length rest).map fun steps => { root, steps }

def ofName (name : String) : KeyPath :=
  (parse? name).getD { root := name }

def allSteps (path : KeyPath) : List KeyStep :=
  .key path.root :: path.steps

end KeyPath

end VideoRelay.Settings
