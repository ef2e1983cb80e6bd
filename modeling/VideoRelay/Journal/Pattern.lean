set_option autoImplicit false

namespace VideoRelay.Journal

def isHexDigit (c : Char) : Bool :=
  c.isDigit || (97 <= c.toNat && c.toNat <= 102) || (65 <= c.toNat && c.toNat <= 70)

def escapeLetters : List Char :=
  ['a', 'f', 't', 'n', 'r', 'v', 'A', 'z', 'd', 'D', 's', 'S', 'w', 'W']

def classLetters : List Char :=
  ['L', 'M', 'N', 'P', 'S', 'Z', 'C']

def escapeDigits : Char -> Nat
  | 'x' => 2
  | 'u' => 4
  | 'U' => 8
  | _ => 0

/-- How many characters an escape has behind its backslash; none if it means nothing. Word boundaries are not
supported. -/
def escapeLength? : List Char -> Option Nat
  | [] => none
  | c :: rest =>
    let digits := escapeDigits c
    if 0 < digits then
      if (rest.take digits).length = digits && (rest.take digits).all isHexDigit then some (digits + 1) else none
    else if c = 'p' || c = 'P' then
      if rest.head?.any classLetters.contains then some 2 else none
    else if escapeLetters.contains c then some 1
    else if c.toNat < 128 && !c.isAlphanum && c != '<' && c != '>' then some 1
    else none

def classLength? : Nat -> Nat -> List Char -> Option Nat
  | 0, _, _ => none
  | _, _, [] => none
  | fuel + 1, depth, '\\' :: rest =>
    (escapeLength? rest).bind fun length =>
      (classLength? fuel depth (rest.drop length)).map (· + length + 1)
  | fuel + 1, depth, '[' :: rest =>
    let opening := (if rest.head? = some '^' then 1 else 0)
    let opening := opening + (if (rest.drop opening).head? = some ']' then 1 else 0)
    (classLength? fuel (depth + 1) (rest.drop opening)).map (· + opening + 1)
  | fuel + 1, depth, ']' :: rest =>
    if depth <= 1 then some 1 else (classLength? fuel (depth - 1) rest).map (· + 1)
  | fuel + 1, depth, _ :: rest => (classLength? fuel depth rest).map (· + 1)

def isGroupFlag (c : Char) : Bool :=
  ['i', 'm', 's', 'U', 'u', 'x', 'R', '-'].contains c

def groupName? (mark : Nat) (chars : List Char) : Option Nat :=
  let name := (chars.drop mark).takeWhile fun c => c.isAlphanum || c = '_'
  if !name.isEmpty && (chars.drop (mark + name.length)).head? = some '>' then some (mark + name.length + 1) else none

def groupOpening? : List Char -> Option (Nat × Bool)
  | '?' :: 'P' :: '<' :: rest => (groupName? 3 ('?' :: 'P' :: '<' :: rest)).map fun length => (length, false)
  | '?' :: '<' :: rest => (groupName? 2 ('?' :: '<' :: rest)).map fun length => (length, false)
  | '?' :: rest =>
    let flags := rest.takeWhile isGroupFlag
    match (rest.drop flags.length).head? with
    | some ':' => some (flags.length + 2, false)
    | some ')' => if flags.isEmpty then none else some (flags.length + 2, true)
    | _ => none
  | _ => some (0, false)

/-- Reads on inside of so many groups; `operand` tells whether there is something to repeat. -/
def isPatternFrom : Nat -> Nat -> Bool -> List Char -> Bool
  | 0, _, _, _ => false
  | _, depth, _, [] => depth = 0
  | fuel + 1, depth, operand, c :: rest =>
    if c = '(' then
      match groupOpening? rest with
      | none => false
      | some (length, true) => isPatternFrom fuel depth false (rest.drop length)
      | some (length, false) => isPatternFrom fuel (depth + 1) false (rest.drop length)
    else if c = ')' then depth != 0 && isPatternFrom fuel (depth - 1) true rest
    else if c = '|' then isPatternFrom fuel depth false rest
    else if c = '*' || c = '+' || c = '?' then operand && isPatternFrom fuel depth true rest
    else if c = '\x7b' then false
    else if c = '[' then
      match classLength? (rest.length + 2) 0 (c :: rest) with
      | none => false
      | some length => isPatternFrom fuel depth true (rest.drop (length - 1))
    else if c = '\\' then
      match escapeLength? rest with
      | none => false
      | some length => isPatternFrom fuel depth true (rest.drop length)
    else isPatternFrom fuel depth true rest

def isPattern (chars : List Char) : Bool :=
  isPatternFrom (chars.length + 1) 0 false chars

end VideoRelay.Journal
