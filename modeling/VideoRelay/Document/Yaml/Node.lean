import VideoRelay.Document.Yaml.Token
import VideoRelay.Text.Quoted

set_option autoImplicit false

namespace VideoRelay.Document.Yaml

open Decimal

inductive Node where
  | null
  | bool (value : Bool)
  | integer (value : Int)
  | real (spelling : String)
  | text (value : String)
  | list (items : List Node)
  | table (entries : List (Node × Node))

namespace Node

def ofBase? (base : Nat) (digits : List Char) : Option Int :=
  let (negative, digits) := splitSign digits
  let isBaseDigit (c : Char) : Bool := ((hexNat? [c]).getD base) < base
  if digits.isEmpty || !digits.all isBaseDigit then none
  else
    let value := digits.foldl (fun value c => base * value + (hexNat? [c]).getD 0) 0
    let value : Int := if negative then -value else value
    if isSigned64 value then some value else none

def integer? (chars : List Char) : Option Int :=
  let based := match chars with
    | '0' :: 'x' :: digits => ofBase? 16 digits
    | '0' :: 'o' :: digits => ofBase? 8 digits
    | '+' :: digits => signed? (String.ofList digits)
    | _ => none
  based.or (signed? (String.ofList chars))

def specialNumbers : List String :=
  [".inf", ".Inf", ".INF", "+.inf", "+.Inf", "+.INF", "-.inf", "-.Inf", "-.INF", ".nan", ".NaN", ".NAN"]

def ofPlain (chars : List Char) : Node :=
  let word := String.ofList chars
  match integer? chars with
  | some value => .integer value
  | none =>
    if word = "" || word = "~" || word = "null" then .null
    else if word = "true" then .bool true
    else if word = "false" then .bool false
    else if specialNumbers.contains word || (chars.any isDigit && (double? word).isSome) then .real word
    else .text word

def ofScalar (plain : Bool) (chars : List Char) : Node :=
  if plain then ofPlain chars else .text (String.ofList chars)

mutual

def describe : Node -> String
  | null => "Null"
  | bool value => "Boolean(" ++ (if value then "true" else "false") ++ ")"
  | integer value => "Integer(" ++ toString value ++ ")"
  | real spelling => "Real(" ++ Text.quoted spelling ++ ")"
  | text value => "String(" ++ Text.quoted value ++ ")"
  | list items => "Array([" ++ describeItems items ++ "])"
  | table entries => "Hash(\x7b" ++ describeEntries entries ++ "\x7d)"

def describeItems : List Node -> String
  | [] => ""
  | [item] => item.describe
  | item :: rest => item.describe ++ ", " ++ describeItems rest

def describeEntries : List (Node × Node) -> String
  | [] => ""
  | [(key, value)] => key.describe ++ ": " ++ value.describe
  | (key, value) :: rest => key.describe ++ ": " ++ value.describe ++ ", " ++ describeEntries rest

end

def putNew (entries : List (Node × Node)) (key value : Node) : Option (List (Node × Node)) :=
  if entries.any fun entry => entry.1.describe = key.describe then none else some (entries ++ [(key, value)])

def isNext (tokens : List Token) (choices : List Token) : Bool :=
  tokens.head?.any choices.contains

mutual

/-- A node. In a block it can be a block, and the value of a key a list without an indentation of its own. -/
def read : Nat -> (inBlock isValue : Bool) -> List Token -> Option (Node × List Token)
  | 0, _, _, _ => none
  | fuel + 1, inBlock, isValue, tokens =>
    match tokens with
    | .scalar plain chars :: rest => some (ofScalar plain chars, rest)
    | .listStart :: rest => (readListed fuel true rest).map fun (items, rest) => (.list items, rest)
    | .tableStart :: rest => (readFields fuel true [] rest).map fun (entries, rest) => (.table entries, rest)
    | .blockList :: rest =>
      if inBlock then (readItems fuel rest).map fun (items, rest) => (.list items, rest) else none
    | .blockTable :: rest =>
      if inBlock then (readEntries fuel [] rest).map fun (entries, rest) => (.table entries, rest) else none
    | .dash :: _ =>
      if isValue then (readDashes fuel tokens).map fun (items, rest) => (.list items, rest) else none
    | _ => none

def readOrNull : Nat -> (isValue : Bool) -> (ends : List Token) -> List Token -> Option (Node × List Token)
  | 0, _, _, _ => none
  | fuel + 1, isValue, ends, tokens =>
    if isNext tokens ends then some (.null, tokens) else read fuel true isValue tokens

def readItems : Nat -> List Token -> Option (List Node × List Token)
  | 0, _ => none
  | fuel + 1, tokens =>
    match tokens with
    | .blockEnd :: rest => some ([], rest)
    | .dash :: rest => do
      let (item, rest) <- readOrNull fuel false [.dash, .blockEnd] rest
      let (items, rest) <- readItems fuel rest
      return (item :: items, rest)
    | _ => none

def readDashes : Nat -> List Token -> Option (List Node × List Token)
  | 0, _ => none
  | fuel + 1, tokens =>
    match tokens with
    | .dash :: rest => do
      let (item, rest) <- readOrNull fuel false [.dash, .key, .value, .blockEnd] rest
      let (items, rest) <- readDashes fuel rest
      return (item :: items, rest)
    | _ => some ([], tokens)

def readEntries : Nat -> List (Node × Node) -> List Token -> Option (List (Node × Node) × List Token)
  | 0, _, _ => none
  | fuel + 1, entries, tokens =>
    match tokens with
    | .blockEnd :: rest => some (entries, rest)
    | .key :: rest => do
      let (key, rest) <- readOrNull fuel true [.key, .value, .blockEnd] rest
      let (value, rest) <- readValue fuel rest
      readEntries fuel (<- putNew entries key value) rest
    | .value :: _ => do
      let (value, rest) <- readValue fuel tokens
      readEntries fuel (<- putNew entries .null value) rest
    | _ => none

def readValue : Nat -> List Token -> Option (Node × List Token)
  | 0, _ => none
  | fuel + 1, tokens =>
    match tokens with
    | .value :: rest => readOrNull fuel true [.key, .value, .blockEnd] rest
    | _ => some (.null, tokens)

def readBracketed : Nat -> (ends : List Token) -> List Token -> Option (Node × List Token)
  | 0, _, _ => none
  | fuel + 1, ends, tokens =>
    if isNext tokens ends then some (.null, tokens) else read fuel false false tokens

def readFields : Nat -> (first : Bool) -> List (Node × Node) -> List Token -> Option (List (Node × Node) × List Token)
  | 0, _, _, _ => none
  | fuel + 1, first, entries, tokens =>
    if isNext tokens [.tableEnd] then some (entries, tokens.tail)
    else if !first && !isNext tokens [.comma] then none
    else
      let tokens := if first then tokens else tokens.tail
      match tokens with
      | .tableEnd :: rest => some (entries, rest)
      | .key :: rest => do
        let (key, rest) <- readBracketed fuel [.value, .comma, .tableEnd] rest
        let (value, rest) <- readFieldValue fuel rest
        readFields fuel false (<- putNew entries key value) rest
      | .value :: _ => do
        let (value, rest) <- readFieldValue fuel tokens
        readFields fuel false (<- putNew entries .null value) rest
      | _ => do
        let (key, rest) <- read fuel false false tokens
        readFields fuel false (<- putNew entries key .null) rest

def readFieldValue : Nat -> List Token -> Option (Node × List Token)
  | 0, _ => none
  | fuel + 1, tokens =>
    match tokens with
    | .value :: rest => readBracketed fuel [.comma, .tableEnd] rest
    | _ => some (.null, tokens)

def readListed : Nat -> (first : Bool) -> List Token -> Option (List Node × List Token)
  | 0, _, _ => none
  | fuel + 1, first, tokens =>
    if isNext tokens [.listEnd] then some ([], tokens.tail)
    else if !first && !isNext tokens [.comma] then none
    else
      let tokens := if first then tokens else tokens.tail
      match tokens with
      | .listEnd :: rest => some ([], rest)
      | .key :: rest => do
        let (pair, rest) <- readPair fuel rest
        let (items, rest) <- readListed fuel false rest
        return (pair :: items, rest)
      | _ => do
        let (item, rest) <- read fuel false false tokens
        let (items, rest) <- readListed fuel false rest
        return (item :: items, rest)

/-- A table of one entry. A key that is missing takes the token in its place. -/
def readPair : Nat -> List Token -> Option (Node × List Token)
  | 0, _ => none
  | fuel + 1, tokens => do
    let isMissing := isNext tokens [.value, .comma, .listEnd]
    let (key, rest) <- if isMissing then some (.null, tokens.tail) else read fuel false false tokens
    match rest with
    | .value :: rest =>
      let (value, rest) <- readBracketed fuel [.comma, .listEnd] rest
      return (.table [(key, value)], rest)
    | _ => return (.table [(key, .null)], rest)

end

def readRoot (tokens : List Token) : Option (Node × List Token) :=
  if tokens.isEmpty || isNext tokens [.documentStart, .documentEnd] then some (.null, tokens)
  else read (2 * tokens.length + 2) true false tokens

/-- The documents of a stream. Behind an end mark, and at first, no start mark is needed. -/
def readDocuments : Nat -> (closed : Bool) -> List Token -> Option (List Node)
  | 0, _, _ => none
  | fuel + 1, closed, tokens =>
    match tokens with
    | [] => some []
    | .documentEnd :: rest => readDocuments fuel closed rest
    | .documentStart :: rest => do
      let (node, rest) <- readRoot rest
      readBehind fuel node rest
    | _ =>
      if closed then do
        let (node, rest) <- readRoot tokens
        readBehind fuel node rest
      else none
where
  readBehind (fuel : Nat) (node : Node) (rest : List Token) : Option (List Node) := do
    let closed := isNext rest [.documentEnd]
    let others <- readDocuments fuel closed (if closed then rest.tail else rest)
    return node :: others

def ofText? (text : String) : Option (List Node) := do
  let tokens <- Token.ofText? text
  readDocuments (tokens.length + 1) true tokens

end Node

end VideoRelay.Document.Yaml
