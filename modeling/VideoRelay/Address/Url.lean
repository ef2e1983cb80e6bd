import VideoRelay.Address.Host

set_option autoImplicit false

namespace VideoRelay

structure Url where
  scheme : String
  host : Option Host := none
  port : Option UInt16 := none
deriving DecidableEq, Repr

namespace Url

inductive SchemeKind where
  | web (port : UInt16)
  | file
  | other
deriving DecidableEq, Repr

def kindOf : String -> SchemeKind
  | "http" | "ws" => .web 80
  | "https" | "wss" => .web 443
  | "ftp" => .web 21
  | "file" => .file
  | _ => .other

def isEdge (c : Char) : Bool :=
  c.toNat <= 32

def isDropped (c : Char) : Bool :=
  c = '\t' || c = '\n' || c = '\r'

def significant (text : String) : List Char :=
  let chars := text.toList.dropWhile isEdge
  (chars.reverse.dropWhile isEdge).reverse.filter fun c => !isDropped c

def isSchemeChar (c : Char) : Bool :=
  c.isAlphanum || c = '+' || c = '-' || c = '.'

def splitScheme (chars : List Char) : Option (String × List Char) :=
  match Text.cut ':' chars with
  | (name, some rest) =>
    if (name.head?.any Char.isAlpha) && name.all isSchemeChar then
      some (String.ofList (name.map Char.toLower), rest)
    else none
  | (_, none) => none

def endsAuthority (special : Bool) (c : Char) : Bool :=
  c = '/' || c = '?' || c = '#' || (special && c = '\\')

/-- A host up to its port: colons count only outside of brackets. -/
def splitHost (inBrackets : Bool) : List Char -> List Char × List Char
  | [] => ([], [])
  | c :: rest =>
    if c = ':' && !inBrackets then ([], c :: rest)
    else
      let inBrackets := if c = '[' then true else if c = ']' then false else inBrackets
      let (host, rest) := splitHost inBrackets rest
      (c :: host, rest)

def parsePort (digits : List Char) : Except UrlProblem (Option UInt16) :=
  if digits.isEmpty then .ok none
  else match (Decimal.wholeNumber? digits).filter (· <= 65535) with
    | some port => .ok (some (UInt16.ofNat port))
    | none => .error .port

def parsePortPart : List Char -> Except UrlProblem (Option UInt16)
  | ':' :: digits => parsePort digits
  | _ => .ok none

/-- Host and port of a scheme that needs a host. A port that the scheme has anyway is left out. -/
def parseWeb (scheme : String) (port : UInt16) (rest : List Char) : Except UrlProblem Url := do
  let rest := rest.dropWhile fun c => c = '/' || c = '\\'
  let authority := rest.takeWhile fun c => !endsAuthority true c
  let (hostText, portText) := splitHost false (Text.cutLast '@' authority).2
  if hostText.isEmpty then throw .emptyHost
  let host <- Host.parse hostText
  let given <- parsePortPart portText
  return { scheme, host := some host, port := given.filter (· != port) }

def hasCredentials : Option (List Char) -> Bool
  | none | some [] | some [':'] => false
  | some _ => true

def parseOther (scheme : String) : List Char -> Except UrlProblem Url
  | '/' :: '/' :: rest => do
    let authority := rest.takeWhile fun c => !endsAuthority false c
    let behind := rest.dropWhile fun c => !endsAuthority false c
    let (user, site) := Text.cutLast '@' authority
    if user = some [] && site.isEmpty && !behind.isEmpty then throw .emptyHost
    let (hostText, portText) := splitHost false site
    let host <- Host.parseVerbatim hostText
    if hostText.isEmpty && (!portText.isEmpty || hasCredentials user) then throw .emptyHost
    let port <- parsePortPart (portText.takeWhile (· != '\\'))
    return { scheme, host := if hostText.isEmpty then none else some host, port }
  | _ => .ok { scheme }

def isSlash (c : Char) : Bool :=
  c = '/' || c = '\\'

def isDrive : List Char -> Bool
  | [letter, mark] => letter.isAlpha && (mark = ':' || mark = '|')
  | _ => false

def parseFile (scheme : String) : List Char -> Except UrlProblem Url
  | first :: second :: rest =>
    if isSlash first && isSlash second then
      let text := rest.takeWhile fun c => !endsAuthority true c
      if text.isEmpty || isDrive text then .ok { scheme }
      else (Host.parse text).map fun host =>
        { scheme, host := if host = .domain "localhost".toList then none else some host }
    else .ok { scheme }
  | _ => .ok { scheme }

def parse (text : String) : Except UrlProblem Url :=
  match splitScheme (significant text) with
  | none => .error .noScheme
  | some (scheme, rest) =>
    match kindOf scheme with
    | .web port => parseWeb scheme port rest
    | .file => parseFile scheme rest
    | .other => parseOther scheme rest

end Url

end VideoRelay
