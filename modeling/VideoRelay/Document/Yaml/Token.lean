import VideoRelay.Document.Yaml.Scalar

set_option autoImplicit false

namespace VideoRelay.Document.Yaml

inductive Token where
  | documentStart | documentEnd
  | blockList | blockTable | blockEnd
  | listStart | listEnd | tableStart | tableEnd | comma
  | dash | key | value
  | scalar (plain : Bool) (text : List Char)
deriving DecidableEq, Repr

structure Indent where
  column : Int
  isBlock : Bool
deriving DecidableEq, Repr

/-- A token that could begin a key: its place, how many tokens stand before it, and whether it has to be a key. -/
structure Candidate where
  mark : Mark
  count : Nat
  required : Bool
deriving DecidableEq, Repr

/-- What has been found so far. `tokens` holds the last token first; `outer` the indentations around `indent`, and
`around` the candidates around the brackets, innermost first. `adjacent` is where a colon needs no blank. `pairs`
tells of each list in brackets whether a key without a table stands in it, and `tableOpen` whether a table was opened
there. -/
structure Scan where
  tokens : List Token := []
  indent : Int := -1
  outer : List Indent := []
  keyAllowed : Bool := true
  candidate : Option Candidate := none
  around : List (Option Candidate) := []
  adjacent : Option Nat := none
  pairs : List Bool := []
  tableOpen : Bool := false

namespace Scan

def inFlow (scan : Scan) : Bool :=
  !scan.around.isEmpty

def push (scan : Scan) (token : Token) : Scan :=
  { scan with tokens := token :: scan.tokens }

def insert (scan : Scan) (count : Nat) (news : List Token) : Scan :=
  let later := scan.tokens.length - count
  { scan with tokens := scan.tokens.take later ++ news.reverse ++ scan.tokens.drop later }

def onBlock (scan : Scan) : Bool :=
  scan.outer.head?.any Indent.isBlock

def leaveToken (scan : Scan) (column : Int) : Scan :=
  match scan.outer with
  | inner :: outer =>
    if scan.indent <= column && !inner.isBlock then { scan with indent := inner.column, outer } else scan
  | [] => scan

def enterBlock (scan : Scan) (column : Nat) : Scan × Bool :=
  if scan.inFlow then (scan, false)
  else
    let scan := scan.leaveToken column
    if scan.indent < column then
      ({ scan with indent := column, outer := ⟨scan.indent, true⟩ :: scan.outer }, true)
    else (scan, false)

def enterToken (scan : Scan) : Scan :=
  if !scan.inFlow && scan.onBlock then
    { scan with indent := scan.indent + 1, outer := ⟨scan.indent, false⟩ :: scan.outer }
  else scan

def leaveTokensFrom (indent : Int) : List Indent -> Int × List Indent
  | inner :: outer => if inner.isBlock then (indent, inner :: outer) else leaveTokensFrom inner.column outer
  | [] => (indent, [])

def leaveTokens (scan : Scan) : Scan :=
  let (indent, outer) := leaveTokensFrom scan.indent scan.outer
  { scan with indent, outer }

def closeFrom (column : Int) (tokens : List Token) (indent : Int) : List Indent -> List Token × Int × List Indent
  | inner :: outer =>
    if column < indent then
      closeFrom column (if inner.isBlock then .blockEnd :: tokens else tokens) inner.column outer
    else (tokens, indent, inner :: outer)
  | [] => (tokens, indent, [])

def closeBlocks (scan : Scan) (column : Int) : Scan :=
  if scan.inFlow then scan
  else
    let (tokens, indent, outer) := closeFrom column scan.tokens scan.indent scan.outer
    { scan with tokens, indent, outer }

def saveCandidate (scan : Scan) (mark : Mark) : Scan :=
  if scan.keyAllowed then
    let required := !scan.inFlow && scan.indent = mark.column && scan.onBlock
    { scan with candidate := some { mark, count := scan.tokens.length, required } }
  else scan

def dropCandidate (scan : Scan) : Option Scan :=
  if scan.candidate.any Candidate.required then none else some { scan with candidate := none }

def longestKey : Nat := 1024

/-- Outside of brackets a key stands on one line, and is not too long. -/
def dropStale (scan : Scan) (next : Mark) : Option Scan :=
  match scan.candidate with
  | none => some scan
  | some candidate =>
    let isStale := candidate.mark.line < next.line || candidate.mark.index + longestKey < next.index
    if !scan.inFlow && isStale then scan.dropCandidate else some scan

def skipBetween (scan : Scan) (marks : Marks) : Option (Scan × Marks) :=
  (skipGap scan.indent false false marks).map fun gap =>
    ({ scan with keyAllowed := scan.keyAllowed || (gap.crossed && !scan.inFlow) }, gap.rest)

abbrev Found := Option (Scan × Marks)

def readDocumentMark (scan : Scan) (token : Token) (rest : Marks) : Found := do
  let scan <- (scan.closeBlocks (-1)).dropCandidate
  let scan := { scan with keyAllowed := false }.push token
  let behind := rest.drop 2
  if token = .documentStart then return (scan, behind)
  let gap <- behindToken behind
  if lineEnds gap.rest then return (scan, gap.rest) else none

def deepest : Nat := 255

def openBracket (scan : Scan) (token : Token) (mark : Mark) (rest : Marks) : Found := do
  let scan := (scan.saveCandidate mark).enterToken
  if deepest <= scan.around.length then none
  let scan := { scan with around := scan.candidate :: scan.around, candidate := none, keyAllowed := true }
  let scan := if token = .tableStart then { scan with tableOpen := true }
    else { scan with pairs := false :: scan.pairs }
  let gap <- behindToken rest
  return (scan.push token, gap.rest)

def endPair (scan : Scan) : Scan :=
  match scan.pairs with
  | true :: outer => { scan with pairs := false :: outer, tableOpen := false }.push .tableEnd
  | _ => scan

def allowAdjacent (scan : Scan) (next : Marks) : Scan :=
  { scan with adjacent := next.head?.map Mark.index }

def closeBracket (scan : Scan) (token : Token) (rest : Marks) : Found := do
  let scan <- scan.dropCandidate
  let scan := match scan.around with
    | candidate :: around => { scan with candidate, around }
    | [] => scan
  let scan := { scan with keyAllowed := false }
  let scan := if token = .listEnd then { scan.endPair with pairs := scan.pairs.tail } else scan
  let gap <- behindToken rest
  let scan := if scan.inFlow then scan.allowAdjacent gap.rest else scan
  return (scan.push token, gap.rest)

def readComma (scan : Scan) (rest : Marks) : Found := do
  let scan <- scan.dropCandidate
  let gap <- behindToken rest
  return ({ scan.endPair with keyAllowed := true }.push .comma, gap.rest)

def atDash : Marks -> Bool
  | mark :: rest => mark.char = '-' && blankAhead rest
  | [] => false

def readDash (scan : Scan) (mark : Mark) (rest : Marks) : Found := do
  if scan.inFlow || !scan.keyAllowed then none
  let (scan, isNew) := scan.enterBlock mark.column
  let scan := if isNew then scan.push .blockList else scan
  let gap <- behindToken rest
  if gap.tabs && atDash gap.rest then none
  let scan := if gap.rest.head?.any fun next => next.char = '\n' || isFlowMark next.char then scan.enterToken else scan
  let scan <- scan.dropCandidate
  return ({ scan with keyAllowed := true }.push .dash, gap.rest)

def skipSpaces (comment : Bool) : Marks -> Marks
  | [] => []
  | mark :: rest =>
    if mark.char = '\n' then skipSpaces false rest
    else if comment then skipSpaces true rest
    else if mark.char = ' ' then skipSpaces false rest
    else if mark.char = '#' then skipSpaces true rest
    else mark :: rest

def readKeyMark (scan : Scan) (mark : Mark) (rest : Marks) : Found := do
  if !scan.inFlow && !scan.keyAllowed then none
  let (scan, isNew) := scan.enterBlock mark.column
  let scan := if isNew then scan.push .blockTable else scan
  let scan <- (if scan.inFlow then { scan with tableOpen := true } else scan).dropCandidate
  let isSpaced := rest.head?.any fun next => next.char = ' ' || next.char = '\n'
  let behind := skipSpaces false rest
  if !isSpaced || behind.head?.any fun next => next.char = '\t' then none
  return ({ scan with keyAllowed := !scan.inFlow }.push .key, behind)

def isWordChar (c : Char) : Bool :=
  c.isAlphanum || c = '_' || c = '-'

def behindColon (rest : Marks) : Option Marks :=
  if rest.head?.any fun next => next.char = '\t' then
    (behindToken rest).bind fun gap =>
      if !gap.spaces && gap.rest.head?.any fun next => isWordChar next.char then none else some gap.rest
  else some rest

/-- The colon behind a candidate makes it a key. -/
def valueOf (scan : Scan) (candidate : Candidate) (mark : Mark) (isPair : Bool) : Option Scan :=
  if isPair && candidate.mark.line < mark.line then none
  else
    let (scan, isNew) := scan.enterBlock candidate.mark.column
    let news := (if isNew then [.blockTable] else []) ++ (if isPair then [.tableStart] else []) ++ [.key]
    some { (scan.insert candidate.count news).enterToken with candidate := none, keyAllowed := false }

def valueAlone (scan : Scan) (mark : Mark) (isPair : Bool) : Option Scan :=
  let scan := if isPair then scan.push .tableStart else scan
  if scan.inFlow then some { scan with keyAllowed := false }
  else if !scan.keyAllowed then none
  else
    let (scan, isNew) := scan.enterBlock mark.column
    some (if isNew then scan.push .blockTable else scan).enterToken

def readColon (scan : Scan) (mark : Mark) (rest : Marks) : Found := do
  let isPair := !scan.pairs.isEmpty && !scan.tableOpen
  let scan := if isPair then { scan with pairs := true :: scan.pairs.tail } else scan
  let behind <- behindColon rest
  let scan <- match scan.candidate with
    | some candidate => scan.valueOf candidate mark isPair
    | none => scan.valueAlone mark isPair
  return (scan.push .value, behind)

def canFollowQuoted (flow : Bool) (start : Mark) : Marks -> Bool
  | [] => true
  | mark :: _ =>
    mark.char = '\n' || (flow && [',', '\x7d', ']', ':'].contains mark.char) ||
      (mark.char = ':' && mark.line = start.line)

def readQuotedToken (scan : Scan) (mark : Mark) (rest : Marks) : Found := do
  let scan := { scan.saveCandidate mark with keyAllowed := false }
  let (text, rest) <- readQuoted (mark.char = '"') scan.indent .word rest
  let gap <- behindToken rest
  if !canFollowQuoted scan.inFlow mark gap.rest then none
  let next <- scan.skipBetween gap.rest
  return ((next.1.allowAdjacent next.2).push (.scalar false text), next.2)

def readPlainToken (scan : Scan) (mark : Mark) (rest : Marks) : Found := do
  let scan := { scan.saveCandidate mark with keyAllowed := false }.leaveTokens
  let (text, rest) <- readPlainFrom { flow := scan.inFlow, indent := scan.indent + 1 } mark rest
  let behindLine := rest.head?.any Mark.leading
  return ({ scan with keyAllowed := scan.keyAllowed || behindLine }.push (.scalar true text), rest)

def isTightColon (scan : Scan) (mark : Mark) (rest : Marks) : Bool :=
  scan.inFlow && (flowAhead rest || scan.adjacent = some mark.index)

def readTightColon (scan : Scan) (mark : Mark) (rest : Marks) : Found :=
  let opens := rest.head?.any fun next => next.char = '[' || next.char = '\x7b'
  if opens && scan.adjacent != some mark.index then none else scan.readColon mark rest

def isRefused (scan : Scan) (c : Char) : Bool :=
  ['*', '&', '!', '%', '@', Char.ofNat 96].contains c || (!scan.inFlow && (c = '|' || c = '>'))

def readToken (scan : Scan) (mark : Mark) (rest : Marks) : Found :=
  let c := mark.char
  if atBoundary '-' (mark :: rest) then scan.readDocumentMark .documentStart rest
  else if atBoundary '.' (mark :: rest) then scan.readDocumentMark .documentEnd rest
  else if mark.column < scan.indent then none
  else if c = '[' then scan.openBracket .listStart mark rest
  else if c = '\x7b' then scan.openBracket .tableStart mark rest
  else if c = ']' then scan.closeBracket .listEnd rest
  else if c = '\x7d' then scan.closeBracket .tableEnd rest
  else if c = ',' then scan.readComma rest
  else if c = '-' && blankAhead rest then scan.readDash mark rest
  else if c = '?' && blankAhead rest then scan.readKeyMark mark rest
  else if c = ':' && blankAhead rest then scan.readColon mark rest
  else if c = ':' && scan.isTightColon mark rest then scan.readTightColon mark rest
  else if scan.isRefused c then none
  else if c = '"' || c = '\'' then scan.readQuotedToken mark rest
  else scan.readPlainToken mark rest

def finish (scan : Scan) : Option (List Token) :=
  ((scan.closeBlocks (-1)).dropCandidate).map fun scan => scan.tokens.reverse

def readNext (scan : Scan) (marks : Marks) : Option (Scan × Option Marks) := do
  let (scan, marks) <- scan.skipBetween marks
  match marks with
  | [] => return (scan, none)
  | mark :: rest =>
    let scan <- scan.dropStale mark
    let (scan, rest) <- (scan.closeBlocks mark.column).readToken mark rest
    return (scan, some rest)

def readAll (scan : Scan) (marks : Marks) : Option (List Token) :=
  match scan.readNext marks with
  | none => none
  | some (scan, none) => scan.finish
  | some (scan, some rest) => if rest.length < marks.length then readAll scan rest else none
termination_by marks.length

end Scan

def Token.ofText? (text : String) : Option (List Token) :=
  ({ : Scan }).readAll (marksOfText text)

end VideoRelay.Document.Yaml
