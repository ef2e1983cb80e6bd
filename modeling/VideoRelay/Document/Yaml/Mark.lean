set_option autoImplicit false

namespace VideoRelay.Document.Yaml

/-- A character, its number in the text, its line and column, and whether only blanks stand before it on its line. -/
structure Mark where
  char : Char
  index : Nat
  line : Nat
  column : Nat
  leading : Bool
deriving DecidableEq, Repr

abbrev Marks := List Mark

def isBlank (c : Char) : Bool :=
  c = ' ' || c = '\t'

def Mark.behind (mark : Mark) (c : Char) : Mark :=
  if mark.char = '\n' then
    { char := c, index := mark.index + 1, line := mark.line + 1, column := 0, leading := true }
  else
    { char := c, index := mark.index + 1, line := mark.line, column := mark.column + 1,
      leading := mark.leading && isBlank mark.char }

def marksBehind (mark : Mark) : List Char -> Marks
  | [] => []
  | c :: rest => mark.behind c :: marksBehind (mark.behind c) rest

def marksOf : List Char -> Marks
  | [] => []
  | c :: rest =>
    let first : Mark := { char := c, index := 0, line := 0, column := 0, leading := true }
    first :: marksBehind first rest

def unifiedLines : List Char -> List Char
  | '\r' :: '\n' :: rest => '\n' :: unifiedLines rest
  | '\r' :: rest => '\n' :: unifiedLines rest
  | c :: rest => c :: unifiedLines rest
  | [] => []

def marksOfText (text : String) : Marks :=
  marksOf (unifiedLines (text.toList.takeWhile fun c => c.toNat != 0))

def lineEnds : Marks -> Bool
  | [] => true
  | mark :: _ => mark.char = '\n'

def blankAhead : Marks -> Bool
  | [] => true
  | mark :: _ => isBlank mark.char || mark.char = '\n'

def isFlowMark (c : Char) : Bool :=
  [',', '[', ']', '\x7b', '\x7d'].contains c

def flowAhead : Marks -> Bool
  | [] => false
  | mark :: _ => isFlowMark mark.char

def atBoundary (c : Char) : Marks -> Bool
  | x :: y :: z :: rest => x.column = 0 && x.char = c && y.char = c && z.char = c && blankAhead rest
  | _ => false

def atDocumentMark (marks : Marks) : Bool :=
  atBoundary '-' marks || atBoundary '.' marks

def dropLine : Marks -> Marks
  | [] => []
  | mark :: rest => if mark.char = '\n' then mark :: rest else dropLine rest

def lineIsEmpty : Marks -> Bool
  | [] => true
  | mark :: rest => if isBlank mark.char then lineIsEmpty rest else mark.char = '\n' || mark.char = '#'

structure LineGap where
  rest : Marks
  tabs : Bool := false
  spaces : Bool := false

def skipLine (tabs spaces : Bool) : Marks -> Option LineGap
  | [] => some { rest := [], tabs, spaces }
  | mark :: rest =>
    if mark.char = ' ' then skipLine tabs true rest
    else if mark.char = '\t' then skipLine true spaces rest
    else if mark.char = '#' then
      if tabs || spaces then some { rest := dropLine rest, tabs, spaces } else none
    else some { rest := mark :: rest, tabs, spaces }

def behindToken (marks : Marks) : Option LineGap :=
  skipLine false false marks

def Mark.isTabbed (mark : Mark) (indent : Int) : Bool :=
  mark.char = '\t' && mark.leading && mark.column < indent

structure Gap where
  rest : Marks
  crossed : Bool

/-- Skips blanks, line ends and comments. No tab indents a line that holds something. -/
def skipGap (indent : Int) (comment crossed : Bool) : Marks -> Option Gap
  | [] => some { rest := [], crossed }
  | mark :: rest =>
    if mark.char = '\n' then skipGap indent false true rest
    else if comment then skipGap indent true crossed rest
    else if isBlank mark.char then
      if mark.isTabbed indent && !lineIsEmpty rest then none else skipGap indent false crossed rest
    else if mark.char = '#' then skipGap indent true crossed rest
    else some { rest := mark :: rest, crossed }

end VideoRelay.Document.Yaml
