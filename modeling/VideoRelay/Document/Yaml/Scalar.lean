import VideoRelay.Document.Escape
import VideoRelay.Document.Yaml.Mark

set_option autoImplicit false

namespace VideoRelay.Document.Yaml

/-- What a mark comes to: some text and another place, some text and the end of the scalar, or a fault. -/
inductive Step (P : Type) where
  | goOn (text : List Char) (place : P)
  | ends (text : List Char)
  | refused

/-- The text for line ends: the first one is a space unless others follow it. -/
def folded (more : Nat) : List Char :=
  if more = 0 then [' '] else List.replicate more '\n'

inductive PlainPlace where
  | word
  | blanks (chars : List Char)
  | lines (more : Nat)
  | tabbed (more : Nat)
  | comment (more : Nat)

structure Surrounding where
  flow : Bool
  indent : Int

def Surrounding.isPlain (around : Surrounding) (c : Char) (rest : Marks) : Bool :=
  if c = ':' then !blankAhead rest && !(around.flow && flowAhead rest) else !(around.flow && isFlowMark c)

def Surrounding.endsPlain (around : Surrounding) (mark : Mark) (rest : Marks) : Bool :=
  (!around.flow && mark.column < around.indent) || atDocumentMark (mark :: rest) || mark.char = '#' ||
    !around.isPlain mark.char rest

def Surrounding.isLoneDash (around : Surrounding) (mark : Mark) (rest : Marks) : Bool :=
  around.flow && mark.char = '-' && flowAhead rest

def plainWord (around : Surrounding) (text : List Char) (mark : Mark) (rest : Marks) : Step PlainPlace :=
  if around.isLoneDash mark rest then .refused
  else if around.endsPlain mark rest then .ends []
  else .goOn (text ++ [mark.char]) .word

def PlainPlace.step (around : Surrounding) (place : PlainPlace) (mark : Mark) (rest : Marks) : Step PlainPlace :=
  let c := mark.char
  match place with
  | word =>
    if isBlank c then .goOn [] (.blanks [c])
    else if c = '\n' then .goOn [] (.lines 0)
    else if around.isPlain c rest then .goOn [c] .word
    else .ends []
  | blanks chars =>
    if isBlank c then .goOn [] (.blanks (c :: chars))
    else if c = '\n' then .goOn [] (.lines 0)
    else plainWord around chars.reverse mark rest
  | lines more =>
    if mark.isTabbed around.indent then
      if lineIsEmpty rest then .goOn [] (.tabbed more) else .refused
    else if isBlank c then .goOn [] (.lines more)
    else if c = '\n' then .goOn [] (.lines (more + 1))
    else plainWord around (folded more) mark rest
  | tabbed more => .goOn [] (if c = '\n' then .lines (more + 1) else if c = '#' then .comment more else .tabbed more)
  | comment more => .goOn [] (if c = '\n' then .lines more else .comment more)

def readPlain (around : Surrounding) (place : PlainPlace) : Marks -> Option (List Char × Marks)
  | [] => some ([], [])
  | mark :: rest =>
    match place.step around mark rest with
    | .goOn text place => (readPlain around place rest).map fun (chars, rest) => (text ++ chars, rest)
    | .ends text => some (text, mark :: rest)
    | .refused => none

/-- The scalar that begins with a mark. In brackets it has to be indented too. -/
def readPlainFrom (around : Surrounding) (mark : Mark) (rest : Marks) : Option (List Char × Marks) :=
  if around.isLoneDash mark rest || (around.flow && mark.column < around.indent) then none
  else (readPlain around .word rest).map fun (chars, rest) => (mark.char :: chars, rest)

inductive QuotedPlace where
  | word
  | quote
  | blanks (chars : List Char)
  | lines (counted : Bool) (more : Nat)
  | joined
  | escape
  | digits (left : Nat) (chars : List Char)

def simpleEscape? : Char -> Option Char
  | '0' => some (Char.ofNat 0)
  | 'a' => some (Char.ofNat 7)
  | 'b' => some (Char.ofNat 8)
  | 't' | '\t' => some '\t'
  | 'n' => some '\n'
  | 'v' => some (Char.ofNat 11)
  | 'f' => some (Char.ofNat 12)
  | 'r' => some '\r'
  | 'e' => some (Char.ofNat 27)
  | ' ' => some ' '
  | '"' => some '"'
  | '/' => some '/'
  | '\\' => some '\\'
  | 'N' => some (Char.ofNat 0x85)
  | '_' => some (Char.ofNat 0xa0)
  | 'L' => some (Char.ofNat 0x2028)
  | 'P' => some (Char.ofNat 0x2029)
  | _ => none

def quotedWord (double : Bool) (text : List Char) (mark : Mark) (rest : Marks) : Step QuotedPlace :=
  let c := mark.char
  if double && c = '"' then .ends text
  else if double && c = '\\' then .goOn text .escape
  else if !double && c = '\'' then
    if (rest.head?.map Mark.char) = some '\'' then .goOn text .quote else .ends text
  else .goOn (text ++ [c]) .word

def quotedLine (double : Bool) (indent : Int) (text : List Char) (mark : Mark) (rest : Marks) : Step QuotedPlace :=
  if mark.column < indent || atDocumentMark (mark :: rest) then .refused else quotedWord double text mark rest

def quotedEscape (c : Char) : Step QuotedPlace :=
  if c = '\n' then .goOn [] .joined
  else if 0 < escapeWidth c then .goOn [] (.digits (escapeWidth c) [])
  else match simpleEscape? c with
    | some escaped => .goOn [escaped] .word
    | none => .refused

def quotedDigit (left : Nat) (chars : List Char) : Step QuotedPlace :=
  if 1 < left then .goOn [] (.digits (left - 1) chars)
  else match escapedChar? chars.reverse with
    | some escaped => .goOn [escaped] .word
    | none => .refused

def QuotedPlace.step (double : Bool) (indent : Int) (place : QuotedPlace) (mark : Mark) (rest : Marks) :
    Step QuotedPlace :=
  let c := mark.char
  let behindLines (counted : Bool) (more : Nat) : Step QuotedPlace :=
    if mark.isTabbed indent then .refused
    else if isBlank c then .goOn [] (.lines counted more)
    else if c = '\n' then .goOn [] (.lines counted (more + 1))
    else quotedLine double indent (if counted then folded more else List.replicate more '\n') mark rest
  match place with
  | word =>
    if isBlank c then .goOn [] (.blanks [c])
    else if c = '\n' then .goOn [] (.lines true 0)
    else quotedWord double [] mark rest
  | quote => .goOn [c] .word
  | blanks chars =>
    if isBlank c then .goOn [] (.blanks (c :: chars))
    else if c = '\n' then .goOn [] (.lines true 0)
    else quotedLine double indent chars.reverse mark rest
  | lines counted more => behindLines counted more
  | joined => if double && c = '"' then .ends [] else behindLines false 0
  | escape => quotedEscape c
  | digits left chars => quotedDigit left (c :: chars)

def readQuoted (double : Bool) (indent : Int) (place : QuotedPlace) : Marks -> Option (List Char × Marks)
  | [] => none
  | mark :: rest =>
    match place.step double indent mark rest with
    | .goOn text place =>
      (readQuoted double indent place rest).map fun (chars, rest) => (text ++ chars, rest)
    | .ends text => some (text, rest)
    | .refused => none

end VideoRelay.Document.Yaml
