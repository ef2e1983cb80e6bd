import VideoRelay.Decimal.Numeral
import VideoRelay.Journal
import VideoRelay.Journal.Pattern
import VideoRelay.Text.Alphanumeric
import VideoRelay.Text.Blank
import VideoRelay.Text.Split

set_option autoImplicit false

namespace VideoRelay.Journal

open Decimal

structure FieldMatch where
  name : String
  value : Option String := none
deriving DecidableEq, Repr

/-- The highest rank that passes, for records from a target, inside of a span, with a field. -/
structure Directive where
  target : Option (List Char) := none
  span : Option (List Char) := none
  field : Option FieldMatch := none
  rank : Nat := Level.trace.rank
deriving DecidableEq, Repr

abbrev Filter := List Directive

def lowerCase (text : String) : String :=
  String.ofList (text.toList.map Char.toLower)

def rankOfWord : String -> Option Nat
  | "off" => some 0
  | "error" => some 1
  | "warn" => some 2
  | "info" => some 3
  | "debug" => some 4
  | "trace" => some 5
  | _ => none

def rank? (text : String) : Option Nat :=
  match unsigned? (UInt64.size - 1) text with
  | some number => if number <= 5 then some number else none
  | none => rankOfWord (lowerCase text)

def levelRank? (level : String) : Option Nat :=
  match lowerCase level with
  | "warning" => some 2
  | "off" => none
  | word => rankOfWord word

abbrev Places := List (Char × Char)

def restText (places : Places) (tail : List Char) : List Char :=
  places.map Prod.snd ++ tail

def upTo (stops : List Char) : Places -> List Char × Option (Char × Places)
  | [] => ([], none)
  | (c, shown) :: rest =>
    if stops.contains c then ([], some (c, rest))
    else ((shown :: (upTo stops rest).1), (upTo stops rest).2)

def isFieldValue (chars : List Char) : Bool :=
  (double? (String.ofList chars)).isSome || isPattern chars

def FieldMatch.read? (chars : List Char) : Option FieldMatch :=
  match Text.pieces '=' chars with
  | name :: value :: _ =>
    if isFieldValue value then some { name := String.ofList name, value := some (String.ofList value) } else none
  | _ => some { name := String.ofList chars }

namespace Directive

def readLevel (directive : Directive) (chars : List Char) : Option Directive :=
  if chars.isEmpty then some directive
  else (rank? (String.ofList chars)).map fun rank => { directive with rank }

def readEnd (directive : Directive) (places : Places) (tail : List Char) : Option Directive :=
  match places with
  | [] => some directive
  | (c, _) :: rest => if c = '=' then directive.readLevel (restText rest tail) else none

def readField (directive : Directive) (places : Places) (tail : List Char) : Option Directive :=
  match upTo ['\x7d'] places with
  | (name, some (_, (']', _) :: rest)) =>
    if name.isEmpty then none
    else (FieldMatch.read? name).bind fun field => { directive with field := some field }.readEnd rest tail
  | _ => none

def readSpan (directive : Directive) (places : Places) (tail : List Char) : Option Directive :=
  match upTo [']', '\x7b'] places with
  | (name, some (']', rest)) => { directive with span := some name }.readEnd rest tail
  | (name, some (_, rest)) =>
    { directive with span := if name.isEmpty then none else some name }.readField rest tail
  | (_, none) => none

def startsTarget (c : Char) : Bool :=
  Text.isAlphanumeric c || ['-', ':', '_'].contains c

def ofWord (chars : List Char) : Directive :=
  match rank? (String.ofList chars) with
  | some rank => { rank }
  | none => { target := some chars }

def read? (chars : List Char) : Option Directive :=
  let trimmed := Text.trimChars chars
  let places : Places := trimmed.zip chars
  let tail := chars.drop trimmed.length
  match places with
  | ('[', _) :: rest => { : Directive }.readSpan rest tail
  | (c, _) :: _ =>
    if !startsTarget c then none
    else match upTo ['=', '['] places with
      | (target, some ('=', rest)) => { target := some target : Directive }.readLevel (restText rest tail)
      | (target, some (_, rest)) => { target := some target : Directive }.readSpan rest tail
      | (word, none) => some (ofWord (word ++ tail))
  | [] => none

def isPlain (directive : Directive) : Bool :=
  directive.span.isNone && directive.field.all fun field => field.value.isNone

def matchesRecord (directive : Directive) (record : Record) : Bool :=
  (directive.target.all fun target => target.isPrefixOf record.target.toList) &&
    directive.field.all fun field => record.fieldNames.contains field.name

def reach (directive : Directive) : Nat :=
  (directive.target.map fun target => target.length + 1).getD 0

def fieldName (directive : Directive) : String :=
  (directive.field.map FieldMatch.name).getD ""

/-- A longer target is more specific, then a field is, and of two fields the one with the greater name. Of equally
specific directives the later one comes first. -/
def precedes (later earlier : Directive) : Bool :=
  if later.reach = earlier.reach then !(later.fieldName < earlier.fieldName) else earlier.reach < later.reach

end Directive

def parseFilter (text : String) : Option Filter :=
  ((Text.pieces ',' text.toList).filter fun part => !part.isEmpty).mapM Directive.read?

def levelFilter (level : String) : Filter :=
  [{ rank := (levelRank? level).getD 0 }]

def orErrors (filter : Filter) : Filter :=
  if filter.isEmpty then [{ rank := Level.error.rank }] else filter

def chooseFilter (given : Option String) (level : String) : Filter :=
  ((given.bind parseFilter).map orErrors).getD (levelFilter level)

def passingRank (filter : Filter) (record : Record) : Nat :=
  let step (best : Option Directive) (directive : Directive) : Option Directive :=
    match best with
    | none => some directive
    | some other => if directive.precedes other then some directive else best
  let fitting := filter.filter fun directive => directive.isPlain && directive.matchesRecord record
  ((fitting.foldl step none).map Directive.rank).getD 0

def passes (filter : Filter) (record : Record) : Bool :=
  record.level.rank <= passingRank filter record

end VideoRelay.Journal
