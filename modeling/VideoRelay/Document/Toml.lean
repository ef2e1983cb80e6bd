import VideoRelay.Document.Json
import VideoRelay.Text.Split

set_option autoImplicit false

namespace VideoRelay.Document.Toml

open Decimal

/-- How a table came to be: as part of a header's path, by a header of its own, or by a dotted key. -/
inductive Origin where
  | implied | header | dotted
deriving DecidableEq, Repr

inductive Node where
  | value (document : Document)
  | table (origin : Origin) (entries : List (String × Node))
  | tables (items : List (List (String × Node)))

abbrev Entries := List (String × Node)

mutual

def Node.document : Node -> Document
  | .value document => document
  | .table _ entries => .table (documentsOf entries)
  | .tables items => .list (tablesOf items)

def documentsOf : Entries -> List (String × Document)
  | [] => []
  | (key, node) :: rest => (key, node.document) :: documentsOf rest

def tablesOf : List Entries -> List Document
  | [] => []
  | entries :: rest => .table (documentsOf entries) :: tablesOf rest

end

/-- Changes the table at a header's path; of an array of tables the last one is meant. -/
def update (change : Entries -> Option Entries) : List String -> Entries -> Option Entries
  | [], entries => change entries
  | key :: path, entries =>
    match entries.lookup key with
    | none => (update change path []).map fun inner => put entries key (.table .implied inner)
    | some (.table origin inner) =>
      (update change path inner).map fun inner => put entries key (.table origin inner)
    | some (.tables items) =>
      match items.getLast? with
      | none => none
      | some last =>
        (update change path last).map fun last => put entries key (.tables (items.dropLast ++ [last]))
    | some (.value _) => none

def defineTable (key : String) (entries : Entries) : Option Entries :=
  match entries.lookup key with
  | none => some (put entries key (.table .header []))
  | some (.table .implied inner) => some (put entries key (.table .header inner))
  | some _ => none

def appendTable (key : String) (entries : Entries) : Option Entries :=
  match entries.lookup key with
  | none => some (put entries key (.tables [[]]))
  | some (.tables items) => some (put entries key (.tables (items ++ [[]])))
  | some _ => none

/-- Gives a value to a dotted key. Only a table that is `open` to it takes the last key: the table that the path
starts from, or one that dotted keys made. -/
def assign (document : Document) : Bool -> List String -> Entries -> Option Entries
  | _, [], _ => none
  | isOpen, [key], entries =>
    if !isOpen || (entries.lookup key).isSome then none else some (put entries key (.value document))
  | _, key :: path, entries =>
    match entries.lookup key with
    | none => (assign document true path []).map fun inner => put entries key (.table .dotted inner)
    | some (.table .header _) | some (.value _) => none
    | some (.table origin inner) =>
      (assign document (origin = .dotted) path inner).map fun inner => put entries key (.table origin inner)
    | some (.tables items) =>
      match items.getLast? with
      | none => none
      | some last =>
        (assign document false path last).map fun last => put entries key (.tables (items.dropLast ++ [last]))

def isBareKeyChar (c : Char) : Bool :=
  c.isAlphanum || c = '_' || c = '-'

def isControl (c : Char) : Bool :=
  (c.toNat < 32 && c != '\t') || c.toNat = 127

def simpleEscape? : Char -> Option Char
  | 'b' => some (Char.ofNat 8)
  | 't' => some '\t'
  | 'n' => some '\n'
  | 'f' => some (Char.ofNat 12)
  | 'r' => some '\r'
  | 'e' => some (Char.ofNat 27)
  | '"' => some '"'
  | '\\' => some '\\'
  | _ => none

abbrev Reading := Option (List Char × List Char)

def prepend (c : Char) (read : Reading) : Reading :=
  read.map fun (chars, rest) => (c :: chars, rest)

def readEscape : List Char -> Option (Char × List Char)
  | [] => none
  | letter :: rest =>
    let width := escapeWidth letter
    if 0 < width then
      if rest.length < width then none
      else (escapedChar? (rest.take width)).map fun c => (c, rest.drop width)
    else (simpleEscape? letter).map fun c => (c, rest)

def readBasic : Nat -> List Char -> Reading
  | 0, _ | _, [] => none
  | fuel + 1, c :: rest =>
    if c = '"' then some ([], rest)
    else if c = '\\' then (readEscape rest).bind fun (c, rest) => prepend c (readBasic fuel rest)
    else if isControl c then none
    else prepend c (readBasic fuel rest)

def readLiteralText : List Char -> Reading
  | [] => none
  | c :: rest =>
    if c = '\'' then some ([], rest) else if isControl c then none else prepend c (readLiteralText rest)

def isSpace (c : Char) : Bool :=
  c = ' ' || c = '\t'

def afterLineEnd? : List Char -> Option (List Char)
  | '\n' :: rest | '\r' :: '\n' :: rest => some rest
  | _ => none

def skipBlankLines : List Char -> List Char
  | ' ' :: rest | '\t' :: rest | '\n' :: rest | '\r' :: '\n' :: rest => skipBlankLines rest
  | chars => chars

/-- A text over several lines, whose line ends are kept as they are; up to two quotes can stand in front of the
closing three. -/
def readLong (quote : Char) : Nat -> List Char -> Reading
  | 0, _ | _, [] => none
  | fuel + 1, c :: rest =>
    if c = quote then
      let quotes := (c :: rest).takeWhile (· = quote)
      let rest := (c :: rest).dropWhile (· = quote)
      if quotes.length < 3 then
        (readLong quote fuel rest).map fun (chars, rest) => (quotes ++ chars, rest)
      else if 5 < quotes.length then none
      else some (quotes.drop 3, rest)
    else if c = '\\' && quote = '"' then
      match afterLineEnd? (rest.dropWhile isSpace) with
      | some rest => readLong quote fuel (skipBlankLines rest)
      | none => (readEscape rest).bind fun (c, rest) => prepend c (readLong quote fuel rest)
    else if c = '\n' then prepend c (readLong quote fuel rest)
    else if c = '\r' then
      match rest with
      | '\n' :: rest => prepend c (prepend '\n' (readLong quote fuel rest))
      | _ => none
    else if isControl c then none
    else prepend c (readLong quote fuel rest)

def withoutFirstLine (chars : List Char) : List Char :=
  (afterLineEnd? chars).getD chars

def readQuoted (chars : List Char) : Reading :=
  match chars with
  | '"' :: '"' :: '"' :: rest => readLong '"' (rest.length + 1) (withoutFirstLine rest)
  | '\'' :: '\'' :: '\'' :: rest => readLong '\'' (rest.length + 1) (withoutFirstLine rest)
  | '"' :: rest => readBasic (rest.length + 1) rest
  | '\'' :: rest => readLiteralText rest
  | _ => none

def digits? (isDigit : Char -> Bool) (chars : List Char) : Option (List Char) :=
  let parts := Text.pieces '_' chars
  if parts.all fun part => !part.isEmpty && part.all isDigit then some parts.flatten else none

def inRange (value : Int) : Option Int :=
  if isSigned64 value then some value else none

def based? (base : Nat) (chars : List Char) : Option Int :=
  let isBaseDigit (c : Char) : Bool := ((hexNat? [c]).getD base) < base
  (digits? isBaseDigit chars).bind fun digits =>
    inRange (digits.foldl (fun value c => base * value + (hexNat? [c]).getD 0) 0 : Nat)

def hasLeadingZero : List Char -> Bool
  | '0' :: _ :: _ => true
  | _ => false

def integer? (chars : List Char) : Option Int :=
  match chars with
  | '0' :: 'x' :: digits => based? 16 digits
  | '0' :: 'o' :: digits => based? 8 digits
  | '0' :: 'b' :: digits => based? 2 digits
  | _ =>
    let (negative, chars) := splitSign chars
    (digits? isDigit chars).bind fun digits =>
      if hasLeadingZero chars then none
      else
        let value : Int := digitsValue digits
        inRange (if negative then -value else value)

def float? (chars : List Char) : Option Double :=
  let (negative, chars) := splitSign chars
  if chars = "inf".toList then some (.infinite negative)
  else if chars = "nan".toList then some .nan
  else
    let isExponentMark (c : Char) : Bool := c = 'e' || c = 'E'
    let base := chars.takeWhile fun c => !isExponentMark c
    let exponent? := match chars.dropWhile fun c => !isExponentMark c with
      | [] => some none
      | _ :: rest =>
        let (negative, digits) := splitSign rest
        (digits? isDigit digits).map fun digits =>
          let value : Int := digitsValue digits
          some (if negative then -value else value)
    let parts? := match Text.cut '.' base with
      | (whole, none) => (digits? isDigit whole).map fun whole => (whole, [])
      | (whole, some fraction) =>
        (digits? isDigit whole).bind fun whole => (digits? isDigit fraction).map fun fraction => (whole, fraction)
    match exponent?, parts? with
    | some exponent, some (whole, fraction) =>
      if hasLeadingZero whole || (exponent.isNone && !base.contains '.') then none
      else
        let value := Double.ofDecimal negative (digitsValue (whole ++ fraction))
          (exponent.getD 0 - fraction.length)
        if value.isInfinite then none else some value
    | _, _ => none

def readPair (max : Nat) : List Char -> Option (List Char × List Char)
  | first :: second :: rest =>
    match wholeNumber? [first, second] with
    | some value => if value <= max then some ([first, second], rest) else none
    | none => none
  | _ => none

def isLeapYear (year : Nat) : Bool :=
  year % 4 == 0 && (year % 100 != 0 || year % 400 == 0)

def daysInMonth (year month : Nat) : Nat :=
  if month = 2 then (if isLeapYear year then 29 else 28)
  else if [4, 6, 9, 11].contains month then 30
  else 31

def isDate (chars : List Char) : Bool :=
  match Text.pieces '-' chars with
  | [year, month, day] =>
    year.length = 4 && month.length = 2 && day.length = 2 &&
      match wholeNumber? year, wholeNumber? month, wholeNumber? day with
      | some year, some month, some day =>
        1 <= month && month <= 12 && 1 <= day && day <= daysInMonth year month
      | _, _, _ => false
  | _ => false

def fractionDigits (digits : List Char) : List Char :=
  let kept := ((digits.take 9).reverse.dropWhile (· = '0')).reverse
  if kept.isEmpty then ['0'] else kept

def readFraction (chars : List Char) : Option (List Char × List Char) :=
  match chars with
  | '.' :: rest =>
    let digits := rest.takeWhile isDigit
    if digits.isEmpty then none
    else some ('.' :: fractionDigits digits, rest.dropWhile isDigit)
  | _ => some ([], chars)

def readSeconds (chars : List Char) : Option (List Char × List Char) :=
  match chars with
  | ':' :: rest =>
    (readPair 60 rest).bind fun (seconds, rest) =>
      (readFraction rest).map fun (fraction, rest) => (':' :: seconds ++ fraction, rest)
  | _ => some ([], chars)

def readHourMinute (chars : List Char) : Option (List Char × List Char) :=
  match readPair 23 chars with
  | some (hour, ':' :: rest) =>
    (readPair 59 rest).map fun (minute, rest) => (hour ++ ':' :: minute, rest)
  | _ => none

def readTime (chars : List Char) : Option (List Char × List Char) :=
  (readHourMinute chars).bind fun (start, rest) =>
    (readSeconds rest).map fun (seconds, rest) => (start ++ seconds, rest)

def time? (chars : List Char) : Option (List Char) :=
  match readTime chars with
  | some (time, []) => some time
  | _ => none

def offset? (chars : List Char) : Option (List Char) :=
  match chars with
  | [] => some []
  | ['Z'] | ['z'] => some ['Z']
  | '+' :: rest => match readHourMinute rest with
    | some (offset, []) => some ('+' :: offset)
    | _ => none
  | '-' :: rest => match readHourMinute rest with
    | some (offset, []) => some ((if offset = "00:00".toList then '+' else '-') :: offset)
    | _ => none
  | _ => none

def timeWithOffset? (chars : List Char) : Option (List Char) :=
  (readTime chars).bind fun (time, rest) => (offset? rest).map fun offset => time ++ offset

def moment? (chars : List Char) : Option String :=
  if isDate chars then some (String.ofList chars)
  else match time? chars with
    | some time => some (String.ofList time)
    | none =>
      let date := chars.take 10
      match chars.drop 10 with
      | mark :: rest =>
        if isDate date && (mark = 'T' || mark = 't' || mark = ' ') then
          (timeWithOffset? rest).map fun time => String.ofList (date ++ 'T' :: time)
        else none
      | [] => none

def word? (chars : List Char) : Option Scalar :=
  if chars = "true".toList then some (.bool true)
  else if chars = "false".toList then some (.bool false)
  else
    ((integer? chars).map Scalar.integer).or
      (((float? chars).map Scalar.double).or ((moment? chars).map Scalar.text))

def isWordChar (c : Char) : Bool :=
  c.isAlphanum || ['+', '-', '_', '.', ':'].contains c

/-- A scalar without quotes. A space in it can only stand between a date and a time. -/
def readWord (chars : List Char) : Option (Scalar × List Char) :=
  let word := chars.takeWhile isWordChar
  let rest := chars.dropWhile isWordChar
  match isDate word, rest with
  | true, ' ' :: next :: more =>
    if isDigit next then
      let time := (next :: more).takeWhile isWordChar
      (word? (word ++ ' ' :: time)).map fun value => (value, (next :: more).dropWhile isWordChar)
    else (word? word).map fun value => (value, rest)
  | _, _ => (word? word).map fun value => (value, rest)

def skipSpace (chars : List Char) : List Char :=
  chars.dropWhile isSpace

def readSimpleKey (chars : List Char) : Option (String × List Char) :=
  match chars with
  | '"' :: rest => (readBasic (rest.length + 1) rest).map fun (key, rest) => (String.ofList key, rest)
  | '\'' :: rest => (readLiteralText rest).map fun (key, rest) => (String.ofList key, rest)
  | _ =>
    let key := chars.takeWhile isBareKeyChar
    if key.isEmpty then none else some (String.ofList key, chars.dropWhile isBareKeyChar)

def readKey : Nat -> List Char -> Option (List String × List Char)
  | 0, _ => none
  | fuel + 1, chars =>
    match readSimpleKey (skipSpace chars) with
    | none => none
    | some (key, rest) =>
      match skipSpace rest with
      | '.' :: rest => (readKey fuel rest).map fun (path, rest) => (key :: path, rest)
      | rest => some ([key], rest)

def isInLine (c : Char) : Bool :=
  c != '\n' && c != '\r'

def skipComment (chars : List Char) : Option (List Char) :=
  match chars with
  | '#' :: rest => if (rest.takeWhile isInLine).any isControl then none else some (rest.dropWhile isInLine)
  | _ => some chars

def skipLines : Nat -> List Char -> Option (List Char)
  | 0, _ => none
  | fuel + 1, chars =>
    match skipBlankLines chars with
    | '#' :: rest => (skipComment ('#' :: rest)).bind (skipLines fuel)
    | rest => some rest

def lines (chars : List Char) : Option (List Char) :=
  skipLines (chars.length + 1) chars

def maxDepth : Nat := 80

mutual

def readValue : Nat -> Nat -> List Char -> Option (Document × List Char)
  | 0, _, _ => none
  | fuel + 1, depth, chars =>
    match chars with
    | '[' :: rest =>
      if depth = 0 then none
      else (readItems fuel (depth - 1) rest).map fun (items, rest) => (list items, rest)
    | '\x7b' :: rest =>
      if depth = 0 then none
      else (readFields fuel (depth - 1) rest []).map fun (entries, rest) => (table (documentsOf entries), rest)
    | '"' :: _ | '\'' :: _ =>
      (readQuoted chars).map fun (value, rest) => (text (String.ofList value), rest)
    | _ => (readWord chars).map fun (value, rest) => (scalar value, rest)

def readItems : Nat -> Nat -> List Char -> Option (List Document × List Char)
  | 0, _, _ => none
  | fuel + 1, depth, chars =>
    match lines chars with
    | none => none
    | some (']' :: rest) => some ([], rest)
    | some chars =>
      match readValue fuel depth chars with
      | none => none
      | some (item, rest) =>
        match lines rest with
        | some (',' :: rest) => (readItems fuel depth rest).map fun (items, rest) => (item :: items, rest)
        | some (']' :: rest) => some ([item], rest)
        | _ => none

def readFields : Nat -> Nat -> List Char -> Entries -> Option (Entries × List Char)
  | 0, _, _, _ => none
  | fuel + 1, depth, chars, entries =>
    match lines chars with
    | none => none
    | some ('\x7d' :: rest) => some (entries, rest)
    | some chars =>
      match readKey (chars.length + 1) chars with
      | none => none
      | some (path, rest) =>
        match lines rest with
        | some ('=' :: rest) =>
          match (lines rest).bind (readValue fuel depth) with
          | none => none
          | some (value, rest) =>
            match assign value true path entries, lines rest with
            | some entries, some (',' :: rest) => readFields fuel depth rest entries
            | some entries, some ('\x7d' :: rest) => some (entries, rest)
            | _, _ => none
        | _ => none

end

structure Progress where
  entries : Entries := []
  current : List String := []

def readHeader (progress : Progress) (chars : List Char) : Option (Progress × List Char) :=
  let (define, chars, closing) := match chars with
    | '[' :: rest => (appendTable, rest, [']', ']'])
    | _ => (defineTable, chars, [']'])
  match readKey (chars.length + 1) chars with
  | none => none
  | some (path, rest) =>
    if closing.isPrefixOf rest then
      match path.getLast? with
      | none => none
      | some key =>
        (update (define key) path.dropLast progress.entries).map fun entries =>
          ({ entries, current := path }, rest.drop closing.length)
    else none

def readAssignment (progress : Progress) (chars : List Char) : Option (Progress × List Char) :=
  match readKey (chars.length + 1) chars with
  | some (path, '=' :: rest) =>
    match readValue (2 * rest.length + 2) maxDepth (skipSpace rest) with
    | none => none
    | some (value, rest) =>
      (update (assign value true path) progress.current progress.entries).map fun entries =>
        ({ progress with entries }, rest)
  | _ => none

def readLines : Nat -> Progress -> List Char -> Option Progress
  | 0, _, _ => none
  | fuel + 1, progress, chars =>
    let chars := skipSpace chars
    let read := match chars with
      | [] | '\n' :: _ | '\r' :: _ | '#' :: _ => some (progress, chars)
      | '[' :: rest => readHeader progress rest
      | _ => readAssignment progress chars
    match read with
    | none => none
    | some (progress, rest) =>
      match skipComment (skipSpace rest) with
      | some [] => some progress
      | some rest => (afterLineEnd? rest).bind (readLines fuel progress)
      | none => none

def withoutMark : List Char -> List Char
  | first :: rest => if first.toNat = 0xfeff then rest else first :: rest
  | [] => []

def parse? (text : String) : Option Document :=
  let chars := withoutMark text.toList
  (readLines (chars.length + 1) {} chars).map fun progress => table (documentsOf progress.entries)

end VideoRelay.Document.Toml
