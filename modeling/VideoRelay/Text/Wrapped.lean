import VideoRelay.Text.Blank
import VideoRelay.Text.Split
import VideoRelay.Text.Terminal

set_option autoImplicit false

namespace VideoRelay.Text

def words : List Char -> List (List Char)
  | [] => []
  | c :: rest =>
    match words rest with
    | [] => [[c]]
    | word :: others =>
      if c = ' ' && word.head? != some ' ' then [c] :: word :: others else (c :: word) :: others

def trimRight (text : List Char) : List Char :=
  (text.reverse.dropWhile isBlankChar).reverse

/-- A control character begins a command, which ends with a letter m; neither takes a column. -/
def columnsFrom (command : Bool) : List Char -> Nat
  | [] => 0
  | c :: rest =>
    if c.toNat < 32 || c.toNat = 127 then columnsFrom true rest
    else if command then columnsFrom (c != 'm') rest
    else columnsFrom false rest + 1

def byteCount (text : List Char) : Nat :=
  (utf8Bytes (String.ofList text)).length

def wordWidth (word : List Char) : Nat × Nat :=
  (columnsFrom false (trimRight word), byteCount word - byteCount (trimRight word))

structure WrapState where
  width : Nat := 0
  carried : Option (List Char) := none

def wrapBehind (limit : Nat) (carried : List Char) (width : Nat) (word : List Char) :
    List (List Char) -> List Char × Nat
  | [] => (word, width)
  | next :: rest =>
    let (columns, blanks) := wordWidth next
    if limit < width + columns then
      let (text, width) := wrapBehind limit carried (byteCount carried + columns + blanks) next rest
      (trimRight word ++ '\n' :: carried ++ text, width)
    else
      let (text, width) := wrapBehind limit carried (width + columns + blanks) next rest
      (word ++ text, width)

def wrapLine (limit : Nat) (state : WrapState) (line : List Char) : List Char × WrapState :=
  match words line with
  | [] => ([], state)
  | word :: rest =>
    let carried := state.carried.getD (if word.all isBlankChar then word else [])
    let (columns, blanks) := wordWidth word
    let (text, width) := wrapBehind limit carried (state.width + columns + blanks) word rest
    (text, { width, carried := some carried })

def fullLines (text : List Char) : List (List Char) :=
  match text with
  | [] => []
  | c :: rest =>
    if c = '\n' then [c] :: fullLines rest
    else match fullLines rest with
      | [] => [[c]]
      | line :: others => (c :: line) :: others

def wrapLines (limit : Nat) (state : WrapState) : List (List Char) -> List Char × WrapState
  | [] => ([], state)
  | [line] => wrapLine limit state line
  | line :: rest =>
    let (text, _) := wrapLine limit state line
    let (others, state) := wrapLines limit {} rest
    (text ++ others, state)

def wrapParts (limit : Nat) (state : WrapState) : List (List (Char × Bool)) -> List Char
  | [] => []
  | part :: rest =>
    let chars := part.map Prod.fst
    if part.all Prod.snd then
      let (text, state) := wrapLines limit state (fullLines chars)
      text ++ wrapParts limit state rest
    else chars ++ wrapParts limit state rest

def wrapped (limit : Nat) (text : List Char) : List Char :=
  let parts := (markShown false .text text).splitBy fun first second => first.2 == second.2
  trimRight (wrapParts limit {} parts)

def indentedBelow (indent : Nat) (text : List Char) : List Char :=
  text.flatMap fun c => if c = '\n' then c :: List.replicate indent ' ' else [c]

end VideoRelay.Text
