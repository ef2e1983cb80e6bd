import VideoRelay.Text.Utf8

set_option autoImplicit false

namespace VideoRelay.Text

/-- What is being read: text, or a command behind its escape character. A command goes on with some marks and a
letter, or as a sequence, a string or a title up to their ends. -/
inductive Reading where
  | text | escape | marks | sequence | string | title
deriving DecidableEq, Repr

def isLayout (c : Char) : Bool :=
  [9, 10, 12, 13].contains c.toNat

def isShown (c : Char) : Bool :=
  (32 <= c.toNat && c.toNat != 127) || isLayout c

def endsString (c : Char) : Bool :=
  (utf8Bytes (String.ofList [c])).contains 0x9c

namespace Reading

def behindEscape (c : Char) : Reading :=
  if c.toNat < 32 || 126 < c.toNat then escape
  else if c.toNat < 48 then marks
  else if c = '[' then sequence
  else if c = ']' then title
  else if ['P', 'X', '^', '_'].contains c then string
  else text

def next (reading : Reading) (c : Char) : Reading :=
  if c.toNat = 27 then escape
  else if c.toNat = 24 || c.toNat = 26 then text
  else match reading with
    | text => text
    | escape => behindEscape c
    | marks => if 48 <= c.toNat && c.toNat < 127 then text else marks
    | sequence => if 64 <= c.toNat && c.toNat < 127 then text else sequence
    | string => if endsString c then text else string
    | title => if c.toNat = 7 then text else title

def shows (reading : Reading) (c : Char) : Bool :=
  match reading with
  | text => isShown c
  | escape | marks | sequence => isLayout c
  | string | title => false

def behindShown (reading : Reading) (c : Char) : Reading :=
  if c.toNat < 128 then reading else text

end Reading

/-- Tells of each character whether it is shown. Behind a shown character everything is shown that a text would
show; then the command goes on. -/
def markShown (shown : Bool) (reading : Reading) : List Char -> List (Char × Bool)
  | [] => []
  | c :: rest =>
    if shown && isShown c then (c, true) :: markShown true (reading.behindShown c) rest
    else (c, reading.shows c) :: markShown (reading.shows c) (reading.next c) rest

def withoutCommands (text : List Char) : List Char :=
  ((markShown false .text text).filter Prod.snd).map Prod.fst

end VideoRelay.Text
