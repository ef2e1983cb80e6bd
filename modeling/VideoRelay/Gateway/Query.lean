import VideoRelay.Text.Percent
import VideoRelay.Text.Split
import VideoRelay.Text.Utf8

set_option autoImplicit false

namespace VideoRelay.Gateway

open Text

abbrev Query := List (String × String)

namespace Query

def space : UInt8 := 32
def ampersand : UInt8 := 38
def plusSign : UInt8 := 43
def equalsSign : UInt8 := 61

def plusToSpace (byte : UInt8) : UInt8 :=
  if byte = plusSign then space else byte

def componentBytes (spelling : List UInt8) : List UInt8 :=
  percentDecode (spelling.map plusToSpace)

def component (spelling : List UInt8) : String :=
  String.ofList (utf8Lossy (componentBytes spelling))

def field (part : List UInt8) : String × String :=
  let (name, value) := cut equalsSign part
  (component name, component (value.getD []))

def parse (query : List UInt8) : Query :=
  ((pieces ampersand query).filter fun part => !part.isEmpty).map field

/-- The first of the known fields to stand a second time, where some have been seen before. -/
def repeatedAfter? (known seen : List String) : Query -> Option String
  | [] => none
  | (name, _) :: rest =>
    if seen.contains name then some name
    else if known.contains name then repeatedAfter? known (name :: seen) rest
    else repeatedAfter? known seen rest

def repeated? (query : Query) (known : List String) : Option String :=
  repeatedAfter? known [] query

/-- How one byte may be written where the bytes `stops` have a meaning of their own. -/
inductive SpellsByte (stops : List UInt8) : UInt8 -> List UInt8 -> Prop
  | literal (byte : UInt8) (plain : byte ∉ percentSign :: plusSign :: stops) : SpellsByte stops byte [byte]
  | plus : SpellsByte stops space [plusSign]
  | percent (byte high low : UInt8) (digits : hexPair? high low = some byte) :
      SpellsByte stops byte [percentSign, high, low]

inductive Spells (stops : List UInt8) : List UInt8 -> List UInt8 -> Prop
  | nil : Spells stops [] []
  | cons {byte : UInt8} {bytes first rest : List UInt8} (head : SpellsByte stops byte first)
      (tail : Spells stops bytes rest) : Spells stops (byte :: bytes) (first ++ rest)

theorem plusToSpace_of_ne {byte : UInt8} (other : byte ≠ plusSign) : plusToSpace byte = byte := by
  simp [plusToSpace, other]

theorem hexPair?_plusToSpace {high low byte : UInt8} (digits : hexPair? high low = some byte) :
    plusToSpace high = high /\ plusToSpace low = low := by
  constructor
  next =>
    apply plusToSpace_of_ne
    rintro rfl
    simp [hexPair?, hexValue?, plusSign] at digits
  next =>
    apply plusToSpace_of_ne
    rintro rfl
    cases found : hexValue? high <;> simp [hexPair?, hexValue?, plusSign] at digits

theorem componentBytes_append {stops : List UInt8} {byte : UInt8} {spelling : List UInt8}
    (spelled : SpellsByte stops byte spelling) (rest : List UInt8) :
    componentBytes (spelling ++ rest) = byte :: componentBytes rest := by
  cases spelled with
  | literal _ plain =>
    simp only [List.mem_cons, not_or] at plain
    simp [componentBytes, plusToSpace_of_ne plain.2.1, percentDecode_cons _ _ plain.1]
  | plus =>
    have other : space ≠ percentSign := by decide
    simp [componentBytes, plusToSpace, percentDecode_cons _ _ other]
  | percent _ high low digits =>
    have kept := hexPair?_plusToSpace digits
    have other : plusToSpace percentSign = percentSign := by decide
    simp [componentBytes, other, kept.1, kept.2, percentDecode, digits]

theorem componentBytes_of_spells {stops bytes spelling : List UInt8}
    (spelled : Spells stops bytes spelling) : componentBytes spelling = bytes := by
  induction spelled with
  | nil => rfl
  | cons head _ ih => rw [componentBytes_append head, ih]

theorem component_of_spells {stops spelling : List UInt8} (text : String)
    (spelled : Spells stops (utf8Bytes text) spelling) : component spelling = text := by
  rw [component, componentBytes_of_spells spelled, utf8Lossy_utf8Bytes, String.ofList_toList]

end Query

end VideoRelay.Gateway
