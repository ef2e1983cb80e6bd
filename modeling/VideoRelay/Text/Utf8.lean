set_option autoImplicit false

namespace VideoRelay.Text

def utf8Bytes (text : String) : List UInt8 :=
  text.toUTF8.data.toList

def utf8Text? (bytes : List UInt8) : Option String :=
  String.fromUTF8? ⟨bytes.toArray⟩

theorem utf8Text?_utf8Bytes (text : String) : utf8Text? (utf8Bytes text) = some text := by
  show String.fromUTF8? text.toUTF8 = some text
  exact dif_pos text.isValidUTF8

def leadingChar? (bytes : List UInt8) : Option Char :=
  (bytes.take 4).toByteArray.utf8DecodeChar? 0

def isContinuation (byte : UInt8) : Bool :=
  128 <= byte && byte < 192

def continues (first second : UInt8) : Bool :=
  if first = 224 then 160 <= second && second < 192
  else if first = 237 then 128 <= second && second < 160
  else if first = 240 then 144 <= second && second < 192
  else if first = 244 then 128 <= second && second < 144
  else 224 < first && first < 244 && isContinuation second

/-- How many bytes after the first belong to the broken sequence that the bytes begin with: as many as some
character could begin with. -/
def brokenTail (first : UInt8) : List UInt8 -> Nat
  | second :: third :: _ =>
    if !continues first second then 0 else if isContinuation third then 2 else 1
  | [second] => if continues first second then 1 else 0
  | [] => 0

def replacement : Char := '\uFFFD'

def utf8Lossy : List UInt8 -> List Char
  | [] => []
  | first :: rest =>
    match leadingChar? (first :: rest) with
    | some c => c :: utf8Lossy (rest.drop (c.utf8Size - 1))
    | none => replacement :: utf8Lossy (rest.drop (brokenTail first rest))
termination_by bytes => bytes.length
decreasing_by all_goals simp only [List.length_drop, List.length_cons]; omega

theorem leadingChar?_append (c : Char) (rest : List UInt8) :
    leadingChar? (String.utf8EncodeChar c ++ rest) = some c := by
  have short : (String.utf8EncodeChar c).length <= 4 := by
    rw [String.length_utf8EncodeChar]; exact c.utf8Size_le_four
  rw [leadingChar?, List.take_append, List.take_of_length_le short, List.toByteArray_append]
  exact ByteArray.utf8DecodeChar?_utf8EncodeChar_append

theorem utf8Lossy_append (c : Char) (rest : List UInt8) :
    utf8Lossy (String.utf8EncodeChar c ++ rest) = c :: utf8Lossy rest := by
  have size := String.length_utf8EncodeChar c
  have positive := c.utf8Size_pos
  have leading := leadingChar?_append c rest
  cases written : String.utf8EncodeChar c with
  | nil => rw [written] at size; simp at size; omega
  | cons first more =>
    rw [written] at size leading
    simp only [List.cons_append] at leading ⊢
    have count : c.utf8Size - 1 = more.length := by simp at size; omega
    rw [utf8Lossy, leading]
    simp [count]

theorem utf8Bytes_ofList (chars : List Char) :
    utf8Bytes (String.ofList chars) = chars.flatMap String.utf8EncodeChar := by
  simp [utf8Bytes, List.utf8Encode]

theorem utf8Lossy_utf8Bytes (text : String) : utf8Lossy (utf8Bytes text) = text.toList := by
  have every : forall chars : List Char, utf8Lossy (chars.flatMap String.utf8EncodeChar) = chars := by
    intro chars
    induction chars with
    | nil => simp [utf8Lossy]
    | cons c rest ih => simp [utf8Lossy_append, ih]
  rw [<- String.ofList_toList (s := text), utf8Bytes_ofList, every, String.toList_ofList]

end VideoRelay.Text
