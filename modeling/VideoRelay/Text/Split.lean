set_option autoImplicit false

namespace VideoRelay.Text

variable {A : Type} [DecidableEq A]

def pieces (separator : A) : List A -> List (List A)
  | [] => [[]]
  | first :: rest =>
    if first = separator then [] :: pieces separator rest
    else match pieces separator rest with
      | [] => [[first]]
      | piece :: others => (first :: piece) :: others

def cut (separator : A) : List A -> List A × Option (List A)
  | [] => ([], none)
  | first :: rest =>
    if first = separator then ([], some rest)
    else ((first :: (cut separator rest).1), (cut separator rest).2)

def cutLast (separator : A) (items : List A) : Option (List A) × List A :=
  let (back, front) := cut separator items.reverse
  (front.map List.reverse, back.reverse)

def joined (separator : List A) : List (List A) -> List A
  | [] => []
  | [piece] => piece
  | piece :: rest => piece ++ separator ++ joined separator rest

/-- The lines of a text, without their ends. What stands behind the last end is a line if it is not empty. -/
def lines (text : List Char) : List (List Char) :=
  let parts := pieces '\n' text
  let ended := parts.dropLast.map fun part => if part.getLast? = some '\r' then part.dropLast else part
  match parts.getLast? with
  | none | some [] => ended
  | some last => ended ++ [last]

theorem pieces_ne_nil (separator : A) (items : List A) : pieces separator items ≠ [] := by
  cases items with
  | nil => simp [pieces]
  | cons first rest =>
    simp only [pieces]
    split
    · simp
    · split <;> simp

theorem pieces_append (separator : A) (piece rest : List A) (plain : separator ∉ piece) :
    pieces separator (piece ++ separator :: rest) = piece :: pieces separator rest := by
  induction piece with
  | nil => simp [pieces]
  | cons first piece ih =>
    simp only [List.mem_cons, not_or] at plain
    simp [pieces, Ne.symm plain.1, ih plain.2]

theorem pieces_of_not_mem (separator : A) (piece : List A) (plain : separator ∉ piece) :
    pieces separator piece = [piece] := by
  induction piece with
  | nil => rfl
  | cons first piece ih =>
    simp only [List.mem_cons, not_or] at plain
    simp [pieces, Ne.symm plain.1, ih plain.2]

theorem cut_append (separator : A) (front back : List A) (plain : separator ∉ front) :
    cut separator (front ++ separator :: back) = (front, some back) := by
  induction front with
  | nil => simp [cut]
  | cons first front ih =>
    simp only [List.mem_cons, not_or] at plain
    simp [cut, Ne.symm plain.1, ih plain.2]

end VideoRelay.Text
