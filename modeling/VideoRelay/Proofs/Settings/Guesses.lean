import VideoRelay.Proofs.Decimal
import VideoRelay.Settings.Environment
import VideoRelay.Settings.Problems

set_option autoImplicit false

namespace VideoRelay.Decimal

def writtenChars : List Char := "-.0123456789".toList

def numeralChars : List Char := '+' :: 'e' :: 'E' :: writtenChars

def numberWords : List String :=
  ["inf", "infinity", "nan"].flatMap fun word => [word, "+" ++ word, "-" ++ word]

theorem mem_writtenChars_of_isDigit {c : Char} (digit : isDigit c = true) : c ∈ writtenChars := by
  have every : forall value : Fin 10, value.val.digitChar ∈ writtenChars := by decide
  rw [<- digitChar_digitValue digit]
  exact every ⟨digitValue c, digitValue_lt digit⟩

theorem mem_writtenChars_of_mem_toDigits {value : Nat} {c : Char} (member : c ∈ Nat.toDigits 10 value) :
    c ∈ writtenChars :=
  mem_writtenChars_of_isDigit (isDigit_of_mem_toDigits member)

theorem mem_numeralChars_of_written {c : Char} (written : c ∈ writtenChars) : c ∈ numeralChars :=
  List.mem_cons_of_mem _ (List.mem_cons_of_mem _ (List.mem_cons_of_mem _ written))

theorem mem_numeralChars_of_isDigit {c : Char} (digit : isDigit c = true) : c ∈ numeralChars :=
  mem_numeralChars_of_written (mem_writtenChars_of_isDigit digit)

theorem toList_toString_ofNat (value : Nat) : (toString (Int.ofNat value)).toList = Nat.toDigits 10 value :=
  String.toList_ofList

theorem toList_toString_negSucc (value : Nat) :
    (toString (Int.negSucc value)).toList = '-' :: Nat.toDigits 10 (value + 1) := by
  have split : toString (Int.negSucc value) = "-" ++ String.ofList (Nat.toDigits 10 (value + 1)) := rfl
  rw [split, String.toList_append, String.toList_ofList (l := Nat.toDigits _ _)]
  rfl

theorem mem_writtenChars_of_mem_toString {number : Int} {c : Char} (member : c ∈ (toString number).toList) :
    c ∈ writtenChars := by
  cases number with
  | ofNat value =>
    rw [toList_toString_ofNat] at member
    exact mem_writtenChars_of_mem_toDigits member
  | negSucc value =>
    rw [toList_toString_negSucc] at member
    rcases List.mem_cons.1 member with rfl | digit
    next => decide
    next => exact mem_writtenChars_of_mem_toDigits digit

theorem mem_writtenChars_of_mem_positional {decimal : Scientific} {c : Char} (member : c ∈ positional decimal) :
    c ∈ writtenChars := by
  have padded (count : Nat) {c : Char} (member : c ∈ zeros count \/ c ∈ decimalDigits decimal.digits) :
      c ∈ writtenChars := by
    rcases member with zero | digit
    next =>
      rw [(List.mem_replicate.1 zero).2]
      decide
    next => exact mem_writtenChars_of_mem_toDigits digit
  simp only [positional] at member
  split at member
  next => exact padded _ (List.mem_append.1 member).symm
  next =>
    split at member
    next => exact padded _ (List.mem_append.1 (List.mem_of_mem_take member))
    next =>
      rcases List.mem_append.1 member with whole | fraction
      next => exact padded _ (List.mem_append.1 (List.mem_of_mem_take whole))
      next =>
        rcases List.mem_cons.1 fraction with rfl | behind
        next => decide
        next =>
          have kept := (List.dropWhile_sublist _).mem (List.mem_reverse.1 behind)
          exact padded _ (List.mem_append.1 (List.mem_of_mem_drop (List.mem_reverse.1 kept)))

theorem Double.text_cases (number : Double) : number.text ∈ ["NaN", "inf", "-inf"] \/
    forall c, c ∈ number.text.toList -> c ∈ writtenChars := by
  cases number with
  | nan => exact .inl (by decide)
  | infinite negative => cases negative <;> exact .inl (by decide)
  | finite negative mantissa exponent =>
    refine .inr fun c member => ?_
    have sign {chars : List Char} (rest : forall c, c ∈ chars -> c ∈ writtenChars)
        (member : c ∈ (if negative = true then ['-'] else []) ++ chars) : c ∈ writtenChars := by
      rcases List.mem_append.1 member with minus | inside
      next =>
        split at minus
        next =>
          rw [List.mem_singleton.1 minus]
          decide
        next => cases minus
      next => exact rest c inside
    simp only [text] at member
    split at member <;> rw [String.toList_ofList] at member
    next => exact sign (List.forall_mem_singleton.2 (by decide)) member
    next => exact sign (fun _ => mem_writtenChars_of_mem_positional) member

theorem splitSign_of_digits {chars : List Char} (digits : forall c, c ∈ chars -> isDigit c = true) :
    splitSign chars = (false, chars) := by
  rw [splitSign.eq_def]
  split
  next => exact absurd (digits '+' List.mem_cons_self) (by decide)
  next => exact absurd (digits '-' List.mem_cons_self) (by decide)
  next => rfl

theorem signed?_of_splitSign {text : String} {negative : Bool} {digits : List Char} {value : Nat} {number : Int}
    (split : splitSign text.toList = (negative, digits)) (read : wholeNumber? digits = some value)
    (signed : (if negative = true then -(value : Int) else value) = number) (small : isSigned64 number = true) :
    signed? text = some number := by
  rw [signed?, split]
  simp only [read, Option.bind_some, signed, small, if_true]

theorem signed?_toString {number : Int} (small : isSigned64 number = true) :
    signed? (toString number) = some number := by
  cases number with
  | ofNat value =>
    have split : splitSign (toString (Int.ofNat value)).toList = (false, Nat.toDigits 10 value) := by
      rw [toList_toString_ofNat, splitSign_of_digits fun _ => isDigit_of_mem_toDigits]
    exact signed?_of_splitSign split (wholeNumber?_toDigits value) rfl small
  | negSucc value =>
    have split : splitSign (toString (Int.negSucc value)).toList = (true, Nat.toDigits 10 (value + 1)) := by
      rw [toList_toString_negSucc, splitSign]
    exact signed?_of_splitSign split (wholeNumber?_toDigits (value + 1)) rfl small

theorem eq_of_splitSign {chars rest : List Char} {negative : Bool} (split : splitSign chars = (negative, rest)) :
    chars = rest \/ chars = '+' :: rest \/ chars = '-' :: rest := by
  rw [splitSign.eq_def] at split
  split at split <;> cases split
  next => exact .inr (.inl rfl)
  next => exact .inr (.inr rfl)
  next => exact .inl rfl

theorem numeral_of_splitSign {chars rest : List Char} {negative : Bool} (split : splitSign chars = (negative, rest))
    (numeral : forall c, c ∈ rest -> c ∈ numeralChars) : forall c, c ∈ chars -> c ∈ numeralChars := by
  have signs : '+' ∈ numeralChars /\ '-' ∈ numeralChars := by decide
  rcases eq_of_splitSign split with rfl | rfl | rfl
  next => exact numeral
  next => exact List.forall_mem_cons.2 ⟨signs.1, numeral⟩
  next => exact List.forall_mem_cons.2 ⟨signs.2, numeral⟩

theorem numeral_of_wholeNumber? {chars : List Char} {value : Nat} (read : wholeNumber? chars = some value) :
    forall c, c ∈ chars -> c ∈ numeralChars := fun c member =>
  mem_numeralChars_of_isDigit ((wholeNumber?_eq_some_iff.1 read).2.1 c member)

theorem numeral_of_signed? {text : String} {number : Int} (read : signed? text = some number) :
    isSigned64 number = true /\ forall c, c ∈ text.toList -> c ∈ numeralChars := by
  obtain ⟨value, whole, small⟩ := Option.bind_eq_some_iff.1 read
  simp only [Option.ite_none_right_eq_some, Option.some.injEq] at small
  obtain ⟨small, rfl⟩ := small
  exact ⟨small, numeral_of_splitSign rfl (numeral_of_wholeNumber? whole)⟩

theorem numeral_of_exponent? {chars : List Char} {exponent : Int} (read : exponent? chars = some exponent) :
    forall c, c ∈ chars -> c ∈ numeralChars := by
  have letters : 'e' ∈ numeralChars /\ 'E' ∈ numeralChars := by decide
  cases chars with
  | nil => simp
  | cons first rest =>
    simp only [exponent?, Option.ite_none_right_eq_some, Option.map_eq_some_iff] at read
    obtain ⟨letter, _, read, -⟩ := read
    obtain ⟨value, whole, -⟩ := Option.bind_eq_some_iff.1 read
    refine List.forall_mem_cons.2 ⟨?_, numeral_of_splitSign rfl (numeral_of_wholeNumber? whole)⟩
    simp only [Bool.or_eq_true, decide_eq_true_eq] at letter
    rcases letter with rfl | rfl
    next => exact letters.1
    next => exact letters.2

theorem numeral_of_dropWhile {chars : List Char}
    (numeral : forall c, c ∈ chars.dropWhile isDigit -> c ∈ numeralChars) :
    forall c, c ∈ chars -> c ∈ numeralChars := by
  intro c member
  rw [<- List.takeWhile_append_dropWhile (p := isDigit) (l := chars)] at member
  rcases List.mem_append.1 member with digit | behind
  next => exact mem_numeralChars_of_isDigit (List.all_eq_true.1 List.all_takeWhile c digit)
  next => exact numeral c behind

theorem numeral_of_decimal? {chars : List Char} {value : Nat × Int} (read : decimal? chars = some value) :
    forall c, c ∈ chars -> c ∈ numeralChars := by
  have point : '.' ∈ numeralChars := by decide
  apply numeral_of_dropWhile
  simp only [decimal?, Option.ite_none_left_eq_some, Option.map_eq_some_iff] at read
  obtain ⟨-, exponent, read, -⟩ := read
  split at read
  next rest behind =>
    rw [behind]
    exact List.forall_mem_cons.2 ⟨point, numeral_of_dropWhile (numeral_of_exponent? read)⟩
  next => exact numeral_of_exponent? read

end VideoRelay.Decimal

namespace VideoRelay.Settings

open Decimal

theorem numeral_of_double? {text : String} {number : Double} (read : double? text = some number) :
    lowerCase text ∈ numberWords \/ forall c, c ∈ text.toList -> c ∈ numeralChars := by
  have words : forall sign, sign ∈ [[], ['+'], ['-']] -> sign.map Char.toLower = sign /\
      forall word, word ∈ ["inf", "infinity", "nan"] -> String.ofList (sign ++ word.toList) ∈ numberWords := by decide
  obtain ⟨sign, signed, split⟩ : exists sign, sign ∈ [[], ['+'], ['-']] /\
      text.toList = sign ++ (splitSign text.toList).2 := by
    rcases eq_of_splitSign (rfl : splitSign text.toList = _) with none | plus | minus
    next => exact ⟨[], by decide, none⟩
    next => exact ⟨['+'], by decide, plus⟩
    next => exact ⟨['-'], by decide, minus⟩
  have named {word : String} (among : word ∈ ["inf", "infinity", "nan"])
      (same : String.ofList ((splitSign text.toList).2.map Char.toLower) = word) : lowerCase text ∈ numberWords := by
    obtain ⟨lower, spelled⟩ := words sign signed
    subst same
    have known := spelled _ among
    rw [String.toList_ofList] at known
    rwa [lowerCase, split, List.map_append, lower]
  simp only [double?] at read
  split at read
  next word =>
    simp only [Bool.or_eq_true, decide_eq_true_eq] at word
    rcases word with inf | infinity
    next => exact .inl (named (by decide) inf)
    next => exact .inl (named (by decide) infinity)
  next =>
    split at read
    next nan => exact .inl (named (by decide) nan)
    next =>
      obtain ⟨value, decimal, -⟩ := Option.map_eq_some_iff.1 read
      exact .inr (numeral_of_splitSign rfl (numeral_of_decimal? decimal))

theorem plain_of_numeral {text : String} (numeral : forall c, c ∈ text.toList -> c ∈ numeralChars) :
    lowerCase text ≠ "true" /\ lowerCase text ≠ "false" := by
  have lower (c : Char) (member : c ∈ (lowerCase text).toList) : c ∈ numeralChars.map Char.toLower := by
    rw [lowerCase, String.toList_ofList] at member
    obtain ⟨given, among, rfl⟩ := List.mem_map.1 member
    exact List.mem_map_of_mem (numeral given among)
  constructor
  next =>
    intro same
    exact absurd (lower 't' (by simp [same])) (by decide)
  next =>
    intro same
    exact absurd (lower 'f' (by simp [same])) (by decide)

/-- What a value is taken for: a truth word in any case, else a whole number of 64 bits, else another number, else the
text that it is. -/
inductive Guess (value : String) : Scalar -> Prop where
  | truth {truth : Bool} (word : lowerCase value = if truth then "true" else "false") : Guess value (.bool truth)
  | integer {number : Int} (read : signed? value = some number) : Guess value (.integer number)
  | double {number : Double} (whole : signed? value = none) (read : double? value = some number) :
      Guess value (.double number)
  | text (plain : lowerCase value ≠ "true" /\ lowerCase value ≠ "false") (whole : signed? value = none)
      (number : double? value = none) : Guess value (.text value)

theorem guess_variableScalar (value : String) : Guess value (variableScalar value) := by
  rw [variableScalar.eq_def]
  simp only
  split
  next word => exact .truth word
  next other =>
    split
    next word => exact .truth word
    next another =>
      split
      next number read => exact .integer read
      next whole =>
        split
        next number read => exact .double whole read
        next none => exact .text ⟨other, another⟩ whole none

theorem variableScalar_of_plain {value : String} (plain : lowerCase value ≠ "true" /\ lowerCase value ≠ "false") :
    variableScalar value =
      ((signed? value).map .integer).getD (((double? value).map .double).getD (.text value)) := by
  rw [lowerCase] at plain
  rw [variableScalar.eq_def]
  simp only [plain.1, plain.2, if_false]
  cases signed? value with
  | some => rfl
  | none => cases double? value <;> rfl

theorem variableScalar_of_guess {value : String} {scalar : Scalar} (guess : Guess value scalar) :
    variableScalar value = scalar := by
  have unsaid : "true" ∉ numberWords /\ "false" ∉ numberWords := by decide
  cases guess with
  | @truth truth word =>
    rw [lowerCase] at word
    rw [variableScalar.eq_def, word]
    cases truth <;> rfl
  | integer read =>
    rw [variableScalar_of_plain (plain_of_numeral (numeral_of_signed? read).2), read]
    rfl
  | double whole read =>
    have plain : lowerCase value ≠ "true" /\ lowerCase value ≠ "false" := by
      rcases numeral_of_double? read with word | numeral
      next => exact ⟨fun same => unsaid.1 (same ▸ word), fun same => unsaid.2 (same ▸ word)⟩
      next => exact plain_of_numeral numeral
    rw [variableScalar_of_plain plain, whole, read]
    rfl
  | text plain whole number =>
    rw [variableScalar_of_plain plain, whole, number]
    rfl

def variableText (value : String) : String :=
  match variableScalar value with
  | .bool truth => if truth then "true" else "false"
  | .integer number => toString number
  | .double number => number.text
  | .text _ | .null => value

/-- The values that are shown as they were given: the truth words in lower case, the decimals of whole numbers of 64
bits, the shortest forms of other numbers, and what is neither truth word nor number. -/
inductive IsKept (value : String) : Prop where
  | truth (word : value = "true" \/ value = "false")
  | integer {number : Int} (small : isSigned64 number = true) (decimal : toString number = value)
  | double {number : Double} (whole : signed? value = none) (read : double? value = some number)
      (shortest : number.text = value)
  | text (plain : lowerCase value ≠ "true" /\ lowerCase value ≠ "false") (whole : signed? value = none)
      (number : double? value = none)

theorem variableText_eq_iff_isKept (value : String) : variableText value = value <-> IsKept value := by
  constructor
  next =>
    intro same
    have guess := guess_variableScalar value
    rw [variableText] at same
    generalize variableScalar value = scalar at guess same
    cases guess with
    | @truth truth =>
      cases truth
      next => exact .truth (.inr same.symm)
      next => exact .truth (.inl same.symm)
    | integer read => exact .integer (numeral_of_signed? read).1 same
    | double whole read => exact .double whole read same
    | text plain whole number => exact .text plain whole number
  next =>
    intro kept
    cases kept with
    | truth word => rcases word with rfl | rfl <;> decide
    | integer small decimal =>
      subst decimal
      rw [variableText, variableScalar_of_guess (.integer (signed?_toString small))]
    | double whole read shortest =>
      rw [variableText, variableScalar_of_guess (.double whole read)]
      exact shortest
    | text plain whole number => rw [variableText, variableScalar_of_guess (.text plain whole number)]

def guessedWords : List String := "true" :: "false" :: numberWords

theorem isKept_of_foreign {value : String} {c : Char} (member : c ∈ value.toList) (foreign : c ∉ numeralChars)
    (unsaid : lowerCase value ∉ guessedWords) : IsKept value := by
  simp only [guessedWords, List.mem_cons, not_or] at unsaid
  obtain ⟨yes, no, unnumbered⟩ := unsaid
  have fraction : signed? value = none :=
    Option.eq_none_iff_forall_ne_some.2 fun _ read => foreign ((numeral_of_signed? read).2 c member)
  have number : double? value = none := Option.eq_none_iff_forall_ne_some.2 fun _ read =>
    (numeral_of_double? read).elim unnumbered fun numeral => foreign (numeral c member)
  exact .text ⟨yes, no⟩ fraction number

theorem variableText_cases (value : String) : IsKept value \/
    variableText value ∈ ["true", "false", "NaN", "inf", "-inf"] \/
    forall c, c ∈ (variableText value).toList -> c ∈ writtenChars := by
  have guess := guess_variableScalar value
  rw [variableText]
  generalize variableScalar value = scalar at guess
  cases guess with
  | @truth truth => cases truth <;> exact .inr (.inl (by simp))
  | integer => exact .inr (.inr fun _ => mem_writtenChars_of_mem_toString)
  | @double number =>
    refine .inr (number.text_cases.imp_left fun word => ?_)
    exact List.mem_cons_of_mem _ (List.mem_cons_of_mem _ word)
  | text plain whole number => exact .inl (.text plain whole number)

theorem lowerCase_of_written {text : String} (written : forall c, c ∈ text.toList -> c ∈ writtenChars) :
    lowerCase text = text := by
  have every : writtenChars.all (fun c => c.toLower == c) = true := by decide
  have same : text.toList.map Char.toLower = text.toList.map id :=
    List.map_congr_left fun c member => eq_of_beq (List.all_eq_true.1 every c (written c member))
  rw [lowerCase, same, List.map_id, String.ofList_toList]

end VideoRelay.Settings
