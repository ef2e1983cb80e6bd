import VideoRelay.Document.Json
import Mathlib.Data.List.Nodup

set_option autoImplicit false

namespace VideoRelay.Document

open Text

def spelled (c : Char) (read : Option (List Char × List Char)) : Option (List Char × List Char) :=
  read.map fun (text, rest) => (c :: text, rest)

theorem readText_simple {letter c : Char} (escape : simpleEscape? letter = some c) (rest : List Char) :
    readText ('\\' :: letter :: rest) = spelled c (readText rest) := by
  have other : letter ≠ 'u' := by rintro rfl; cases escape
  rw [readText]
  next => simp [escape, spelled]
  all_goals
    intros
    contradiction

theorem readText_unicode {a b c d : Char} {unit : Nat} (known : hexNat? [a, b, c, d] = some unit)
    (high : isHighSurrogate unit = false) (low : isLowSurrogate unit = false) (rest : List Char) :
    readText ('\\' :: 'u' :: a :: b :: c :: d :: rest) = spelled (Char.ofNat unit) (readText rest) := by
  -- What follows may be a second escape of this kind, which is looked at together with the first.
  by_cases followed : exists e f g h more, rest = '\\' :: 'u' :: e :: f :: g :: h :: more
  next =>
    obtain ⟨e, f, g, h, more, rfl⟩ := followed
    rw [readText, known]
    cases second : hexNat? [e, f, g, h] with
    | some second => simp [high, low, spelled]
    | none =>
      have unread : readText ('\\' :: 'u' :: e :: f :: g :: h :: more) = none := by
        unfold readText
        split <;> grind
      simp [unread, spelled]
  next =>
    rw [readText]
    next => simp [known, high, low, spelled]
    next =>
      rintro e f g h more rfl
      exact followed ⟨e, f, g, h, more, rfl⟩

theorem hexNat?_control (value : Fin 32) :
    hexNat? ['0', '0', hexDigit (value / 16), hexDigit (value % 16)] = some value.val := by
  revert value
  decide

theorem readText_jsonChar (c : Char) (rest : List Char) :
    readText (jsonChar c ++ rest) = spelled c (readText rest) := by
  have same {value : Nat} (code : c.toNat = value) : Char.ofNat value = c := by rw [← code, Char.ofNat_toNat]
  unfold jsonChar
  split_ifs with quote backslash newline carriage tab backspace feed control
  next => subst quote; exact readText_simple rfl rest
  next => subst backslash; exact readText_simple rfl rest
  next => subst newline; exact readText_simple rfl rest
  next => subst carriage; exact readText_simple rfl rest
  next => subst tab; exact readText_simple rfl rest
  next => exact readText_simple (by rw [← same backspace]; rfl) rest
  next => exact readText_simple (by rw [← same feed]; rfl) rest
  next =>
    have plain : isHighSurrogate c.toNat = false /\ isLowSurrogate c.toNat = false := by
      simp [isHighSurrogate, isLowSurrogate]
      omega
    have read := readText_unicode (hexNat?_control ⟨c.toNat, control⟩) plain.1 plain.2 rest
    rwa [same rfl] at read
  next =>
    rw [List.singleton_append, readText]
    next => simp [control, backslash, spelled]
    all_goals
      intros
      simp_all

theorem readText_written (text rest : List Char) :
    readText (text.flatMap jsonChar ++ '"' :: rest) = some (text, rest) := by
  induction text with
  | nil => simp [readText]
  | cons c text ih => rw [List.flatMap_cons, List.append_assoc, readText_jsonChar, ih]; rfl

/-- Documents whose scalars are texts, with lists and tables at most `depth` deep in each other. -/
inductive Textual : Nat -> Document -> Prop
  | text {depth : Nat} (value : String) : Textual depth (text value)
  | list {depth : Nat} {items : List Document} (each : forall item, item ∈ items -> Textual depth item) :
    Textual (depth + 1) (list items)
  | table {depth : Nat} {entries : List (String × Document)} (distinct : (entries.map Prod.fst).Nodup)
    (each : forall entry, entry ∈ entries -> Textual depth entry.2) : Textual (depth + 1) (table entries)

def ReadsBack (depth : Nat) (document : Document) : Prop :=
  forall fuel rest, document.jsonChars.length <= fuel ->
    readValue fuel depth (document.jsonChars ++ rest) = some (document, rest)

theorem Textual.begins {depth : Nat} {document : Document} (textual : Textual depth document) :
    exists first rest, document.jsonChars = first :: rest /\ isJsonSpace first = false /\ first ≠ ']' := by
  cases textual with
  | text value => exact ⟨_, _, rfl, rfl, by decide⟩
  | list => exact ⟨_, _, rfl, rfl, by decide⟩
  | table => exact ⟨_, _, rfl, rfl, by decide⟩

theorem skipSpace_cons {first : Char} (solid : isJsonSpace first = false) (rest : List Char) :
    skipSpace (first :: rest) = first :: rest :=
  List.dropWhile_cons_of_neg (by simp [solid])

section Sequences

variable {fuel depth : Nat} {chars rest : List Char} {item : Document}

theorem readItems_last (read : readValue fuel depth chars = some (item, ']' :: rest)) :
    readItems (fuel + 1) depth chars = some ([item], rest) := by
  simp only [readItems, read, skipSpace_cons (show isJsonSpace ']' = false by decide)]

theorem readItems_more (read : readValue fuel depth chars = some (item, ',' :: rest)) :
    readItems (fuel + 1) depth chars = (readItems fuel depth rest).map fun (items, rest) => (item :: items, rest) := by
  simp only [readItems, read, skipSpace_cons (show isJsonSpace ',' = false by decide)]

theorem readItems_written {items : List Document} (filled : items ≠ [])
    (each : forall item, item ∈ items -> ReadsBack depth item) (enough : (jsonItems items).length < fuel) :
    readItems fuel depth (jsonItems items ++ ']' :: rest) = some (items, rest) := by
  induction items generalizing fuel with
  | nil => exact absurd rfl filled
  | cons item more ih =>
    obtain ⟨fuel, rfl⟩ : exists less, fuel = less + 1 := ⟨fuel - 1, by omega⟩
    have here := each item List.mem_cons_self
    cases more with
    | nil => exact readItems_last (here fuel _ (Nat.le_of_lt_succ enough))
    | cons next others =>
      simp only [jsonItems, List.length_append, List.length_cons] at enough
      have shorter : (jsonItems (next :: others)).length < fuel := by omega
      have later := ih (List.cons_ne_nil _ _) (fun item among => each item (List.mem_cons_of_mem _ among)) shorter
      have first := here fuel (',' :: (jsonItems (next :: others) ++ ']' :: rest)) (by omega)
      have written : jsonItems (item :: next :: others) ++ ']' :: rest =
          item.jsonChars ++ ',' :: (jsonItems (next :: others) ++ ']' :: rest) := by simp [jsonItems]
      rw [written, readItems_more first, later]
      rfl

theorem readFields_key {entries : List (String × Document)} (key : String) :
    readFields (fuel + 1) depth (jsonText key ++ ':' :: chars) entries =
      (readValue fuel depth chars).bind fun (value, rest) =>
        match skipSpace rest with
        | ',' :: rest => readFields fuel depth rest (put entries key value)
        | '\x7d' :: rest => some (put entries key value, rest)
        | _ => none := by
  have written : jsonText key ++ ':' :: chars = '"' :: (key.toList.flatMap jsonChar ++ '"' :: ':' :: chars) := by
    simp [jsonText]
  rw [written, readFields, skipSpace_cons (by decide)]
  simp only [readText_written, skipSpace_cons (show isJsonSpace ':' = false by decide), String.ofList_toList]
  cases readValue fuel depth chars <;> rfl

theorem put_fresh {V : Type} {entries : List (String × V)} {key : String} (fresh : key ∉ entries.map Prod.fst)
    (value : V) : put entries key value = entries ++ [(key, value)] := by
  induction entries with
  | nil => rfl
  | cons entry rest ih =>
    simp only [List.map_cons, List.mem_cons, not_or] at fresh
    simp [put, Ne.symm fresh.1, ih fresh.2]

theorem readFields_written {entries before : List (String × Document)} (filled : entries ≠ [])
    (distinct : ((before ++ entries).map Prod.fst).Nodup)
    (each : forall entry, entry ∈ entries -> ReadsBack depth entry.2) (enough : (jsonFields entries).length < fuel) :
    readFields fuel depth (jsonFields entries ++ '\x7d' :: rest) before = some (before ++ entries, rest) := by
  induction entries generalizing before fuel with
  | nil => exact absurd rfl filled
  | cons entry more ih =>
    obtain ⟨key, value⟩ := entry
    obtain ⟨fuel, rfl⟩ : exists less, fuel = less + 1 := ⟨fuel - 1, by omega⟩
    have here : ReadsBack depth value := each (key, value) List.mem_cons_self
    have fresh : key ∉ before.map Prod.fst := by
      rw [List.map_append, List.nodup_append] at distinct
      exact fun among => distinct.2.2 key among key (by simp) rfl
    cases more with
    | nil =>
      simp only [jsonFields, List.length_append, List.length_cons] at enough ⊢
      rw [List.append_assoc, List.cons_append, readFields_key, here fuel _ (by omega), Option.bind_some]
      simp only [skipSpace_cons (show isJsonSpace '\x7d' = false by decide), put_fresh fresh]
    | cons next others =>
      simp only [jsonFields, List.length_append, List.length_cons] at enough
      have shorter : (jsonFields (next :: others)).length < fuel := by omega
      have apart : ((before ++ [(key, value)] ++ next :: others).map Prod.fst).Nodup := by simpa using distinct
      have later := ih (List.cons_ne_nil _ _) apart (fun entry among => each entry (List.mem_cons_of_mem _ among))
        shorter
      have written : jsonFields ((key, value) :: next :: others) ++ '\x7d' :: rest = jsonText key ++
          ':' :: (value.jsonChars ++ ',' :: (jsonFields (next :: others) ++ '\x7d' :: rest)) := by simp [jsonFields]
      rw [written, readFields_key, here fuel _ (by omega), Option.bind_some]
      simp only [skipSpace_cons (show isJsonSpace ',' = false by decide), put_fresh fresh, later, List.append_assoc,
        List.singleton_append]

end Sequences

theorem jsonItems_begin {depth : Nat} {items : List Document} (filled : items ≠ [])
    (each : forall item, item ∈ items -> Textual depth item) :
    exists first rest, jsonItems items = first :: rest /\ isJsonSpace first = false /\ first ≠ ']' := by
  match items with
  | [] => exact absurd rfl filled
  | [item] => exact (each item List.mem_cons_self).begins
  | item :: next :: others =>
    obtain ⟨first, rest, written, solid, inside⟩ := (each item List.mem_cons_self).begins
    exact ⟨first, rest ++ ',' :: jsonItems (next :: others), by simp [jsonItems, written], solid, inside⟩

theorem jsonFields_begin {entries : List (String × Document)} (filled : entries ≠ []) :
    exists rest, jsonFields entries = '"' :: rest := by
  match entries with
  | [] => exact absurd rfl filled
  | [(key, value)] => exact ⟨_, rfl⟩
  | (key, value) :: next :: others => exact ⟨_, rfl⟩

theorem readsBack_text (depth : Nat) (value : String) : ReadsBack depth (text value) := by
  intro fuel rest enough
  have long : 0 < (text value).jsonChars.length := by simp [text, jsonChars, jsonScalar, jsonText]
  obtain ⟨fuel, rfl⟩ : exists less, fuel = less + 1 := ⟨fuel - 1, by omega⟩
  have written : (text value).jsonChars ++ rest = '"' :: (value.toList.flatMap jsonChar ++ '"' :: rest) := by
    simp [text, jsonChars, jsonScalar, jsonText]
  rw [written, readValue, skipSpace_cons (by decide)]
  simp [readScalar, readText_written]

theorem readsBack_list {depth : Nat} {items : List Document} (each : forall item, item ∈ items -> Textual depth item)
    (back : forall item, item ∈ items -> ReadsBack depth item) : ReadsBack (depth + 1) (list items) := by
  intro fuel rest enough
  simp only [jsonChars, List.length_append, List.length_cons, List.length_nil] at enough
  obtain ⟨fuel, rfl⟩ : exists less, fuel = less + 1 := ⟨fuel - 1, by omega⟩
  have written : (list items).jsonChars ++ rest = '[' :: (jsonItems items ++ ']' :: rest) := by simp [jsonChars]
  rw [written, readValue, skipSpace_cons (by decide)]
  by_cases filled : items = []
  next => subst filled; rfl
  next =>
    obtain ⟨first, more, begun, solid, inside⟩ := jsonItems_begin filled each
    have shorter : (jsonItems items).length < fuel := by omega
    have read : readItems fuel depth (jsonItems items ++ ']' :: rest) = some (items, rest) :=
      readItems_written filled back shorter
    rw [begun, List.cons_append] at read
    simp [begun, skipSpace_cons solid, inside, read]

theorem readsBack_table {depth : Nat} {entries : List (String × Document)} (distinct : (entries.map Prod.fst).Nodup)
    (back : forall entry, entry ∈ entries -> ReadsBack depth entry.2) : ReadsBack (depth + 1) (table entries) := by
  intro fuel rest enough
  simp only [jsonChars, List.length_append, List.length_cons, List.length_nil] at enough
  obtain ⟨fuel, rfl⟩ : exists less, fuel = less + 1 := ⟨fuel - 1, by omega⟩
  have written : (table entries).jsonChars ++ rest = '\x7b' :: (jsonFields entries ++ '\x7d' :: rest) := by
    simp [jsonChars]
  rw [written, readValue, skipSpace_cons (by decide)]
  by_cases filled : entries = []
  next => subst filled; rfl
  next =>
    obtain ⟨more, begun⟩ := jsonFields_begin filled
    have shorter : (jsonFields entries).length < fuel := by omega
    have read : readFields fuel depth (jsonFields entries ++ '\x7d' :: rest) [] = some (entries, rest) :=
      readFields_written filled distinct back shorter
    rw [begun, List.cons_append] at read
    simp [begun, skipSpace_cons (show isJsonSpace '"' = false by decide), read]

theorem Textual.readsBack {depth : Nat} {document : Document} (textual : Textual depth document) :
    ReadsBack depth document := by
  induction textual with
  | text value => exact readsBack_text _ value
  | list each ih => exact readsBack_list each ih
  | table distinct each ih => exact readsBack_table distinct ih

theorem ofJson?_toJson {document : Document} (textual : Textual maxDepth document) :
    ofJson? document.toJson = some document := by
  have read := textual.readsBack (2 * document.jsonChars.length + 2) [] (by omega)
  rw [List.append_nil] at read
  simp [ofJson?, toJson, read, skipSpace]

end VideoRelay.Document
