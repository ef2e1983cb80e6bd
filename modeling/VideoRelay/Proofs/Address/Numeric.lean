import VideoRelay.Address.Ipv6
import VideoRelay.Proofs.Decimal
import VideoRelay.Proofs.Except
import VideoRelay.Proofs.Split

set_option autoImplicit false

namespace VideoRelay

namespace Ipv4

theorem mem_chars {address : Ipv4} {c : Char} (member : c ∈ address.chars) : c = '.' \/ Decimal.isDigit c = true := by
  rcases Text.mem_of_mem_joined member with dot | ⟨part, among, inside⟩
  next => exact .inl (List.mem_singleton.1 dot)
  next =>
    obtain ⟨byte, -, rfl⟩ := List.mem_map.1 among
    exact .inr (Decimal.isDigit_of_mem_toDigits inside)

theorem length_toDigits_byte (byte : UInt8) : (Nat.toDigits 10 byte.toNat).length <= 3 :=
  (Nat.length_toDigits_le_iff (by decide) (by decide)).2 (Nat.lt_trans byte.toNat_lt (by decide))

theorem length_chars (address : Ipv4) : address.chars.length <= 16 := by
  apply Text.length_joined_le 3
  intro part member
  obtain ⟨byte, -, rfl⟩ := List.mem_map.1 member
  exact length_toDigits_byte byte

def byte? (part : List Char) : Option UInt8 :=
  if part.length = 1 || part.head? != some '0' then
    ((Decimal.wholeNumber? part).filter (· <= 255)).map UInt8.ofNat
  else none

theorem byte?_toDigits (byte : UInt8) : byte? (Nat.toDigits 10 byte.toNat) = some byte := by
  have every : forall value : Fin 256, byte? (Nat.toDigits 10 value.val) = some (UInt8.ofFin value) := by
    decide +kernel
  exact every byte.toFin

theorem toDigits_of_byte? {part : List Char} {byte : UInt8} (read : byte? part = some byte) :
    Nat.toDigits 10 byte.toNat = part := by
  rw [byte?] at read
  split at read
  next strict =>
    obtain ⟨value, found, rfl⟩ := Option.map_eq_some_iff.1 read
    obtain ⟨whole, small⟩ := Option.filter_eq_some_iff.1 found
    obtain ⟨nonempty, digits, rfl⟩ := Decimal.wholeNumber?_eq_some_iff.1 whole
    rw [UInt8.toNat_ofNat_of_lt' (Nat.lt_succ_of_le (of_decide_eq_true small))]
    cases part with
    | nil => exact absurd rfl nonempty
    | cons first rest =>
      by_cases zero : first = '0'
      next =>
        -- Strictness leaves the zero alone.
        subst zero
        simp at strict
        subst strict
        rfl
      next => exact Decimal.toDigits_digitsValue digits zero
  next => cases read

def ofBytes? : List UInt8 -> Option Ipv4
  | [first, second, third, fourth] => some { first, second, third, fourth }
  | _ => none

theorem ofBytes?_bytes (address : Ipv4) : ofBytes? address.bytes = some address := rfl

theorem bytes_of_ofBytes? {bytes : List UInt8} {address : Ipv4} (read : ofBytes? bytes = some address) :
    address.bytes = bytes := by
  match bytes with
  | [_, _, _, _] => cases read; rfl
  | [] | [_] | [_, _] | [_, _, _] | _ :: _ :: _ :: _ :: _ :: _ => cases read

theorem parseStrict?_eq_bind (text : List Char) :
    parseStrict? text = ((Text.pieces '.' text).mapM byte?).bind ofBytes? := by
  rw [parseStrict?]
  split
  next first second third fourth read =>
    -- What is read here with a local function is what `byte?` reads.
    rw [show (Text.pieces '.' text).mapM byte? = some [first, second, third, fourth] from read]
    rfl
  next other =>
    cases read : (Text.pieces '.' text).mapM byte? with
    | none => rfl
    | some bytes =>
      cases made : ofBytes? bytes with
      | none => exact made.symm
      | some address =>
        rw [<- bytes_of_ofBytes? made] at read
        exact (other _ _ _ _ read).elim

theorem pieces_chars (address : Ipv4) :
    Text.pieces '.' address.chars = address.bytes.map fun byte => Nat.toDigits 10 byte.toNat := by
  refine Text.pieces_joined (by simp [bytes]) fun part member dot => ?_
  obtain ⟨byte, -, rfl⟩ := List.mem_map.1 member
  exact absurd (Decimal.isDigit_of_mem_toDigits dot) (by decide)

theorem parseStrict?_eq_some_iff {text : List Char} {address : Ipv4} :
    parseStrict? text = some address <-> text = address.chars := by
  rw [parseStrict?_eq_bind, Option.bind_eq_some_iff]
  constructor
  next =>
    rintro ⟨bytes, read, made⟩
    have parts := eq_map_of_mapM (fun _ _ => toDigits_of_byte?) read
    rw [<- Text.joined_pieces '.' text, parts, <- bytes_of_ofBytes? made]
    rfl
  next =>
    rintro rfl
    rw [pieces_chars]
    refine ⟨address.bytes, ?_, ofBytes?_bytes address⟩
    rw [mapM_eq_some_iff, List.map_map]
    exact List.map_congr_left fun byte _ => byte?_toDigits byte

end Ipv4

namespace Text

theorem hexDigit_of_mem_hexChars {value : Nat} {c : Char} (member : c ∈ hexChars value) :
    exists digit, digit < 16 /\ c = hexDigit digit := by
  fun_induction hexChars value with
  | case1 value small => exact ⟨value, small, List.mem_singleton.1 member⟩
  | case2 value large ih =>
    rcases List.mem_append.1 member with front | last
    next => exact ih front
    next => exact ⟨value % 16, Nat.mod_lt _ (by decide), List.mem_singleton.1 last⟩

theorem length_hexChars_le {value size : Nat} (positive : 0 < size) (small : value < Nat.pow 16 size) :
    (hexChars value).length <= size := by
  fun_induction hexChars value generalizing size with
  | case1 => exact positive
  | case2 value large ih =>
    obtain _ | _ | size := size
    next => cases positive
    next => simp at small; omega
    next =>
      have power : Nat.pow 16 (size + 1 + 1) = 16 * Nat.pow 16 (size + 1) := Nat.pow_succ'
      have front : (hexChars (value / 16)).length <= size + 1 := ih (by omega) (by omega)
      simp only [List.length_append, List.length_singleton]
      omega

end Text

namespace Ipv6

theorem length_piecesText (pieces : List UInt16) : (piecesText pieces).length <= 5 * pieces.length := by
  have short (part : List Char) (member : part ∈ pieces.map fun piece => Text.hexChars piece.toNat) :
      part.length <= 4 := by
    obtain ⟨piece, -, rfl⟩ := List.mem_map.1 member
    exact Text.length_hexChars_le (by decide) piece.toNat_lt
  have bound : (piecesText pieces).length <= _ := Text.length_joined_le 4 short
  rwa [List.length_map] at bound

theorem length_chars (address : Ipv6) : address.chars.length <= 82 := by
  have count := address.length_pieces
  have bound := length_piecesText
  simp only [chars]
  split
  next => exact Nat.le_trans (bound _) (by omega)
  next =>
    have front := bound (address.pieces.take (longestZeros 0 address.pieces).1)
    have back := bound (address.pieces.drop
      ((longestZeros 0 address.pieces).1 + (longestZeros 0 address.pieces).2))
    rw [List.length_take] at front
    rw [List.length_drop] at back
    simp only [List.length_append, List.length_cons, List.length_nil]
    omega

theorem mem_piecesText {pieces : List UInt16} {c : Char} (member : c ∈ piecesText pieces) :
    c = ':' \/ exists digit, digit < 16 /\ c = Text.hexDigit digit := by
  rcases Text.mem_of_mem_joined member with colon | ⟨part, among, inside⟩
  next => exact .inl (List.mem_singleton.1 colon)
  next =>
    obtain ⟨piece, -, rfl⟩ := List.mem_map.1 among
    exact .inr (Text.hexDigit_of_mem_hexChars inside)

theorem mem_chars {address : Ipv6} {c : Char} (member : c ∈ address.chars) :
    c = ':' \/ exists digit, digit < 16 /\ c = Text.hexDigit digit := by
  simp only [chars] at member
  split at member
  next => exact mem_piecesText member
  next =>
    simp only [List.mem_append, List.mem_cons, List.not_mem_nil, or_false, or_self] at member
    rcases member with (front | colon) | back
    next => exact mem_piecesText front
    next => exact .inl colon
    next => exact mem_piecesText back

def IsAddressChar (c : Char) : Prop :=
  c = ':' \/ c = '.' \/ (Ipv4.digitValue? 16 c).isSome = true

instance (c : Char) : Decidable (IsAddressChar c) :=
  inferInstanceAs (Decidable (_ \/ _ \/ _))

theorem isAddressChar_of_isDigit {c : Char} (digit : Decimal.isDigit c = true) : IsAddressChar c := by
  simp only [Decimal.isDigit, Bool.and_eq_true, decide_eq_true_eq] at digit
  refine .inr (.inr ?_)
  simp only [Ipv4.digitValue?, digit.1, digit.2, decide_true, Bool.and_self, if_true]
  rw [if_pos (by omega)]
  rfl

theorem isAddressChar_of_piece? {text : List Char} {piece : UInt16} (read : piece? text = some piece) {c : Char}
    (member : c ∈ text) : IsAddressChar c := by
  rw [piece?] at read
  split at read
  next => cases read
  next =>
    obtain ⟨value, digits, -⟩ := Option.map_eq_some_iff.1 read
    obtain ⟨values, all, -⟩ := Option.map_eq_some_iff.1 digits
    exact .inr (.inr (isSome_of_mapM all c member))

theorem isAddressChar_of_pieces? {last : Bool} {texts : List (List Char)} {pieces : List UInt16}
    (read : pieces? last texts = some pieces) {text : List Char} (among : text ∈ texts) {c : Char}
    (member : c ∈ text) : IsAddressChar c := by
  fun_induction pieces? last texts generalizing pieces with
  | case1 => cases among
  | case2 single embedded =>
    obtain rfl := List.mem_singleton.1 among
    obtain ⟨address, strict, -⟩ := Option.map_eq_some_iff.1 read
    rw [Ipv4.parseStrict?_eq_some_iff.1 strict] at member
    rcases Ipv4.mem_chars member with dot | digit
    next => exact .inr (.inl dot)
    next => exact isAddressChar_of_isDigit digit
  | case3 single plain =>
    obtain rfl := List.mem_singleton.1 among
    obtain ⟨piece, found, -⟩ := Option.map_eq_some_iff.1 read
    exact isAddressChar_of_piece? found member
  | case4 first rest more ih =>
    obtain ⟨piece, found, read⟩ := Option.bind_eq_some_iff.1 read
    obtain ⟨others, behind, -⟩ := Option.map_eq_some_iff.1 read
    rcases List.mem_cons.1 among with rfl | later
    next => exact isAddressChar_of_piece? found member
    next => exact ih behind later

theorem isAddressChar_of_split {last : Bool} {text : List Char} {pieces : List UInt16}
    (read : pieces? last (Text.pieces ':' text) = some pieces) {c : Char} (member : c ∈ text) : IsAddressChar c := by
  rw [<- Text.joined_pieces ':' text] at member
  rcases Text.mem_of_mem_joined member with colon | ⟨part, among, inside⟩
  next => exact .inl (List.mem_singleton.1 colon)
  next => exact isAddressChar_of_pieces? read among inside

theorem isAddressChar_of_side? {last : Bool} {text : List Char} {pieces : List UInt16}
    (read : side? last text = some pieces) {c : Char} (member : c ∈ text) : IsAddressChar c := by
  rw [side?] at read
  split at read
  next empty =>
    rw [List.isEmpty_iff.1 empty] at member
    cases member
  next => exact isAddressChar_of_split read member

theorem append_of_splitGap {text before after : List Char} (found : splitGap text = some (before, after)) :
    text = before ++ ':' :: ':' :: after := by
  fun_induction splitGap text generalizing before with
  | case1 rest => cases found; rfl
  | case2 first rest other ih =>
    obtain ⟨⟨front, back⟩, inner, ⟨⟩⟩ := Option.map_eq_some_iff.1 found
    rw [ih inner]
    rfl
  | case3 => cases found

theorem isAddressChar_of_parse? {text : List Char} {address : Ipv6} (read : parse? text = some address) {c : Char}
    (member : c ∈ text) : IsAddressChar c := by
  rw [parse?] at read
  split at read
  next =>
    obtain ⟨pieces, found, -⟩ := Option.bind_eq_some_iff.1 read
    exact isAddressChar_of_split found member
  next before after gap =>
    rw [append_of_splitGap gap, List.mem_append, List.mem_cons, List.mem_cons] at member
    split at read
    next front back first second =>
      rcases member with front | rfl | rfl | back
      next => exact isAddressChar_of_side? first front
      next => exact .inl rfl
      next => exact .inl rfl
      next => exact isAddressChar_of_side? second back
    next => cases read

end Ipv6
end VideoRelay
