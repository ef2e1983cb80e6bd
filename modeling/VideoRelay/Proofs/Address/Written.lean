import Mathlib.Data.List.TakeWhile
import VideoRelay.Proofs.Address.Numeric

set_option autoImplicit false

namespace VideoRelay

namespace Ipv4

theorem number?_toDigits (byte : UInt8) : number? (Nat.toDigits 10 byte.toNat) = some byte.toNat := by
  have every : forall value : Fin 256, number? (Nat.toDigits 10 value.val) = some value.val := by decide +kernel
  exact every byte.toFin

theorem parts_chars (address : Ipv4) :
    parts address.chars = address.bytes.map fun byte => Nat.toDigits 10 byte.toNat := by
  rw [parts, pieces_chars]
  exact if_neg (by simp [bytes, Nat.toDigits_ne_nil])

theorem ofNumbers?_bytes (address : Ipv4) : ofNumbers? (address.bytes.map UInt8.toNat) = some address := by
  obtain ⟨first, second, third, fourth⟩ := address
  have first_lt := first.toNat_lt
  have second_lt := second.toNat_lt
  have third_lt := third.toNat_lt
  have fourth_lt := fourth.toNat_lt
  have bytes : ofNumbers? [first.toNat, second.toNat, third.toNat, fourth.toNat] = some (ofValue
      ((256 * (256 * (256 * 0 + first.toNat) + second.toNat) + third.toNat) * 256 + fourth.toNat)) :=
    if_neg (by simp [weight]; omega)
  refine bytes.trans (congrArg some ?_)
  rw [ofValue, Ipv4.mk.injEq]
  refine ⟨?_, ?_, ?_, ?_⟩
  all_goals
    rw [<- UInt8.toNat_inj, UInt8.toNat_ofNat']
    omega

theorem parse?_chars (address : Ipv4) : parse? address.chars = some address := by
  have numbers : (parts address.chars).mapM number? = some (address.bytes.map UInt8.toNat) := by
    rw [mapM_eq_some_iff, parts_chars, List.map_map, List.map_map]
    exact List.map_congr_left fun byte _ => number?_toDigits byte
  rw [parse?, numbers, Option.bind_some, ofNumbers?_bytes]

theorem endsInNumber_chars (address : Ipv4) : endsInNumber address.chars = true := by
  have last : (parts address.chars).getLast? = some (Nat.toDigits 10 address.fourth.toNat) := by
    rw [parts_chars]
    rfl
  have digits : (Nat.toDigits 10 address.fourth.toNat).all Decimal.isDigit = true :=
    List.all_eq_true.2 fun _ member => Decimal.isDigit_of_mem_toDigits member
  rw [endsInNumber, last]
  split
  next none => cases none
  next empty => exact absurd (Option.some.inj empty) Nat.toDigits_ne_nil
  next other same =>
    obtain rfl := Option.some.inj same
    rw [digits, Bool.true_or]

theorem digitsValue?_snoc (radix : Nat) (digits : List Char) (c : Char) :
    digitsValue? radix (digits ++ [c]) = (digitsValue? radix digits).bind fun value =>
      (digitValue? radix c).map fun digit => radix * value + digit := by
  simp only [digitsValue?, List.mapM_append]
  cases digits.mapM (digitValue? radix) with
  | none => rfl
  | some values => cases found : digitValue? radix c <;> simp [found]

theorem digitsValue?_hexChars (value : Nat) : digitsValue? 16 (Text.hexChars value) = some value := by
  have digit : forall value : Fin 16, digitValue? 16 (Text.hexDigit value.val) = some value.val := by decide
  fun_induction Text.hexChars value with
  | case1 value small => simp [digitsValue?, digit ⟨value, small⟩]
  | case2 value large ih =>
    rw [digitsValue?_snoc, ih, Option.bind_some, digit ⟨value % 16, Nat.mod_lt _ (by decide)⟩, Option.map_some,
      Nat.div_add_mod]

end Ipv4

namespace Ipv6

def hexText (piece : UInt16) : List Char :=
  Text.hexChars piece.toNat

theorem hexText_ne_nil (piece : UInt16) : hexText piece ≠ [] := by
  rw [hexText, Text.hexChars]
  split <;> simp

theorem not_mem_hexText (piece : UInt16) : ':' ∉ hexText piece /\ '.' ∉ hexText piece := by
  have every : forall digit : Fin 16, Text.hexDigit digit.val ≠ ':' /\ Text.hexDigit digit.val ≠ '.' := by decide
  constructor
  all_goals
    intro member
    obtain ⟨digit, small, same⟩ := Text.hexDigit_of_mem_hexChars member
  next => exact (every ⟨digit, small⟩).1 same.symm
  next => exact (every ⟨digit, small⟩).2 same.symm

theorem piece?_hexText (piece : UInt16) : piece? (hexText piece) = some piece := by
  have short : (hexText piece).length <= 4 := Text.length_hexChars_le (by decide) piece.toNat_lt
  rw [piece?, if_neg (by simp [hexText_ne_nil, short]), hexText, Ipv4.digitsValue?_hexChars, Option.map_some,
    UInt16.ofNat_toNat]

theorem pieces?_hexText (last : Bool) (pieces : List UInt16) : pieces? last (pieces.map hexText) = some pieces := by
  induction pieces with
  | nil => rfl
  | cons piece rest ih =>
    cases rest with
    | nil => simp [pieces?, not_mem_hexText, piece?_hexText]
    | cons second others =>
      simp only [List.map_cons] at ih
      simp [pieces?, piece?_hexText, ih]

theorem split_piecesText {pieces : List UInt16} (filled : pieces ≠ []) :
    Text.pieces ':' (piecesText pieces) = pieces.map hexText := by
  refine Text.pieces_joined (by simpa using filled) fun part member => ?_
  obtain ⟨piece, -, rfl⟩ := List.mem_map.1 member
  exact (not_mem_hexText piece).1

theorem exists_joined_cons (first : Char) (part : List Char) (rest : List (List Char)) :
    exists behind, Text.joined [':'] ((first :: part) :: rest) = first :: behind := by
  cases rest with
  | nil => exact ⟨part, rfl⟩
  | cons second others => exact ⟨_, rfl⟩

theorem side?_piecesText (last : Bool) (pieces : List UInt16) : side? last (piecesText pieces) = some pieces := by
  cases pieces with
  | nil => rfl
  | cons piece rest =>
    obtain ⟨first, digits, hex⟩ := List.exists_cons_of_ne_nil (hexText_ne_nil piece)
    obtain ⟨behind, text⟩ := exists_joined_cons first digits (rest.map hexText)
    have filled : piecesText (piece :: rest) = first :: behind := by
      rw [<- text, <- hex]
      rfl
    rw [side?, if_neg (by simp [filled]), split_piecesText (List.cons_ne_nil _ _), pieces?_hexText]

theorem splitGap_cons {first : Char} (plain : first ≠ ':') (rest : List Char) :
    splitGap (first :: rest) = (splitGap rest).map fun sides => (first :: sides.1, sides.2) := by
  rw [splitGap.eq_def]
  split
  next same => exact absurd (List.cons.inj same).1 plain
  next same =>
    cases same
    rfl
  next none => cases none

theorem splitGap_colon {second : Char} (plain : second ≠ ':') (rest : List Char) :
    splitGap (':' :: second :: rest) = (splitGap (second :: rest)).map fun sides => (':' :: sides.1, sides.2) := by
  rw [splitGap.eq_def]
  split
  next same => exact absurd (List.cons.inj (List.cons.inj same).2).1 plain
  next same =>
    cases same
    rfl
  next none => cases none

theorem splitGap_append {part : List Char} (plain : ':' ∉ part) (rest : List Char) :
    splitGap (part ++ rest) = (splitGap rest).map fun sides => (part ++ sides.1, sides.2) := by
  induction part with
  | nil => simp
  | cons first part ih =>
    simp only [List.mem_cons, not_or] at plain
    rw [List.cons_append, splitGap_cons (Ne.symm plain.1), ih plain.2, Option.map_map]
    rfl

theorem splitGap_joined {parts : List (List Char)} (plain : forall part, part ∈ parts -> part ≠ [] /\ ':' ∉ part)
    (tail : List Char) : splitGap (Text.joined [':'] parts ++ tail) =
      (splitGap tail).map fun sides => (Text.joined [':'] parts ++ sides.1, sides.2) := by
  induction parts with
  | nil => simp [Text.joined]
  | cons part rest ih =>
    have first := (plain part List.mem_cons_self).2
    cases rest with
    | nil => exact splitGap_append first tail
    | cons second rest =>
      have others := ih fun part member => plain part (List.mem_cons_of_mem _ member)
      obtain ⟨filled, solid⟩ := plain second (by simp)
      obtain ⟨digit, digits, rfl⟩ := List.exists_cons_of_ne_nil filled
      obtain ⟨behind, text⟩ := exists_joined_cons digit digits rest
      -- The colon behind a part is followed by the next part, so it is not the first of two.
      have single : digit ≠ ':' := fun same => solid (same ▸ List.mem_cons_self)
      rw [text, List.cons_append] at others
      rw [Text.joined_cons _ _ (List.cons_ne_nil _ _), text, List.append_assoc, List.append_assoc,
        splitGap_append first, List.singleton_append, List.cons_append, splitGap_colon single, others, Option.map_map,
        Option.map_map]
      congr 1
      funext sides
      simp

theorem takeWhile_zeros (pieces : List UInt16) : pieces.takeWhile (· = 0) = List.replicate (zeroRun pieces) 0 :=
  List.eq_replicate_of_mem fun piece member => by simpa using List.mem_takeWhile_imp member

theorem splitGap_piecesText (pieces : List UInt16) (tail : List Char) : splitGap (piecesText pieces ++ tail) =
    (splitGap tail).map fun sides => (piecesText pieces ++ sides.1, sides.2) := by
  refine splitGap_joined (fun part member => ?_) tail
  obtain ⟨piece, -, rfl⟩ := List.mem_map.1 member
  exact ⟨hexText_ne_nil piece, (not_mem_hexText piece).1⟩

theorem longestZeros_run (start : Nat) (pieces : List UInt16) : exists front length back,
    pieces = front ++ (List.replicate length 0 ++ back) /\
      longestZeros start pieces = (start + front.length, length) := by
  induction pieces generalizing start with
  | nil => exact ⟨[], 0, [], rfl, rfl⟩
  | cons piece rest ih =>
    simp only [longestZeros]
    split
    next =>
      refine ⟨[], zeroRun (piece :: rest), (piece :: rest).dropWhile (· = 0), ?_, rfl⟩
      rw [List.nil_append, <- takeWhile_zeros, List.takeWhile_append_dropWhile]
    next =>
      obtain ⟨front, length, back, split, place⟩ := ih (start + 1)
      refine ⟨piece :: front, length, back, congrArg (piece :: ·) split, ?_⟩
      rw [place, List.length_cons, Nat.add_right_comm, Nat.add_assoc]

theorem parse?_chars (address : Ipv6) : parse? address.chars = some address := by
  have made : ofPieces? address.pieces = some address := dif_pos address.length_pieces
  have count := address.length_pieces
  obtain ⟨front, length, back, pieces, run⟩ := longestZeros_run 0 address.pieces
  simp only [chars, run, Nat.zero_add]
  split
  next =>
    have whole : splitGap (piecesText address.pieces) = none := by
      rw [<- List.append_nil (piecesText address.pieces), splitGap_piecesText]
      rfl
    rw [parse?, whole]
    simp only
    rw [split_piecesText (List.ne_nil_of_length_eq_add_one count), pieces?_hexText, Option.bind_some, made]
  next long =>
    have before : address.pieces.take front.length = front := by
      rw [pieces, List.take_left]
    have behind : address.pieces.drop (front.length + length) = back := by
      rw [pieces, List.drop_append, <- List.drop_drop]
      simp
    have gap : splitGap (piecesText front ++ [':', ':'] ++ piecesText back) =
        some (piecesText front, piecesText back) := by
      rw [List.append_assoc, splitGap_piecesText]
      simp [splitGap]
    -- Both sides have six pieces at most, and as many zeros come back as were left out.
    rw [pieces] at count
    simp only [List.length_append, List.length_replicate] at count
    have left : 8 - front.length - back.length = length := by omega
    rw [before, behind, parse?, gap]
    simp only
    rw [side?_piecesText, side?_piecesText]
    simp only
    rw [if_neg (by omega), left, List.append_assoc, <- pieces, made]

end Ipv6

end VideoRelay
