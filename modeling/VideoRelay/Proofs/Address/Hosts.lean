import VideoRelay.Proofs.Address
import VideoRelay.Proofs.Address.Written

set_option autoImplicit false

namespace VideoRelay

namespace Text

theorem forall_ascii {P : Char -> Prop} (every : forall value : Fin 128, P (Char.ofNat value.val)) {c : Char}
    (ascii : c.toNat < 128) : P c := by
  have holds := every ⟨c.toNat, ascii⟩
  rwa [Char.ofNat_toNat] at holds

theorem utf8EncodeChar_of_ascii {c : Char} (ascii : c.toNat < 128) :
    String.utf8EncodeChar c = [UInt8.ofNat c.toNat] := by
  have point : c.toNat = c.val.toNat := rfl
  unfold String.utf8EncodeChar
  dsimp only
  rw [if_pos (by omega)]
  rfl

theorem utf8Bytes_of_ascii {chars : List Char} (ascii : forall c, c ∈ chars -> c.toNat < 128) :
    utf8Bytes (String.ofList chars) = chars.map fun c => UInt8.ofNat c.toNat := by
  rw [utf8Bytes_ofList]
  induction chars with
  | nil => rfl
  | cons first rest ih =>
    rw [List.flatMap_cons, utf8EncodeChar_of_ascii (ascii first List.mem_cons_self),
      ih fun c member => ascii c (List.mem_cons_of_mem _ member)]
    rfl

theorem percentDecode_of_not_mem {bytes : List UInt8} (plain : percentSign ∉ bytes) : percentDecode bytes = bytes := by
  induction bytes with
  | nil => rfl
  | cons first rest ih =>
    simp only [List.mem_cons, not_or] at plain
    rw [percentDecode_cons first rest (Ne.symm plain.1), ih plain.2]

theorem mem_percentDecode {bytes : List UInt8} {byte : UInt8} (member : byte ∈ bytes) (sign : byte ≠ percentSign)
    (digit : hexValue? byte = none) : byte ∈ percentDecode bytes := by
  fun_induction percentDecode bytes with
  | case1 first high low rest value decoded ih =>
    split at decoded
    -- An escape is a percent sign and two digits, and the byte is none of these.
    next escape =>
      obtain ⟨top, highDigit, decoded⟩ := Option.bind_eq_some_iff.1 decoded
      obtain ⟨bottom, lowDigit, -⟩ := Option.map_eq_some_iff.1 decoded
      rcases List.mem_cons.1 member with rfl | member
      next => exact absurd escape sign
      rcases List.mem_cons.1 member with rfl | member
      next => cases digit.symm.trans highDigit
      rcases List.mem_cons.1 member with rfl | member
      next => cases digit.symm.trans lowDigit
      exact List.mem_cons_of_mem _ (ih member)
    next => cases decoded
  | case2 first high low rest kept ih =>
    rcases List.mem_cons.1 member with rfl | later
    next => exact List.mem_cons_self
    next => exact List.mem_cons_of_mem _ (ih later)
  | case3 first rest short ih =>
    rcases List.mem_cons.1 member with rfl | later
    next => exact List.mem_cons_self
    next => exact List.mem_cons_of_mem _ (ih later)
  | case4 => cases member

end Text

namespace Host

def IsNameChar (c : Char) : Prop :=
  c.toLower = c /\ c.toNat < 127 /\ isDomainByte (UInt8.ofNat c.toNat) = true

instance (c : Char) : Decidable (IsNameChar c) :=
  inferInstanceAs (Decidable (_ /\ _ /\ _))

theorem isNameChar_of_isDigit {c : Char} (digit : Decimal.isDigit c = true) : IsNameChar c := by
  have ascii : c.toNat < 128 := by
    simp only [Decimal.isDigit, Bool.and_eq_true, decide_eq_true_eq] at digit
    omega
  exact Text.forall_ascii (P := fun c => Decimal.isDigit c = true -> IsNameChar c) (by decide +kernel) ascii digit

theorem lowerByte_toNat {c : Char} (plain : IsNameChar c) : lowerByte (UInt8.ofNat c.toNat) = c := by
  obtain ⟨lower, ascii, -⟩ := plain
  rw [lowerByte, UInt8.toNat_ofNat_of_lt' (Nat.lt_trans ascii (by decide)), Char.ofNat_toNat, lower]

theorem asciiName?_of_plain {name : List Char} (plain : forall c, c ∈ name -> IsNameChar c) :
    asciiName? (Text.percentDecode (Text.utf8Bytes (String.ofList name))) = some name := by
  have bytes := Text.utf8Bytes_of_ascii fun c member => Nat.lt_succ_of_lt (plain c member).2.1
  have named : (name.map fun c => UInt8.ofNat c.toNat).all isDomainByte = true := by
    rw [List.all_map, List.all_eq_true]
    exact fun c member => (plain c member).2.2
  have unescaped : Text.percentSign ∉ name.map fun c => UInt8.ofNat c.toNat := fun member =>
    absurd (List.all_eq_true.1 named _ member) (by decide)
  rw [bytes, Text.percentDecode_of_not_mem unescaped, asciiName?, if_pos named, List.map_map]
  refine congrArg some ((List.map_congr_left fun c member => lowerByte_toNat (plain c member)).trans ?_)
  exact List.map_id' name

theorem parse_of_plain {name : List Char} (plain : forall c, c ∈ name -> IsNameChar c) :
    parse name = ofName name := by
  have bare : name.head? ≠ some '[' := by
    intro opened
    exact absurd (plain '[' (List.mem_of_head? opened)) (by decide)
  rw [parse, if_neg bare, asciiName?_of_plain plain]

theorem parse_chars {host : Host} (normal : host.IsNormal) : parse host.chars = .ok host := by
  cases host with
  | domain name =>
    obtain ⟨filled, word, plain⟩ := normal
    rw [chars, parse_of_plain plain, ofName, if_neg (by simpa using filled), if_neg (by simp [word])]
  | ipv4 address =>
    have plain (c : Char) (member : c ∈ address.chars) : IsNameChar c := by
      rcases Ipv4.mem_chars member with rfl | digit
      next => decide
      next => exact isNameChar_of_isDigit digit
    have number := Ipv4.endsInNumber_chars address
    have filled : address.chars ≠ [] := by
      intro empty
      rw [empty] at number
      cases number
    rw [chars, parse_of_plain plain, ofName, if_neg (by simpa using filled), if_pos number, Ipv4.parse?_chars]
  | ipv6 address =>
    have opened : (chars (ipv6 address)).head? = some '[' := rfl
    have closed : (chars (ipv6 address)).getLast? = some ']' := List.getLast?_concat
    have inside : (chars (ipv6 address)).tail.dropLast = address.chars := by simp [chars]
    rw [parse, if_pos opened, parseBracketed, if_pos closed, inside, Ipv6.parse?_chars]

theorem parse_nil : parse [] = .error .emptyHost := by
  decide +kernel

theorem mem_delimiters {c : Char} (delimiter : c ∈ delimiters) : c.toNat < 128 /\
    UInt8.ofNat c.toNat ≠ Text.percentSign /\ Text.hexValue? (UInt8.ofNat c.toNat) = none /\
      isDomainByte (UInt8.ofNat c.toNat) = false := by
  revert c
  simp only [delimiters, List.mem_cons, List.not_mem_nil, or_false, forall_eq_or_imp, forall_eq]
  decide

theorem not_mem_of_parse {text : List Char} {host : Host} (read : parse text = .ok host)
    (bare : text.head? ≠ some '[') {c : Char} (delimiter : c ∈ delimiters) : c ∉ text := by
  intro member
  obtain ⟨ascii, sign, digit, refused⟩ := mem_delimiters delimiter
  have encoded : UInt8.ofNat c.toNat ∈ Text.utf8Bytes (String.ofList text) := by
    rw [Text.utf8Bytes_ofList, List.mem_flatMap]
    exact ⟨c, member, by simp [Text.utf8EncodeChar_of_ascii ascii]⟩
  have decoded := Text.mem_percentDecode encoded sign digit
  rw [parse, if_neg bare, asciiName?] at read
  split at read
  next name found =>
    split at found
    next plain => cases refused.symm.trans (List.all_eq_true.1 plain _ decoded)
    next => cases found
  next => cases read

theorem brackets_of_parse {text : List Char} {host : Host} (read : parse text = .ok host)
    (opened : text.head? = some '[') : exists inner address,
      text = '[' :: (inner ++ [']']) /\ Ipv6.parse? inner = some address /\ host = ipv6 address := by
  rw [parse, if_pos opened, parseBracketed] at read
  split at read
  next closed =>
    split at read
    next address inside =>
      cases read
      obtain ⟨behind, rfl⟩ := List.head?_eq_some_iff.1 opened
      obtain ⟨front, whole⟩ := List.getLast?_eq_some_iff.1 closed
      cases front with
      | nil => cases whole
      | cons first inner =>
        rw [List.cons_append] at whole
        obtain ⟨rfl, rfl⟩ := List.cons.inj whole
        rw [List.tail_cons, List.dropLast_concat] at inside
        exact ⟨inner, address, rfl, inside, rfl⟩
    next => cases read
  next => cases read

theorem plain_of_parse {text : List Char} {host : Host} (read : parse text = .ok host) {c : Char}
    (member : c ∈ text) : c ∉ ['@', '/', '\\', '?', '#'] := by
  intro other
  by_cases opened : text.head? = some '['
  next =>
    obtain ⟨inner, address, rfl, inside, -⟩ := brackets_of_parse read opened
    have apart : forall c, c ∈ ['@', '/', '\\', '?', '#'] -> c ≠ '[' /\ c ≠ ']' /\ ¬Ipv6.IsAddressChar c := by
      simp only [List.mem_cons, List.not_mem_nil, or_false, forall_eq_or_imp, forall_eq]
      decide
    obtain ⟨opening, closing, unfit⟩ := apart c other
    rcases List.mem_cons.1 member with same | behind
    next => exact opening same
    rcases List.mem_append.1 behind with among | last
    next => exact unfit (Ipv6.isAddressChar_of_parse? inside among)
    next => exact closing (List.mem_singleton.1 last)
  next =>
    have among : ['@', '/', '\\', '?', '#'] ⊆ delimiters := by
      simp [delimiters]
    exact not_mem_of_parse read opened (among other) member

end Host

end VideoRelay
