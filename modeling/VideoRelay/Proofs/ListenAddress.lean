import VideoRelay.ListenAddress
import VideoRelay.Proofs.Address.Numeric

set_option autoImplicit false

namespace VideoRelay.ListenAddress

/-- What a host and a port stand for. An IPv4 host is written in the one strict form, an IPv6 host in brackets and in
any form, perhaps with the number of a scope. -/
inductive OfHost (port : UInt16) : List Char -> ListenAddress -> Prop
  | ipv4 (address : Ipv4) : OfHost port address.chars (.ipv4 address port)
  | ipv6 {text : List Char} {address : Ipv6} (read : Ipv6.parse? text = some address) :
    OfHost port ('[' :: (text ++ [']'])) (.ipv6 address 0 port)
  | ipv6Within {text digits : List Char} {address : Ipv6} {scope : Nat} (read : Ipv6.parse? text = some address)
    (number : Decimal.wholeNumber? digits = some scope) (small : scope < UInt32.size) :
    OfHost port ('[' :: (text ++ '%' :: digits ++ [']'])) (.ipv6 address (UInt32.ofNat scope) port)

theorem number?_eq_some_iff {max value : Nat} {digits : List Char} :
    number? max digits = some value <-> Decimal.wholeNumber? digits = some value /\ value <= max := by
  rw [number?, Option.filter_eq_some_iff, decide_eq_true_eq]

theorem port?_toDigits (port : UInt16) : port? (Nat.toDigits 10 port.toNat) = some port := by
  have number : number? 65535 (Nat.toDigits 10 port.toNat) = some port.toNat :=
    number?_eq_some_iff.2 ⟨Decimal.wholeNumber?_toDigits _, Nat.le_of_lt_succ port.toNat_lt⟩
  rw [port?, number, Option.map_some, UInt16.ofNat_toNat]

theorem colon_not_mem {digits : List Char} {port : UInt16} (read : port? digits = some port) : ':' ∉ digits := by
  obtain ⟨value, number, -⟩ := Option.map_eq_some_iff.1 read
  obtain ⟨-, plain, -⟩ := Decimal.wholeNumber?_eq_some_iff.1 (number?_eq_some_iff.1 number).1
  exact fun member => absurd (plain _ member) (by decide)

theorem not_mem_of_parse? {text : List Char} {address : Ipv6} (read : Ipv6.parse? text = some address) :
    ']' ∉ text /\ '%' ∉ text := by
  constructor
  all_goals exact fun member => absurd (Ipv6.isAddressChar_of_parse? read member) (by decide)

theorem parseIpv4?_iff {host : List Char} {port : UInt16} {address : ListenAddress} (bare : host.head? ≠ some '[') :
    parseIpv4? (host ++ ':' :: Nat.toDigits 10 port.toNat) = some address <-> OfHost port host address := by
  have given := port?_toDigits port
  constructor
  next =>
    intro read
    rw [parseIpv4?] at read
    split at read
    next front digits found =>
      simp only [Option.bind_eq_bind, Option.bind_eq_some_iff, Option.pure_def, Option.some.injEq] at read
      obtain ⟨numbers, strict, other, behind, rfl⟩ := read
      -- Behind the first colon there are digits only, so it is the last one, in front of the port.
      obtain ⟨rfl, rfl⟩ := Text.last_separator_unique (Text.append_of_cut found) (colon_not_mem given)
        (colon_not_mem behind)
      obtain rfl := Option.some.inj (given.symm.trans behind)
      rw [Ipv4.parseStrict?_eq_some_iff.1 strict]
      exact .ipv4 numbers
    next => cases read
  next =>
    intro named
    cases named with
    | ipv4 numbers =>
      have plain : ':' ∉ numbers.chars := fun member =>
        (Ipv4.mem_chars member).elim (by decide) (by decide)
      rw [parseIpv4?, Text.cut_append _ _ _ plain]
      simp [Ipv4.parseStrict?_eq_some_iff.2 rfl, given]
    | ipv6 => exact absurd rfl bare
    | ipv6Within => exact absurd rfl bare

theorem ofHost_of_inner {port : UInt16} {inner : List Char} {address : Ipv6} {scope : UInt32}
    (parsed : Ipv6.parse? (Text.cut '%' inner).1 = some address) (within : scope? (Text.cut '%' inner).2 = some scope) :
    OfHost port ('[' :: (inner ++ [']'])) (.ipv6 address scope port) := by
  rcases percent : Text.cut '%' inner with ⟨text, _ | number⟩
  next =>
    rw [percent] at parsed within
    cases within
    rw [Text.append_of_cut percent, Option.elim_none, List.append_nil]
    exact .ipv6 parsed
  next =>
    rw [percent] at parsed within
    obtain ⟨value, known, rfl⟩ := Option.map_eq_some_iff.1 within
    obtain ⟨whole, small⟩ := number?_eq_some_iff.1 known
    rw [Text.append_of_cut percent]
    exact .ipv6Within parsed whole (Nat.lt_of_le_sub_one (by decide) small)

theorem parseIpv6?_of_inner (port : UInt16) {inner : List Char} {address : Ipv6} {scope : UInt32} (closed : ']' ∉ inner)
    (parsed : Ipv6.parse? (Text.cut '%' inner).1 = some address) (within : scope? (Text.cut '%' inner).2 = some scope) :
    parseIpv6? (inner ++ [']'] ++ ':' :: Nat.toDigits 10 port.toNat) = some (.ipv6 address scope port) := by
  rw [List.append_assoc, List.singleton_append, parseIpv6?, Text.cut_append _ _ _ closed]
  simp [parsed, within, port?_toDigits]

theorem parseIpv6?_iff {rest : List Char} {port : UInt16} {address : ListenAddress} :
    parseIpv6? (rest ++ ':' :: Nat.toDigits 10 port.toNat) = some address <-> OfHost port ('[' :: rest) address := by
  have given := port?_toDigits port
  constructor
  next =>
    intro read
    rw [parseIpv6?] at read
    split at read
    next inner digits found =>
      simp only [Option.bind_eq_bind, Option.bind_eq_some_iff, Option.pure_def, Option.some.injEq] at read
      obtain ⟨numbers, parsed, zone, within, other, behind, rfl⟩ := read
      -- The colon behind the bracket is the last one, in front of the port.
      have split : rest ++ ':' :: Nat.toDigits 10 port.toNat = (inner ++ [']']) ++ ':' :: digits := by
        rw [Text.append_of_cut found, List.append_assoc]
        rfl
      obtain ⟨rfl, rfl⟩ := Text.last_separator_unique split (colon_not_mem given) (colon_not_mem behind)
      obtain rfl := Option.some.inj (given.symm.trans behind)
      exact ofHost_of_inner parsed within
    next => cases read
  next =>
    intro named
    generalize host : '[' :: rest = chars at named
    cases named with
    | ipv4 numbers =>
      have bracket : '[' ∈ numbers.chars := by
        rw [<- host]
        exact List.mem_cons_self
      exact absurd (Ipv4.mem_chars bracket) (by decide)
    | ipv6 read =>
      obtain ⟨closed, whole⟩ := not_mem_of_parse? read
      obtain rfl := (List.cons.inj host).2
      have unscoped := Text.cut_of_not_mem _ _ whole
      exact parseIpv6?_of_inner port closed (by rw [unscoped, read]) (by rw [unscoped, scope?])
    | @ipv6Within text digits _ scope read number small =>
      obtain ⟨closed, whole⟩ := not_mem_of_parse? read
      obtain ⟨-, plain, -⟩ := Decimal.wholeNumber?_eq_some_iff.1 number
      have inner : ']' ∉ text ++ '%' :: digits := by
        rw [List.mem_append, List.mem_cons]
        rintro (inside | sign | digit)
        next => exact closed inside
        next => cases sign
        next => exact absurd (plain _ digit) (by decide)
      have zone : scope? (some digits) = some (UInt32.ofNat scope) :=
        Option.map_eq_some_iff.2 ⟨scope, number?_eq_some_iff.2 ⟨number, Nat.le_sub_one_of_lt small⟩, rfl⟩
      obtain rfl := (List.cons.inj host).2
      have percent := Text.cut_append _ _ digits whole
      exact parseIpv6?_of_inner port inner (by rw [percent, read]) (by rw [percent, zone])

theorem parse?_iff {host : String} {port : UInt16} {address : ListenAddress} :
    parse? (host ++ ":" ++ toString port.toNat) = some address <-> OfHost port host.toList address := by
  have chars : (host ++ ":" ++ toString port.toNat).toList = host.toList ++ ':' :: Nat.toDigits 10 port.toNat := by
    rw [String.toList_append, String.toList_append, List.append_assoc, Nat.toString_eq_ofList_toDigits,
      String.toList_ofList, String.toList_ofList, List.singleton_append]
  rw [parse?, chars]
  split
  next rest bracketed =>
    cases inner : host.toList with
    | nil =>
      rw [inner] at bracketed
      cases bracketed
    | cons first more =>
      rw [inner] at bracketed
      cases bracketed
      exact parseIpv6?_iff
  next bare =>
    refine parseIpv4?_iff fun head => ?_
    obtain ⟨more, inner⟩ := List.head?_eq_some_iff.1 head
    exact bare (more ++ _) (by rw [inner]; rfl)

end VideoRelay.ListenAddress
