import Mathlib.Data.List.TakeWhile
import VideoRelay.Address
import VideoRelay.Proofs.Address.Numeric

set_option autoImplicit false

namespace VideoRelay

namespace Text

theorem trimChars_of_blank {chars : List Char} (blank : chars.all isBlankChar = true) :
    trimChars chars = [] := by
  have dropped : chars.dropWhile isBlankChar = [] := by
    rw [List.dropWhile_eq_nil_iff]
    exact List.all_eq_true.1 blank
  rw [trimChars, dropped]
  rfl

theorem mem_of_mem_trim {text : String} {c : Char} (member : c ∈ (trim text).toList) : c ∈ text.toList := by
  rw [trim, String.toList_ofList] at member
  have kept := (List.dropWhile_sublist _).mem (List.mem_reverse.1 member)
  exact (List.dropWhile_sublist _).mem (List.mem_reverse.1 kept)

theorem utf8ByteSize_ofList_le (chars : List Char) : (String.ofList chars).utf8ByteSize <= 4 * chars.length := by
  induction chars with
  | nil => decide
  | cons c rest ih =>
    have size := c.utf8Size_le_four
    rw [<- List.singleton_append, String.ofList_append, String.utf8ByteSize_append, <- String.singleton_eq_ofList,
      String.utf8ByteSize_singleton, List.length_append, List.length_singleton]
    omega

end Text

namespace Host

theorem isNormal_of_ofName {bytes : List UInt8} {host : Host} (plain : bytes.all isDomainByte = true)
    (named : ofName (bytes.map lowerByte) = .ok host) : host.IsNormal := by
  have lower : forall value : Fin 256, let c := lowerByte (UInt8.ofFin value)
      isDomainByte (UInt8.ofFin value) = true ->
        c.toLower = c /\ c.toNat < 127 /\ isDomainByte (UInt8.ofNat c.toNat) = true := by decide +kernel
  rw [ofName] at named
  split at named
  next => cases named
  next nonempty =>
    split at named
    next =>
      split at named
      next => cases named; trivial
      next => cases named
    next word =>
      cases named
      refine ⟨by simpa using nonempty, by simpa using word, ?_⟩
      intro c member
      obtain ⟨byte, among, rfl⟩ := List.mem_map.1 member
      exact lower byte.toFin (List.all_eq_true.1 plain byte among)

theorem isNormal_of_parseBracketed {text : List Char} {host : Host} (read : parseBracketed text = .ok host) :
    host.IsNormal := by
  rw [parseBracketed] at read
  split at read
  next =>
    split at read
    next => cases read; trivial
    next => cases read
  next => cases read

theorem isNormal_of_parse {text : List Char} {host : Host} (read : parse text = .ok host) : host.IsNormal := by
  rw [parse] at read
  split at read
  next => exact isNormal_of_parseBracketed read
  next =>
    rw [asciiName?] at read
    split at read
    next name found =>
      split at found
      next plain =>
        cases found
        exact isNormal_of_ofName plain read
      next => cases found
    next => cases read

end Host

namespace Address

def usualPort (secure : Bool) : UInt16 :=
  if secure then 443 else 80

theorem secure?_eq_some_iff {scheme : String} {secure : Bool} :
    secure? scheme = some secure <-> scheme = if secure then "https" else "http" := by
  rw [secure?.eq_def]
  split
  next => cases secure <;> decide
  next => cases secure <;> decide
  next plaintext encrypted =>
    cases secure with
    | false => exact iff_of_false nofun plaintext
    | true => exact iff_of_false nofun encrypted

theorem kindOf_of_secure? {scheme : String} {secure : Bool} (known : secure? scheme = some secure) :
    Url.kindOf scheme = .web (usualPort secure) := by
  rw [secure?_eq_some_iff.1 known]
  cases secure <;> rfl

end Address

namespace Url

theorem mem_of_mem_significant {text : String} {c : Char} (member : c ∈ significant text) : c ∈ text.toList := by
  have kept := List.mem_reverse.1 (List.mem_filter.1 member).1
  have front := List.mem_reverse.1 ((List.dropWhile_sublist _).mem kept)
  exact (List.dropWhile_sublist _).mem front

theorem colon_of_parse {text : String} {url : Url} (read : parse text = .ok url) : ':' ∈ text.toList := by
  refine Classical.byContradiction fun plain => ?_
  have whole := Text.cut_of_not_mem ':' _ fun member => plain (mem_of_mem_significant member)
  rw [parse, splitScheme, whole] at read
  cases read

theorem scheme_of_parseFile {scheme : String} {rest : List Char} {url : Url}
    (read : parseFile scheme rest = .ok url) : url.scheme = scheme := by
  match rest with
  | [] | [_] => cases read; rfl
  | first :: second :: rest =>
    simp only [parseFile] at read
    split at read
    next =>
      split at read
      next => cases read; rfl
      next =>
        obtain ⟨host, -, rfl⟩ := ok_of_map read
        rfl
    next => cases read; rfl

theorem host_of_parseWeb {scheme : String} {port : UInt16} {rest : List Char} {url : Url} {host : Host}
    (read : parseWeb scheme port rest = .ok url) (found : url.host = some host) : host.IsNormal := by
  simp only [parseWeb] at read
  split at read
  next => cases read
  next =>
    obtain ⟨first, parsed, read⟩ := ok_of_bind read
    obtain ⟨_, -, read⟩ := ok_of_bind read
    cases read
    obtain rfl := Option.some.inj found
    exact Host.isNormal_of_parse parsed

theorem scheme_of_parseOther {scheme : String} {rest : List Char} {url : Url}
    (read : parseOther scheme rest = .ok url) : url.scheme = scheme := by
  rw [parseOther.eq_def] at read
  split at read
  next =>
    simp only at read
    split at read
    next => cases read
    next =>
      obtain ⟨_, -, read⟩ := ok_of_bind read
      split at read
      next => cases read
      next =>
        obtain ⟨_, -, read⟩ := ok_of_bind read
        cases read
        rfl
  next => cases read; rfl

theorem scheme_of_parseWeb {scheme : String} {port : UInt16} {rest : List Char} {url : Url}
    (read : parseWeb scheme port rest = .ok url) : url.scheme = scheme := by
  simp only [parseWeb] at read
  split at read
  next => cases read
  next =>
    obtain ⟨_, -, read⟩ := ok_of_bind read
    obtain ⟨_, -, read⟩ := ok_of_bind read
    cases read
    rfl

theorem splitScheme_of_parse {text : String} {url : Url} (read : parse text = .ok url) :
    exists rest, splitScheme (significant text) = some (url.scheme, rest) := by
  rw [parse] at read
  split at read
  next => cases read
  next scheme rest found =>
    refine ⟨rest, ?_⟩
    rw [found]
    split at read
    next => rw [scheme_of_parseWeb read]
    next => rw [scheme_of_parseFile read]
    next => rw [scheme_of_parseOther read]

theorem isNormal_of_parse {text : String} {url : Url} {host : Host} {secure : Bool} (read : parse text = .ok url)
    (known : Address.secure? url.scheme = some secure) (found : url.host = some host) : host.IsNormal := by
  obtain ⟨rest, cut⟩ := splitScheme_of_parse read
  rw [parse, cut] at read
  simp only [Address.kindOf_of_secure? known] at read
  exact host_of_parseWeb read found

end Url

namespace Address

theorem parse_of_blank {raw : String} (blank : Text.isBlank raw = true) :
    parse raw = .error (noUrl raw .noScheme) := by
  have nothing : Url.splitScheme (Url.significant "") = none := by decide +kernel
  rw [parse, Text.trim, Text.trimChars_of_blank blank, String.ofList_nil, Url.parse, nothing]

theorem isNormal_of_parse {raw : String} {address : Address} (read : parse raw = .ok address) :
    address.host.IsNormal := by
  rw [parse] at read
  split at read
  next => cases read
  next url parsed =>
    rw [ofUrl] at read
    split at read
    next => cases read
    next => cases read
    next secure host known found =>
      cases read
      exact Url.isNormal_of_parse parsed known found

theorem colon_of_parse {raw : String} {address : Address} (read : parse raw = .ok address) : ':' ∈ raw.toList := by
  rw [parse] at read
  split at read
  next => cases read
  next parsed => exact Text.mem_of_mem_trim (Url.colon_of_parse parsed)

/-- Whether requests can be sent to an address: the name of its host holds none of four characters, and is not so
long that no target can be made of it. A numeric host is always fit. -/
def IsDialable (address : Address) : Prop :=
  match address.host with
  | .domain name => name.any isUnfit = false /\ address.uri.utf8ByteSize <= maxTarget
  | .ipv4 _ | .ipv6 _ => True

instance : (address : Address) -> Decidable address.IsDialable
  | { host := .domain _, .. } => inferInstanceAs (Decidable (_ /\ _))
  | { host := .ipv4 _, .. } | { host := .ipv6 _, .. } => inferInstanceAs (Decidable True)

theorem isUnfit_of_isDigit {c : Char} (digit : Decimal.isDigit c = true) : isUnfit c = false := by
  simp only [Decimal.isDigit, Bool.and_eq_true, decide_eq_true_eq] at digit
  have quote : c ≠ '"' := by
    rintro rfl
    exact absurd digit (by decide)
  simp only [isUnfit, quote, decide_false, Bool.false_or, Bool.or_eq_false_iff, decide_eq_false_iff_not]
  omega

def portChars (address : Address) : List Char :=
  match address.port with
  | none => []
  | some port => ':' :: Nat.toDigits 10 port.toNat

theorem authorityChars_eq (address : Address) :
    address.authorityChars = address.host.chars ++ address.portChars := rfl

theorem isUnfit_portChars {address : Address} {c : Char} (member : c ∈ address.portChars) : isUnfit c = false := by
  rw [portChars] at member
  split at member
  next => cases member
  next =>
    rcases List.mem_cons.1 member with rfl | digit
    next => decide
    next => exact isUnfit_of_isDigit (Decimal.isDigit_of_mem_toDigits digit)

theorem length_portChars (address : Address) : address.portChars.length <= 6 := by
  rw [portChars]
  split
  next => decide
  next port _ =>
    have digits : (Nat.toDigits 10 port.toNat).length <= 5 :=
      (Nat.length_toDigits_le_iff (by decide) (by decide)).2 (Nat.lt_trans port.toNat_lt (by decide))
    simp only [List.length_cons]
    omega

theorem size_uri (address : Address) : address.uri.utf8ByteSize <= 8 + 4 * address.authorityChars.length := by
  have scheme : address.scheme.utf8ByteSize <= 5 := by
    rw [Address.scheme]
    split <;> decide
  have host := Text.utf8ByteSize_ofList_le address.authorityChars
  rw [uri, authority, String.utf8ByteSize_append, String.utf8ByteSize_append]
  have mark : "://".utf8ByteSize = 3 := by decide
  omega

theorem isUnfit_ipv4 {address : Ipv4} {c : Char} (member : c ∈ address.chars) : isUnfit c = false := by
  rcases Ipv4.mem_chars member with rfl | digit
  next => decide
  next => exact isUnfit_of_isDigit digit

theorem isUnfit_ipv6 {address : Ipv6} {c : Char} (member : c ∈ address.chars) : isUnfit c = false := by
  have every : forall digit : Fin 16, isUnfit (Text.hexDigit digit.val) = false := by decide
  rcases Ipv6.mem_chars member with rfl | ⟨digit, small, rfl⟩
  next => decide
  next => exact every ⟨digit, small⟩

theorem target_ok_iff (address : Address) : (exists target, address.target = .ok target) <->
    address.host.chars.any isUnfit = false /\ address.uri.utf8ByteSize <= maxTarget := by
  have port : address.portChars.any isUnfit = false :=
    List.any_eq_false.2 fun c member => by simp [isUnfit_portChars member]
  have fit : address.authorityChars.any isUnfit = address.host.chars.any isUnfit := by
    rw [authorityChars_eq, List.any_append, port, Bool.or_false]
  rw [target, fit]
  split
  next refused =>
    simp only [Bool.or_eq_true, decide_eq_true_eq] at refused
    simp only [reduceCtorEq, exists_false, false_iff, not_and, Nat.not_le]
    intro plain
    exact refused.resolve_left (by simp [plain])
  next accepted =>
    simp only [Bool.or_eq_true, decide_eq_true_eq, not_or, Bool.not_eq_true, Nat.not_lt] at accepted
    exact iff_of_true ⟨_, rfl⟩ accepted

theorem target_ok_iff_isDialable (address : Address) : (exists target, address.target = .ok target) <->
    address.IsDialable := by
  have size := size_uri address
  have port := length_portChars address
  rw [authorityChars_eq, List.length_append] at size
  rw [target_ok_iff, IsDialable]
  cases kind : address.host with
  | domain name => exact Iff.rfl
  | ipv4 numbers =>
    have length := numbers.length_chars
    rw [kind, Host.chars] at size
    refine iff_of_true ⟨?_, ?_⟩ trivial
    next => exact List.any_eq_false.2 fun c member => by simp [isUnfit_ipv4 member]
    next =>
      simp only [maxTarget]
      omega
  | ipv6 pieces =>
    have length := pieces.length_chars
    have inside : pieces.chars.any isUnfit = false :=
      List.any_eq_false.2 fun c member => by simp [isUnfit_ipv6 member]
    have brackets : isUnfit '[' = false /\ isUnfit ']' = false := by decide
    rw [kind, Host.chars] at size
    simp only [List.cons_append, List.length_cons, List.length_append, List.length_nil] at size
    refine iff_of_true ⟨?_, ?_⟩ trivial
    next => simp only [Host.chars, List.cons_append, List.any_cons, List.any_append, List.any_nil, inside, brackets,
      Bool.or_self]
    next =>
      simp only [maxTarget]
      omega

end Address

end VideoRelay
