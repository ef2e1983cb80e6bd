import VideoRelay.Proofs.Address.Spelling
import VideoRelay.Proofs.Trimming

set_option autoImplicit false

namespace VideoRelay

namespace Text

def IsVisible (c : Char) : Prop :=
  32 < c.toNat /\ c.toNat < 127

instance (c : Char) : Decidable (IsVisible c) :=
  inferInstanceAs (Decidable (_ /\ _))

theorem isBlankChar_of_isVisible {c : Char} (visible : IsVisible c) : isBlankChar c = false :=
  forall_ascii (P := fun c => IsVisible c -> isBlankChar c = false) (by decide +kernel)
    (Nat.lt_succ_of_lt visible.2) visible

end Text

namespace Url

theorem significant_of_visible {text : String} (visible : forall c, c ∈ text.toList -> Text.IsVisible c) :
    significant (Text.trim text) = text.toList := by
  have trimmed : Text.trimChars text.toList = text.toList :=
    Text.dropWhile_of_solid fun c member => Text.isBlankChar_of_isVisible (visible c member)
  have inner : ((text.toList.dropWhile isEdge).reverse.dropWhile isEdge).reverse = text.toList :=
    Text.dropWhile_of_solid fun c member => decide_eq_false (Nat.not_le.2 (visible c member).1)
  rw [Text.trim, trimmed, String.ofList_toList, significant, inner, List.filter_eq_self]
  intro c member
  have apart (dropped : Char) (low : dropped.toNat <= 32) : c ≠ dropped := by
    rintro rfl
    exact absurd (visible c member).1 (Nat.not_lt.2 low)
  simp [isDropped, apart '\t' (by decide), apart '\n' (by decide), apart '\r' (by decide)]

end Url

namespace Address

def IsPlainChar (c : Char) : Prop :=
  Text.IsVisible c /\ c ∉ ['@', '/', '\\', '?', '#']

instance (c : Char) : Decidable (IsPlainChar c) :=
  inferInstanceAs (Decidable (_ /\ _))

theorem isPlainChar_of_isNameChar {c : Char} (named : Host.IsNameChar c) : IsPlainChar c :=
  Text.forall_ascii (P := fun c => Host.IsNameChar c -> IsPlainChar c) (by decide +kernel)
    (Nat.lt_succ_of_lt named.2.1) named

theorem isPlainChar_host {host : Host} (normal : host.IsNormal) {c : Char} (member : c ∈ host.chars) :
    IsPlainChar c := by
  cases host with
  | domain name => exact isPlainChar_of_isNameChar (normal.2.2 c member)
  | ipv4 address =>
    rcases Ipv4.mem_chars member with rfl | digit
    next => decide
    next => exact isPlainChar_of_isNameChar (Host.isNameChar_of_isDigit digit)
  | ipv6 address =>
    have every : forall digit : Fin 16, IsPlainChar (Text.hexDigit digit.val) := by decide
    rcases List.mem_append.1 member with inside | last
    next =>
      rcases List.mem_cons.1 inside with rfl | inside
      next => decide
      rcases Ipv6.mem_chars inside with rfl | ⟨digit, small, rfl⟩
      next => decide
      next => exact every ⟨digit, small⟩
    next =>
      rw [List.mem_singleton.1 last]
      decide

theorem isPlainChar_port {address : Address} {c : Char} (member : c ∈ address.portChars) : IsPlainChar c := by
  rw [portChars] at member
  split at member
  next => cases member
  next =>
    rcases List.mem_cons.1 member with rfl | digit
    next => decide
    next => exact isPlainChar_of_isNameChar (Host.isNameChar_of_isDigit (Decimal.isDigit_of_mem_toDigits digit))

theorem isPlainChar_authority {address : Address} (normal : address.host.IsNormal) {c : Char}
    (member : c ∈ address.authorityChars) : IsPlainChar c :=
  (List.mem_append.1 member).elim (isPlainChar_host normal) isPlainChar_port

theorem toList_uri (address : Address) :
    address.uri.toList = address.scheme.toList ++ ':' :: '/' :: '/' :: address.authorityChars := by
  simp [uri, authority]

theorem visible_uri {address : Address} (normal : address.host.IsNormal) {c : Char}
    (member : c ∈ address.uri.toList) : Text.IsVisible c := by
  have scheme : forall c, c ∈ address.scheme.toList ++ [':', '/', '/'] -> Text.IsVisible c := by
    rw [Address.scheme]
    split <;> simp <;> decide
  have whole : address.uri.toList = address.scheme.toList ++ [':', '/', '/'] ++ address.authorityChars := by
    rw [toList_uri, List.append_assoc]
    rfl
  rw [whole] at member
  rcases List.mem_append.1 member with front | back
  next => exact scheme c front
  next => exact (isPlainChar_authority normal back).1

def site (address : Address) : Url.Site where
  slashes := ['/', '/']
  user := none
  host := address.host.chars
  port := address.port.map fun port => Nat.toDigits 10 port.toNat
  tail := []

theorem portPart_site (address : Address) : Url.portPart address.site.port = address.portChars := by
  rw [site, portChars]
  cases address.port with
  | none => rfl
  | some port => rfl

theorem namesPort_site (address : Address) : Url.NamesPort (usualPort address.secure) address.site.port
    (address.port.getD (usualPort address.secure)) := by
  rw [site]
  cases address.port with
  | none => rfl
  | some port =>
    obtain ⟨first, rest, digits⟩ := List.exists_cons_of_ne_nil (Nat.toDigits_ne_nil (n := port.toNat) (b := 10))
    have read := Decimal.wholeNumber?_toDigits port.toNat
    rw [digits] at read
    rw [Option.map_some, Option.getD_some, digits]
    exact read

theorem spells_uri {address : Address} (normal : address.host.IsNormal) :
    Spells address.uri.toList address (address.port.getD (usualPort address.secure)) := by
  refine ⟨address.scheme.toList, address.site, ?_, ?_, ?_, nofun, Host.parse_chars normal, namesPort_site address,
    nofun⟩
  next =>
    rw [toList_uri, Url.Site.text, Url.Site.authority, portPart_site, authorityChars_eq]
    simp [site]
  next =>
    rw [scheme]
    split <;> decide
  next => exact fun c member => .inl (by simpa [site] using member)

theorem parse_uri {address : Address} (normal : address.host.IsNormal)
    (own : address.port ≠ some (usualPort address.secure)) : parse address.uri = .ok address := by
  refine parse_eq_ok_iff.2 ⟨address.port.getD (usualPort address.secure), ?_, ?_⟩
  next =>
    rw [Url.significant_of_visible fun c => visible_uri normal]
    exact spells_uri normal
  next =>
    cases given : address.port with
    | none => rw [Option.getD_none, if_pos rfl]
    | some port =>
      rw [given] at own
      rw [Option.getD_some, if_neg fun same => own (congrArg some same)]

theorem chars_ne_nil {host : Host} (normal : host.IsNormal) : host.chars ≠ [] := by
  intro empty
  have read := Host.parse_chars normal
  rw [empty, Host.parse_nil] at read
  cases read

/-- Whatever spelling is accepted: the authority is the host of that text in normal form and its port, the latter if
and only if it is not the one of the scheme. It holds no user information, path, query or fragment and no white space,
and the address is read from its own text again. -/
theorem accepted_normal {raw : String} {address : Address} (read : parse raw = .ok address) :
    (exists port, Spells (Url.significant (Text.trim raw)) address port /\
      address.authority = String.ofList (address.host.chars ++
        if port = usualPort address.secure then [] else ':' :: Nat.toDigits 10 port.toNat)) /\
    address.host.IsNormal /\ address.host.chars ≠ [] /\
    (forall c, c ∈ address.authority.toList -> Text.isBlankChar c = false /\ c ∉ ['@', '/', '\\', '?', '#']) /\
    parse address.uri = .ok address := by
  have normal := isNormal_of_parse read
  obtain ⟨port, spelled, own⟩ := parse_eq_ok_iff.1 read
  refine ⟨⟨port, spelled, ?_⟩, normal, chars_ne_nil normal, ?_, parse_uri normal ?_⟩
  next =>
    rw [authority, authorityChars, own]
    by_cases usual : port = usualPort address.secure
    next => rw [if_pos usual, if_pos usual]
    next => rw [if_neg usual, if_neg usual]
  next =>
    intro c member
    rw [authority, String.toList_ofList] at member
    obtain ⟨visible, plain⟩ := isPlainChar_authority normal member
    exact ⟨Text.isBlankChar_of_isVisible visible, plain⟩
  next =>
    rw [own]
    split
    next => exact (Option.some_ne_none _).symm
    next unusual => exact fun same => unusual (Option.some.inj same)

def crookedText : String := " \n\thT\ntp:\\/\\us@r:pw@0X7f.1:000\t8080/p@th?q#f\u3000"

def straightAddress : Address where
  host := .ipv4 { first := 127, second := 0, third := 0, fourth := 1 }
  port := some 8080
  secure := false

theorem crookedText_normal : parse crookedText = .ok straightAddress /\
    straightAddress.uri = "http://127.0.0.1:8080" /\ parse straightAddress.uri = .ok straightAddress := by
  have read : parse crookedText = .ok straightAddress := by decide +kernel
  exact ⟨read, by decide +kernel, (accepted_normal read).2.2.2.2⟩

example : (parse "HTTPS:[0::FFFF:1.2.3.4]:0443").map uri = .ok "https://[::ffff:102:304]" := by
  decide +kernel

end Address

end VideoRelay
