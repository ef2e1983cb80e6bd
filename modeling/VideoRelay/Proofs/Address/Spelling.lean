import VideoRelay.Proofs.Address.Hosts

set_option autoImplicit false

namespace VideoRelay

namespace Text

section Last

variable {A : Type} [DecidableEq A]

theorem append_of_cutLast {separator : A} {items back : List A} {front : Option (List A)}
    (found : cutLast separator items = (front, back)) : items = front.elim [] (· ++ [separator]) ++ back := by
  cases parts : cut separator items.reverse with
  | mk behind before =>
    simp only [cutLast, parts, Prod.mk.injEq] at found
    obtain ⟨rfl, rfl⟩ := found
    have whole := congrArg List.reverse (append_of_cut parts)
    rw [List.reverse_reverse] at whole
    rw [whole]
    cases before with
    | none => simp
    | some before => simp

theorem cutLast_append {separator : A} (front : Option (List A)) {back : List A} (plain : separator ∉ back) :
    cutLast separator (front.elim [] (· ++ [separator]) ++ back) = (front, back) := by
  have reversed : separator ∉ back.reverse := fun member => plain (List.mem_reverse.1 member)
  cases front with
  | none => simp [cutLast, cut_of_not_mem separator _ reversed]
  | some front => simp [cutLast, cut_append separator _ _ reversed]

end Last

end Text

namespace Url

theorem isAlpha_of_toLower {c : Char} (letter : c.toLower.isAlpha = true) : c.isAlpha = true := by
  cases upper : c.isUpper with
  | true => exact Bool.or_eq_true_iff.2 (.inl upper)
  | false =>
    have same : c.toLower = c := dif_neg (of_decide_eq_false upper)
    rwa [same] at letter

theorem splitScheme_of_word {name : List Char} {word : String} (spelled : name.map Char.toLower = word.toList)
    (filled : word ≠ "") (letters : word.toList.all Char.isAlpha = true) (rest : List Char) :
    splitScheme (name ++ ':' :: rest) = some (word, rest) := by
  have alpha (c : Char) (member : c ∈ name) : c.isAlpha = true := by
    rw [<- spelled, List.all_map] at letters
    exact isAlpha_of_toLower (List.all_eq_true.1 letters c member)
  have plain : ':' ∉ name := fun member => absurd (alpha ':' member) (by decide)
  have inside : name.all isSchemeChar = true :=
    List.all_eq_true.2 fun c member => by simp [isSchemeChar, Char.isAlphanum, alpha c member]
  have opened : name.head?.any Char.isAlpha = true := by
    cases name with
    | nil => exact absurd (String.toList_eq_nil_iff.1 spelled.symm) filled
    | cons first others => exact alpha first List.mem_cons_self
  rw [splitScheme, Text.cut_append ':' name rest plain]
  simp only
  rw [opened, inside, spelled, String.ofList_toList]
  rfl

theorem name_of_splitScheme {chars rest : List Char} {scheme : String}
    (found : splitScheme chars = some (scheme, rest)) :
    exists name, chars = name ++ ':' :: rest /\ name.map Char.toLower = scheme.toList := by
  rw [splitScheme] at found
  split at found
  next name behind cut =>
    split at found
    next =>
      cases found
      exact ⟨name, Text.append_of_cut cut, (String.toList_ofList).symm⟩
    next => cases found
  next => cases found

def portPart (digits : Option (List Char)) : List Char :=
  digits.elim [] (':' :: ·)

theorem append_of_splitHost {inBrackets : Bool} {text host port : List Char}
    (found : splitHost inBrackets text = (host, port)) :
    exists digits, text = host ++ portPart digits /\ port = portPart digits := by
  induction text generalizing inBrackets host with
  | nil =>
    cases found
    exact ⟨none, rfl, rfl⟩
  | cons c rest ih =>
    rw [splitHost] at found
    split at found
    next colon =>
      cases found
      simp only [Bool.and_eq_true, decide_eq_true_eq] at colon
      exact ⟨some rest, by rw [colon.1]; rfl, by rw [colon.1]; rfl⟩
    next =>
      simp only [Prod.mk.injEq] at found
      obtain ⟨rfl, behind⟩ := found
      obtain ⟨digits, split, port⟩ := ih (Prod.ext rfl behind)
      exact ⟨digits, congrArg (c :: ·) split, port⟩

theorem splitHost_append {host : List Char} (plain : ':' ∉ host /\ '[' ∉ host) (rest : List Char) :
    splitHost false (host ++ rest) = (host ++ (splitHost false rest).1, (splitHost false rest).2) := by
  induction host with
  | nil => rfl
  | cons c host ih =>
    simp only [List.mem_cons, not_or] at plain
    obtain ⟨⟨colon, colons⟩, opening, openings⟩ := plain
    rw [List.cons_append, splitHost, if_neg (by simp [Ne.symm colon])]
    simp only [Ne.symm opening, if_false, ite_self, ih ⟨colons, openings⟩, List.cons_append]

theorem splitHost_brackets {inner : List Char} (plain : ']' ∉ inner) (rest : List Char) :
    splitHost true (inner ++ ']' :: rest) =
      (inner ++ ']' :: (splitHost false rest).1, (splitHost false rest).2) := by
  induction inner with
  | nil => simp [splitHost]
  | cons c inner ih =>
    simp only [List.mem_cons, not_or] at plain
    rw [List.cons_append, splitHost, if_neg (by simp)]
    simp only [Ne.symm plain.1, if_false, ite_self, ih plain.2, List.cons_append]

theorem splitHost_of_parse {text : List Char} {host : Host} (read : Host.parse text = .ok host)
    (digits : Option (List Char)) : splitHost false (text ++ portPart digits) = (text, portPart digits) := by
  have ended : splitHost false (portPart digits) = ([], portPart digits) := by
    cases digits with
    | none => rfl
    | some digits => simp [portPart, splitHost]
  by_cases opened : text.head? = some '['
  next =>
    obtain ⟨inner, address, rfl, inside, -⟩ := Host.brackets_of_parse read opened
    have single : ']' ∉ inner := fun member => absurd (Ipv6.isAddressChar_of_parse? inside member) (by decide)
    rw [List.cons_append, splitHost, if_neg (by decide)]
    simp only [if_true]
    rw [List.append_assoc, List.singleton_append, splitHost_brackets single, ended]
  next =>
    have plain := @Host.not_mem_of_parse _ _ read opened
    rw [splitHost_append ⟨plain (by decide), plain (by decide)⟩, ended, List.append_nil]

structure Site where
  slashes : List Char
  user : Option (List Char)
  host : List Char
  port : Option (List Char)
  tail : List Char
deriving DecidableEq, Repr

def Site.authority (site : Site) : List Char :=
  site.user.elim [] (· ++ ['@']) ++ (site.host ++ portPart site.port)

def Site.text (site : Site) : List Char :=
  site.slashes ++ (site.authority ++ site.tail)

/-- The port that a scheme has anyway stands for itself in its absence, and in the absence of its digits. -/
def NamesPort (usual : UInt16) (digits : Option (List Char)) (port : UInt16) : Prop :=
  match digits with
  | none | some [] => port = usual
  | some digits => Decimal.wholeNumber? digits = some port.toNat

structure Site.Names (site : Site) (usual : UInt16) (host : Host) (port : UInt16) : Prop where
  slashes : forall c, c ∈ site.slashes -> c = '/' \/ c = '\\'
  user : forall user, site.user = some user -> forall c, c ∈ user -> endsAuthority true c = false
  host : Host.parse site.host = .ok host
  port : NamesPort usual site.port port
  tail : forall c, site.tail.head? = some c -> endsAuthority true c = true

theorem parsePort_eq_ok_iff {digits : List Char} (filled : digits ≠ []) {given : Option UInt16} :
    parsePort digits = .ok given <->
      exists port, Decimal.wholeNumber? digits = some (UInt16.toNat port) /\ given = some port := by
  rw [parsePort, if_neg (by simpa using filled)]
  constructor
  next =>
    intro read
    split at read
    next value found =>
      cases read
      obtain ⟨whole, small⟩ := Option.filter_eq_some_iff.1 found
      refine ⟨UInt16.ofNat value, ?_, rfl⟩
      rw [whole, UInt16.toNat_ofNat_of_lt' (Nat.lt_succ_of_le (of_decide_eq_true small))]
    next => cases read
  next =>
    rintro ⟨port, whole, rfl⟩
    have found : (Decimal.wholeNumber? digits).filter (· <= 65535) = some port.toNat :=
      Option.filter_eq_some_iff.2 ⟨whole, decide_eq_true (Nat.le_of_lt_succ port.toNat_lt)⟩
    rw [found]
    simp

theorem portPart_iff {usual : UInt16} {digits : Option (List Char)} {own : Option UInt16} :
    (exists given, parsePortPart (portPart digits) = .ok given /\ given.filter (· != usual) = own) <->
      exists port, NamesPort usual digits port /\ (if port = usual then none else some port) = own := by
  have kept (port : UInt16) : (some port).filter (· != usual) = if port = usual then none else some port := by
    by_cases same : port = usual <;> simp [Option.filter, same]
  have absent : (exists given, (.ok none : Except UrlProblem (Option UInt16)) = .ok given /\
      given.filter (· != usual) = own) <->
        exists port, port = usual /\ (if port = usual then none else some port) = own := by
    simp
  match digits with
  | none | some [] => exact absent
  | some (first :: rest) =>
    have read := @parsePort_eq_ok_iff _ (List.cons_ne_nil first rest)
    simp only [portPart, Option.elim_some, parsePortPart, read, NamesPort]
    constructor
    next =>
      rintro ⟨given, ⟨port, whole, rfl⟩, own⟩
      exact ⟨port, whole, (kept port).symm.trans own⟩
    next =>
      rintro ⟨port, whole, own⟩
      exact ⟨some port, ⟨port, whole, rfl⟩, (kept port).trans own⟩

theorem endsAuthority_iff {c : Char} : endsAuthority true c = true <-> c ∈ ['/', '?', '#', '\\'] := by
  simp [endsAuthority, or_assoc]

section Names

variable {site : Site} {usual port : UInt16} {host : Host}

theorem Site.Names.digits (names : site.Names usual host port) {c : Char} (member : c ∈ portPart site.port) :
    c = ':' \/ Decimal.isDigit c = true := by
  have port := names.port
  match given : site.port with
  | none =>
    rw [given] at member
    cases member
  | some [] =>
    rw [given] at member
    exact .inl (List.mem_singleton.1 member)
  | some (first :: rest) =>
    rw [given] at member port
    exact (List.mem_cons.1 member).imp_right ((Decimal.wholeNumber?_eq_some_iff.1 port).2.1 c)

theorem Site.Names.filled (names : site.Names usual host port) : site.host ≠ [] := by
  intro empty
  have read := names.host
  rw [empty, Host.parse_nil] at read
  cases read

theorem Site.Names.plain (names : site.Names usual host port) {c : Char}
    (member : c ∈ site.host ++ portPart site.port) : c ∉ ['@', '/', '\\', '?', '#'] := by
  rcases List.mem_append.1 member with inside | behind
  next => exact Host.plain_of_parse names.host inside
  rcases names.digits behind with rfl | digit
  next => decide
  next =>
    have apart : forall c, c ∈ ['@', '/', '\\', '?', '#'] -> Decimal.isDigit c = false := by
      simp only [List.mem_cons, List.not_mem_nil, or_false, forall_eq_or_imp, forall_eq]
      decide
    exact fun other => Bool.false_ne_true ((apart c other).symm.trans digit)

theorem Site.Names.unended (names : site.Names usual host port) {c : Char} (member : c ∈ site.authority) :
    endsAuthority true c = false := by
  have named (inside : c ∈ site.host ++ portPart site.port) : endsAuthority true c = false := by
    have among : ['/', '?', '#', '\\'] ⊆ ['@', '/', '\\', '?', '#'] := by simp
    exact Bool.eq_false_iff.2 fun ends => names.plain inside (among (endsAuthority_iff.1 ends))
  rw [authority] at member
  cases given : site.user with
  | none =>
    rw [given] at member
    exact named member
  | some user =>
    rw [given] at member
    rcases List.mem_append.1 member with before | behind
    next =>
      rcases List.mem_append.1 before with inside | mark
      next => exact names.user user given c inside
      next =>
        rw [List.mem_singleton.1 mark]
        rfl
    next => exact named behind

theorem parseWeb_text (names : site.Names usual host port) (scheme : String) : parseWeb scheme usual site.text =
    .ok { scheme, host := some host, port := if port = usual then none else some port } := by
  have unended : forall c, c ∈ site.authority -> (!endsAuthority true c) = true := fun c member => by
    rw [names.unended member]
    rfl
  -- The slashes end where the authority begins: it is not empty, and no slash is in it.
  have opened : site.text.dropWhile (fun c => decide (c = '/') || decide (c = '\\')) = site.authority ++ site.tail := by
    obtain ⟨first, others, filled⟩ := List.exists_cons_of_ne_nil
      (show site.authority ≠ [] by simp [Site.authority, names.filled])
    have solid : endsAuthority true first = false := names.unended (by simp [filled])
    simp only [endsAuthority, Bool.or_eq_false_iff, Bool.true_and] at solid
    rw [Site.text, List.dropWhile_append_of_pos fun c member => by simpa using names.slashes c member, filled,
      List.cons_append, List.dropWhile_cons_of_neg (by simp [solid])]
  have bounded : (site.authority ++ site.tail).takeWhile (fun c => !endsAuthority true c) = site.authority := by
    rw [List.takeWhile_append_of_pos unended]
    cases tail : site.tail with
    | nil => simp
    | cons first rest =>
      have ends := names.tail first (by rw [tail]; rfl)
      simp [ends]
  -- Neither the host nor the port holds an at sign, so the last one ends the user information.
  have cut : Text.cutLast '@' site.authority = (site.user, site.host ++ portPart site.port) :=
    Text.cutLast_append site.user fun member => names.plain member (by decide)
  obtain ⟨given, ported, own⟩ := portPart_iff.2 ⟨port, names.port, rfl⟩
  simp only [parseWeb, opened, bounded, cut, splitHost_of_parse names.host, names.host, ported]
  rw [if_neg (by simpa using names.filled), <- own]
  rfl

end Names

theorem names_of_parseWeb {scheme : String} {usual : UInt16} {rest : List Char} {url : Url}
    (read : parseWeb scheme usual rest = .ok url) : exists site host port, rest = Site.text site /\
      site.Names usual host port /\
        url = { scheme, host := some host, port := if port = usual then none else some port } := by
  simp only [parseWeb] at read
  generalize opened : rest.dropWhile (fun c => decide (c = '/') || decide (c = '\\')) = behind at read
  generalize bounded : behind.takeWhile (fun c => !endsAuthority true c) = authority at read
  rcases cut : Text.cutLast '@' authority with ⟨user, site⟩
  rcases split : splitHost false site with ⟨hostText, portText⟩
  simp only [cut, split] at read
  split at read
  next => cases read
  next =>
    obtain ⟨host, parsed, read⟩ := ok_of_bind read
    obtain ⟨given, ported, read⟩ := ok_of_bind read
    cases read
    obtain ⟨digits, whole, rfl⟩ := append_of_splitHost split
    obtain ⟨port, named, own⟩ := portPart_iff.1 ⟨given, ported, rfl⟩
    refine ⟨{
      slashes := rest.takeWhile fun c => decide (c = '/') || decide (c = '\\')
      user
      host := hostText
      port := digits
      tail := behind.dropWhile fun c => !endsAuthority true c
    }, host, port, ?_, ⟨?_, ?_, parsed, named, ?_⟩, ?_⟩
    next =>
      simp only [Site.text, Site.authority]
      rw [<- whole, <- Text.append_of_cutLast cut, <- bounded, List.takeWhile_append_dropWhile, <- opened,
        List.takeWhile_append_dropWhile]
    next => exact fun c member => by simpa using List.mem_takeWhile_imp member
    next =>
      rintro user rfl c member
      have inside : c ∈ authority := by
        rw [Text.append_of_cutLast cut]
        simp [member]
      rw [<- bounded] at inside
      simpa using List.mem_takeWhile_imp inside
    next =>
      intro c first
      have stops := List.head?_dropWhile_not (fun c => !endsAuthority true c) behind
      simp only at first
      rw [first] at stops
      simpa using stops
    next => rw [own]

end Url

namespace Address

/-- The text is the name of the scheme, in letters of any case, and a site that names host and port. -/
def Spells (text : List Char) (address : Address) (port : UInt16) : Prop :=
  exists name site, text = name ++ ':' :: Url.Site.text site /\ name.map Char.toLower = address.scheme.toList /\
    site.Names (usualPort address.secure) address.host port

theorem parse_eq_ok_iff {raw : String} {address : Address} : parse raw = .ok address <->
    exists port, Spells (Url.significant (Text.trim raw)) address port /\
      address.port = if port = usualPort address.secure then none else some port := by
  constructor
  next =>
    intro read
    rw [parse] at read
    split at read
    next => cases read
    next url parsed =>
      rw [ofUrl] at read
      split at read
      next => cases read
      next => cases read
      next secure host known found =>
        cases read
        obtain ⟨rest, cut⟩ := Url.splitScheme_of_parse parsed
        have named := secure?_eq_some_iff.1 known
        rw [Url.parse, cut] at parsed
        simp only [kindOf_of_secure? known] at parsed
        obtain ⟨site, _, port, rfl, names, same⟩ := Url.names_of_parseWeb parsed
        obtain ⟨name, text, spelled⟩ := Url.name_of_splitScheme cut
        rw [same] at found
        obtain rfl := Option.some.inj found
        refine ⟨port, ⟨name, site, text, ?_, names⟩, ?_⟩
        next => rw [spelled, named, scheme]
        next => rw [same]
  next =>
    rintro ⟨port, ⟨name, site, text, spelled, names⟩, own⟩
    have letters : address.scheme ≠ "" /\ address.scheme.toList.all Char.isAlpha = true := by
      rw [scheme]
      split <;> decide
    have cut := Url.splitScheme_of_word spelled letters.1 letters.2 site.text
    have known : secure? address.scheme = some address.secure := secure?_eq_some_iff.2 rfl
    rw [parse, Url.parse, text, cut]
    simp only [kindOf_of_secure? known, Url.parseWeb_text names, ofUrl, known, <- own]

end Address

end VideoRelay
