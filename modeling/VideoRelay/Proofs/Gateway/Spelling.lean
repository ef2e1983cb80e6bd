import VideoRelay.Gateway.Plan
import VideoRelay.Proofs.Split

set_option autoImplicit false

namespace VideoRelay

open Text

namespace Gateway

namespace Query

theorem not_mem_of_spells {stops bytes spelling : List UInt8} {stop : UInt8} (special : stop ∈ stops)
    (unencoded : hexValue? stop = none) (plain : stop ≠ percentSign /\ stop ≠ plusSign)
    (spelled : Spells stops bytes spelling) : stop ∉ spelling := by
  induction spelled with
  | nil => simp
  | cons head _ ih =>
    rw [List.mem_append, not_or]
    refine ⟨?_, ih⟩
    cases head with
    | literal byte free =>
      rintro among
      cases List.mem_singleton.1 among
      exact free (by simp [special])
    | plus => simp [plain.2]
    | percent byte high low digits =>
      rintro among
      simp only [List.mem_cons, plain.1, List.not_mem_nil, or_false, false_or] at among
      rcases among with rfl | rfl
      next => simp [hexPair?, unencoded] at digits
      next => simp [hexPair?, unencoded] at digits

theorem component_nil : component [] = "" :=
  have empty : Spells [] (utf8Bytes "") [] := .nil
  component_of_spells "" empty

/-- A part of a query with this name and this value. A name alone has the empty value. -/
inductive SpellsField : String × String -> List UInt8 -> Prop
  | valued {name value : String} {front back : List UInt8}
    (named : Spells [ampersand, equalsSign] (utf8Bytes name) front)
    (held : Spells [ampersand] (utf8Bytes value) back) : SpellsField (name, value) (front ++ equalsSign :: back)
  | bare {name : String} {part : List UInt8} (named : Spells [ampersand, equalsSign] (utf8Bytes name) part) :
    SpellsField (name, "") part

namespace SpellsField

variable {entry : String × String} {part : List UInt8}

theorem field (spelled : SpellsField entry part) : Query.field part = entry := by
  have nameless {name : String} {front : List UInt8} (named : Spells [ampersand, equalsSign] (utf8Bytes name) front) :
      equalsSign ∉ front := not_mem_of_spells (by decide) (by decide) (by decide) named
  cases spelled with
  | valued named held =>
    simp only [Query.field, cut_append equalsSign _ _ (nameless named), Option.getD_some,
      component_of_spells _ named, component_of_spells _ held]
  | bare named =>
    simp only [Query.field, cut_of_not_mem equalsSign _ (nameless named), Option.getD_none,
      component_of_spells _ named, component_nil]

theorem undivided (spelled : SpellsField entry part) : ampersand ∉ part := by
  cases spelled with
  | @valued name value front back named held =>
    have before : ampersand ∉ front := not_mem_of_spells (by decide) (by decide) (by decide) named
    have behind : ampersand ∉ back := not_mem_of_spells (by decide) (by decide) (by decide) held
    simp [before, behind, show ampersand ≠ equalsSign by decide]
  | bare named => exact not_mem_of_spells (by decide) (by decide) (by decide) named

theorem ne_nil (spelled : SpellsField entry part) (named : entry.1 ≠ "") : part ≠ [] := by
  rintro rfl
  have read := spelled.field
  rw [← read] at named
  exact named component_nil

end SpellsField

/-- Parts of a query that are spellings of these fields in their order, with any others before, between and behind
them. -/
inductive Carries (known : List String) : List (List UInt8) -> List (String × String) -> Prop
  | nil : Carries known [] []
  | field {entry : String × String} {part : List UInt8} {parts : List (List UInt8)} {entries : List (String × String)}
    (asked : entry.1 ∈ known) (spelled : SpellsField entry part) (rest : Carries known parts entries) :
    Carries known (part :: parts) (entry :: entries)
  | other {part : List UInt8} {parts : List (List UInt8)} {entries : List (String × String)}
    (undivided : ampersand ∉ part) (unasked : (Query.field part).1 ∉ known) (rest : Carries known parts entries) :
    Carries known (part :: parts) entries

def ofKnown (known : List String) (query : Query) : Query :=
  query.filter fun entry => known.contains entry.1

variable {known : List String} {parts : List (List UInt8)} {entries : Query}

theorem Carries.undivided (carries : Carries known parts entries) (part : List UInt8) (among : part ∈ parts) :
    ampersand ∉ part := by
  induction carries with
  | nil => cases among
  | field _ spelled _ ih =>
    rcases List.mem_cons.1 among with rfl | later
    next => exact spelled.undivided
    next => exact ih later
  | other undivided _ _ ih =>
    rcases List.mem_cons.1 among with rfl | later
    next => exact undivided
    next => exact ih later

theorem ofKnown_parse (named : "" ∉ known) (carries : Carries known parts entries) :
    (parse (joined [ampersand] parts)).ofKnown known = entries := by
  have fields : ofKnown known ((parts.filter fun part => !part.isEmpty).map Query.field) = entries := by
    induction carries with
    | nil => rfl
    | @field entry part parts _ asked spelled _ ih =>
      have filled := spelled.ne_nil fun nameless => named (nameless ▸ asked)
      have kept : ofKnown known (((part :: parts).filter fun part => !part.isEmpty).map Query.field) =
          entry :: ofKnown known ((parts.filter fun part => !part.isEmpty).map Query.field) := by
        simp [ofKnown, filled, spelled.field, asked]
      rw [kept, ih]
    | @other part _ _ undivided unasked _ ih =>
      by_cases filled : part = []
      next => simpa [ofKnown, filled] using ih
      next => simpa [ofKnown, filled, unasked] using ih
  by_cases nothing : parts = []
  next => subst nothing; exact fields
  next => rw [parse, pieces_joined nothing carries.undivided]; exact fields

theorem lookup_ofKnown {name : String} (asked : name ∈ known) (query : Query) :
    (query.ofKnown known).lookup name = query.lookup name := by
  induction query with
  | nil => rfl
  | cons entry rest ih =>
    obtain ⟨other, value⟩ := entry
    by_cases same : name = other
    next => subst same; simp [ofKnown, asked]
    next =>
      have unequal : (name == other) = false := by simpa using same
      rw [List.lookup_cons, unequal]
      by_cases kept : other ∈ known
      next => simpa [ofKnown, kept, List.lookup_cons, unequal] using ih
      next => simpa [ofKnown, kept] using ih

theorem repeatedAfter?_ofKnown {seen : List String} (among : forall name, name ∈ seen -> name ∈ known) (query : Query) :
    repeatedAfter? known seen (query.ofKnown known) = repeatedAfter? known seen query := by
  induction query generalizing seen with
  | nil => rfl
  | cons entry rest ih =>
    obtain ⟨name, value⟩ := entry
    by_cases asked : name ∈ known
    next =>
      have further (other : String) (held : other ∈ name :: seen) : other ∈ known := by
        rcases List.mem_cons.1 held with rfl | earlier
        next => exact asked
        next => exact among other earlier
      have kept : ofKnown known ((name, value) :: rest) = (name, value) :: ofKnown known rest := by
        simp [ofKnown, asked]
      rw [kept, repeatedAfter?, repeatedAfter?, ih further, ih among]
    next =>
      have unseen : name ∉ seen := fun held => asked (among name held)
      have left : ofKnown known ((name, value) :: rest) = ofKnown known rest := by simp [ofKnown, asked]
      rw [left, ih among, repeatedAfter?]
      simp [unseen, asked]

theorem repeatedAfter?_nodup {seen : List String} {query : Query}
    (distinct : (query.map Prod.fst).Nodup) (fresh : forall entry, entry ∈ query -> entry.1 ∉ seen) :
    repeatedAfter? known seen query = none := by
  induction query generalizing seen with
  | nil => rfl
  | cons entry rest ih =>
    obtain ⟨name, value⟩ := entry
    obtain ⟨once, others⟩ := List.nodup_cons.1 distinct
    have unseen : name ∉ seen := fresh (name, value) List.mem_cons_self
    have later (entry : String × String) (among : entry ∈ rest) : entry.1 ∉ seen :=
      fresh entry (List.mem_cons_of_mem _ among)
    have apart (entry : String × String) (among : entry ∈ rest) : entry.1 ∉ name :: seen := by
      rw [List.mem_cons, not_or]
      exact ⟨fun same => once (List.mem_map.2 ⟨entry, among, same⟩), later entry among⟩
    simp [repeatedAfter?, unseen, ih others apart, ih others later]

end Query

structure Query.Holds (known : List String) (entries query : Query) : Prop where
  unrepeated : query.repeated? known = none
  held : forall name, name ∈ known -> query.lookup name = entries.lookup name

theorem Query.lookup_perm {first second : Query} (same : first.Perm second) (distinct : (first.map Prod.fst).Nodup)
    (name : String) : first.lookup name = second.lookup name := by
  induction same with
  | nil => rfl
  | cons entry _ ih =>
    obtain ⟨key, value⟩ := entry
    rw [List.lookup_cons, List.lookup_cons, ih (List.nodup_cons.1 distinct).2]
  | swap entry other rest =>
    obtain ⟨key, value⟩ := entry
    obtain ⟨otherKey, otherValue⟩ := other
    obtain ⟨apart, -⟩ := List.nodup_cons.1 distinct
    have unequal : otherKey ≠ key := fun same => apart (by simp [same])
    by_cases here : name = key
    next => subst here; simp [List.lookup_cons, beq_eq_false_iff_ne.2 unequal.symm]
    next => simp [List.lookup_cons, beq_eq_false_iff_ne.2 here]
  | trans first _ ihFirst ihSecond =>
    exact (ihFirst distinct).trans (ihSecond ((first.map Prod.fst).nodup_iff.1 distinct))

theorem Query.holds_parse {known : List String} {parts : List (List UInt8)} {entries spelled : Query}
    (named : "" ∉ known) (carries : Query.Carries known parts spelled) (order : spelled.Perm entries)
    (distinct : (entries.map Prod.fst).Nodup) : Query.Holds known entries (Query.parse (joined [ampersand] parts)) := by
  have once : (spelled.map Prod.fst).Nodup := (order.map Prod.fst).nodup_iff.2 distinct
  have read := ofKnown_parse named carries
  refine ⟨?_, fun name asked => ?_⟩
  next =>
    rw [repeated?, ← repeatedAfter?_ofKnown (by simp), read]
    exact repeatedAfter?_nodup once (by simp)
  next => rw [← lookup_ofKnown asked, read, lookup_perm order once]

theorem Resource.rooted_of_path {path : String} {resource : Resource} (known : ofPath? path = some resource) :
    path.toList.head? = some '/' := by
  unfold ofPath? at known
  split at known
  case h_5 => cases known
  all_goals decide

namespace Target

variable {front text : List Char}

theorem withoutAuthority_rooted (rooted : front.head? = some '/') : withoutAuthority front = front := by
  obtain ⟨rest, rfl⟩ : exists rest, front = '/' :: rest := by
    cases front with
    | nil => cases rooted
    | cons first rest => cases rooted; exact ⟨rest, rfl⟩
  unfold withoutAuthority
  split
  next scheme more found =>
    simp only [cut, show ('/' : Char) ≠ ':' by decide, if_false, Prod.mk.injEq] at found
    simp [← found.1]
  next => rfl

theorem withoutAuthority_absolute {scheme : List Char} (plain : ':' ∉ scheme) (relative : scheme.head? ≠ some '/') :
    withoutAuthority (scheme ++ ':' :: '/' :: '/' :: front) =
      let path := front.dropWhile fun c => c != '/' && c != '?'
      if path.head? = some '/' then path else '/' :: path := by
  simp only [withoutAuthority, cut_append ':' _ _ plain, relative, if_false]

theorem withoutAuthority_flat {scheme : List Char} (plain : ':' ∉ scheme)
    (flat : forall rest, front ≠ '/' :: '/' :: rest) :
    withoutAuthority (scheme ++ ':' :: front) = scheme ++ ':' :: front := by
  unfold withoutAuthority
  rw [cut_append ':' _ _ plain]
  split
  next found => cases found; exact absurd rfl (flat _)
  next => rfl

theorem dropWhile_query : (front ++ '?' :: text).dropWhile (fun c => c != '/' && c != '?') =
    front.dropWhile (fun c => c != '/' && c != '?') ++ '?' :: text := by
  rw [List.dropWhile_append]
  split
  next nothing => rw [List.isEmpty_iff.1 nothing]; rfl
  next => rfl

theorem head?_append_query : (front ++ '?' :: text).head? = some '/' <-> front.head? = some '/' := by
  cases front <;> simp

theorem withoutAuthority_query (rooted : ':' ∈ front \/ front.head? = some '/') :
    withoutAuthority (front ++ '?' :: text) = withoutAuthority front ++ '?' :: text := by
  by_cases begins : front.head? = some '/'
  next => rw [withoutAuthority_rooted begins, withoutAuthority_rooted (head?_append_query.2 begins)]
  next =>
    obtain ⟨scheme, rest, rfl, plain⟩ := List.eq_append_cons_of_mem (rooted.resolve_right begins)
    rw [List.append_assoc, List.cons_append]
    by_cases flat : forall more, rest ≠ '/' :: '/' :: more
    next =>
      have still (more : List Char) : rest ++ '?' :: text ≠ '/' :: '/' :: more := by
        match rest, flat with
        | [], _ => simp
        | [first], _ => simp
        | first :: second :: others, flat =>
          intro same
          cases same
          exact flat others rfl
      rw [withoutAuthority_flat plain flat, withoutAuthority_flat plain still, List.append_assoc, List.cons_append]
    next =>
      obtain ⟨more, rfl⟩ := Classical.not_forall_not.1 flat
      have relative : scheme.head? ≠ some '/' := by
        intro same
        rw [List.head?_append, same] at begins
        exact begins rfl
      rw [List.cons_append, List.cons_append, withoutAuthority_absolute plain relative,
        withoutAuthority_absolute plain relative, dropWhile_query]
      simp only [head?_append_query]
      split <;> rfl

theorem mem_withoutAuthority {c : Char} (among : c ∈ withoutAuthority front) : c = '/' \/ c ∈ front := by
  unfold withoutAuthority at among
  split at among
  next scheme rest found =>
    have whole := append_of_cut found
    dsimp only at among
    split at among
    next => exact .inr among
    next =>
      have kept (held : c ∈ rest.dropWhile fun c => c != '/' && c != '?') : c ∈ front := by
        rw [whole]
        simp [(List.dropWhile_suffix _).subset held]
      split at among
      next => exact .inr (kept among)
      next => exact (List.mem_cons.1 among).imp_right kept
  next => exact .inr among

theorem parse_query {front text : String} {resource : Resource}
    (known : Resource.ofPath? (parse front).path = some resource) (plain : '?' ∉ front.toList)
    (unmarked : '#' ∉ (front ++ "?" ++ text).toList) :
    parse (front ++ "?" ++ text) = { path := (parse front).path, query := .parse (utf8Bytes text) } := by
  have chars : (front ++ "?" ++ text).toList = front.toList ++ '?' :: text.toList := by
    simp [String.toList_append]
  rw [chars] at unmarked
  have unmarkedFront : '#' ∉ front.toList := by
    intro marked
    exact unmarked (by simp [marked])
  have unquestioned : '?' ∉ withoutAuthority front.toList := by
    intro among
    rcases mem_withoutAuthority among with slash | inside
    next => cases slash
    next => exact plain inside
  have path : (parse front).path = String.ofList (withoutAuthority front.toList) := by
    simp only [parse, cut_of_not_mem '#' _ unmarkedFront, cut_of_not_mem '?' _ unquestioned]
  have rooted : ':' ∈ front.toList \/ front.toList.head? = some '/' := by
    by_cases absolute : ':' ∈ front.toList
    next => exact .inl absolute
    next =>
      have whole : withoutAuthority front.toList = front.toList := by
        simp only [withoutAuthority, cut_of_not_mem ':' _ absolute]
      rw [path, whole, String.ofList_toList] at known
      exact .inr (Resource.rooted_of_path known)
  simp only [parse, chars, cut_of_not_mem '#' _ unmarked, withoutAuthority_query rooted,
    cut_append '?' _ _ unquestioned, Option.getD_some, String.ofList_toList]
  simp only [cut_of_not_mem '#' _ unmarkedFront, cut_of_not_mem '?' _ unquestioned]

end Target

/-- A request for a resource with these fields in its query, in any spelling. -/
inductive Request.Asks (resource : Resource) (known : List String) (entries : Query) : Request -> Prop
  | get {front text : String} {parts : List (List UInt8)} {spelled : Query}
    (path : Resource.ofPath? (Target.parse front).path = some resource) (plain : '?' ∉ front.toList)
    (unmarked : '#' ∉ (front ++ "?" ++ text).toList) (query : utf8Bytes text = joined [Query.ampersand] parts)
    (carries : Query.Carries known parts spelled) (order : spelled.Perm entries) :
    Asks resource known entries { method := "GET", target := front ++ "?" ++ text }

end Gateway

end VideoRelay
