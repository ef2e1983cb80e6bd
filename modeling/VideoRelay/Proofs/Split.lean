import VideoRelay.Text.Split

set_option autoImplicit false

namespace VideoRelay.Text

variable {A : Type}

theorem last_separator_unique {separator : A} {front front' back back' : List A}
    (same : front ++ separator :: back = front' ++ separator :: back') (last : separator ∉ back)
    (last' : separator ∉ back') : front = front' /\ back = back' := by
  rcases List.append_eq_append_iff.1 same with ⟨between, rfl, rest⟩ | ⟨between, rfl, rest⟩
  all_goals
    cases between with
    | nil =>
      simp only [List.nil_append, List.cons.injEq, true_and] at rest
      simp [rest]
    | cons first between =>
      simp only [List.cons_append, List.cons.injEq] at rest
      obtain ⟨-, rfl⟩ := rest
      simp at last last'

theorem joined_cons (separator : List A) (piece : List A) {rest : List (List A)} (more : rest ≠ []) :
    joined separator (piece :: rest) = piece ++ separator ++ joined separator rest := by
  cases rest with
  | nil => exact absurd rfl more
  | cons => rfl

theorem mem_of_mem_joined {separator : List A} {parts : List (List A)} {item : A}
    (member : item ∈ joined separator parts) : item ∈ separator \/ exists part, part ∈ parts /\ item ∈ part := by
  induction parts with
  | nil => cases member
  | cons part rest ih =>
    cases rest with
    | nil => exact .inr ⟨part, List.mem_cons_self, member⟩
    | cons second others =>
      rw [joined_cons _ _ (List.cons_ne_nil _ _), List.mem_append, List.mem_append] at member
      rcases member with (inside | between) | behind
      next => exact .inr ⟨part, List.mem_cons_self, inside⟩
      next => exact .inl between
      next => exact (ih behind).imp_right fun ⟨part, among, inside⟩ => ⟨part, List.mem_cons_of_mem _ among, inside⟩

theorem length_joined_le {separator : List A} {parts : List (List A)} (size : Nat)
    (short : forall part, part ∈ parts -> part.length <= size) :
    (joined separator parts).length <= (size + separator.length) * parts.length := by
  induction parts with
  | nil => simp [joined]
  | cons part rest ih =>
    have first := short part List.mem_cons_self
    have others := ih fun part member => short part (List.mem_cons_of_mem _ member)
    rw [List.length_cons, Nat.mul_succ]
    cases rest with
    | nil => simp only [joined]; omega
    | cons second rest =>
      rw [joined_cons _ _ (List.cons_ne_nil _ _), List.length_append, List.length_append]
      omega

variable [DecidableEq A]

theorem append_of_cut {separator : A} {items front : List A} {back : Option (List A)}
    (found : cut separator items = (front, back)) : items = front ++ back.elim [] (separator :: ·) := by
  induction items generalizing front with
  | nil => cases found; rfl
  | cons first rest ih =>
    simp only [cut] at found
    split at found
    next same => cases found; simp [same]
    next =>
      simp only [Prod.mk.injEq] at found
      obtain ⟨rfl, behind⟩ := found
      exact congrArg (first :: ·) (ih (Prod.ext rfl behind))

theorem cut_of_not_mem (separator : A) (items : List A) (plain : separator ∉ items) :
    cut separator items = (items, none) := by
  induction items with
  | nil => rfl
  | cons first rest ih =>
    simp only [List.mem_cons, not_or] at plain
    simp [cut, Ne.symm plain.1, ih plain.2]

theorem joined_pieces (separator : A) (items : List A) : joined [separator] (pieces separator items) = items := by
  induction items with
  | nil => rfl
  | cons first rest ih =>
    have nonempty := pieces_ne_nil separator rest
    simp only [pieces]
    split
    next same => rw [joined_cons _ _ nonempty, ih, same]; rfl
    next =>
      cases cut : pieces separator rest with
      | nil => exact absurd cut nonempty
      | cons piece others =>
        rw [cut] at ih
        cases others with
        | nil => rw [<- ih]; rfl
        | cons => rw [<- ih]; rfl

theorem pieces_joined {separator : A} {parts : List (List A)} (nonempty : parts ≠ [])
    (plain : forall part, part ∈ parts -> separator ∉ part) : pieces separator (joined [separator] parts) = parts := by
  induction parts with
  | nil => exact absurd rfl nonempty
  | cons part rest ih =>
    have first := plain part List.mem_cons_self
    cases rest with
    | nil => exact pieces_of_not_mem separator part first
    | cons second others =>
      rw [joined_cons _ _ (List.cons_ne_nil _ _), List.append_assoc, List.singleton_append,
        pieces_append separator part _ first, ih (List.cons_ne_nil _ _)]
      exact fun part member => plain part (List.mem_cons_of_mem _ member)

end VideoRelay.Text
