import Mathlib.Data.List.TakeWhile
import VideoRelay.Text.Blank

set_option autoImplicit false

namespace VideoRelay.Text

section Ends

variable {A : Type} {drop : A -> Bool}

theorem dropWhile_ends {front core back : List A} (before : forall item, item ∈ front -> drop item = true)
    (behind : forall item, item ∈ back -> drop item = true) (solid : forall item, item ∈ core -> drop item = false) :
    (((front ++ (core ++ back)).dropWhile drop).reverse.dropWhile drop).reverse = core := by
  have kept (items : List A) (all : forall item, item ∈ items -> drop item = false) : items.dropWhile drop = items := by
    cases items with
    | nil => rfl
    | cons first rest => rw [List.dropWhile_cons_of_neg (by simp [all first List.mem_cons_self])]
  rw [List.dropWhile_append_of_pos before]
  cases core with
  | nil =>
    rw [List.nil_append, List.dropWhile_eq_nil_iff.2 behind]
    rfl
  | cons first rest =>
    have whole : (first :: rest ++ back).dropWhile drop = first :: rest ++ back := by
      rw [List.cons_append, List.dropWhile_cons_of_neg (by simp [solid first List.mem_cons_self])]
    rw [whole, List.reverse_append,
      List.dropWhile_append_of_pos fun item member => behind item (List.mem_reverse.1 member),
      kept _ fun item member => solid item (List.mem_reverse.1 member), List.reverse_reverse]

theorem dropWhile_of_solid {items : List A} (solid : forall item, item ∈ items -> drop item = false) :
    ((items.dropWhile drop).reverse.dropWhile drop).reverse = items := by
  have whole := dropWhile_ends (List.forall_mem_nil _) (List.forall_mem_nil _) solid
  rwa [List.nil_append, List.append_nil] at whole

theorem exists_dropWhile_ends (items : List A) : exists front back,
    items = front ++ (((items.dropWhile drop).reverse.dropWhile drop).reverse ++ back) /\
      (forall item, item ∈ front -> drop item = true) /\ forall item, item ∈ back -> drop item = true := by
  refine ⟨items.takeWhile drop, ((items.dropWhile drop).reverse.takeWhile drop).reverse, ?_, ?_, ?_⟩
  next => rw [<- List.reverse_append, List.takeWhile_append_dropWhile, List.reverse_reverse,
    List.takeWhile_append_dropWhile]
  next => exact fun item member => List.mem_takeWhile_imp member
  next => exact fun item member => List.mem_takeWhile_imp (List.mem_reverse.1 member)

end Ends

theorem trimChars_of_blank_ends {front core back : List Char} (before : forall c, c ∈ front -> isBlankChar c = true)
    (behind : forall c, c ∈ back -> isBlankChar c = true) (solid : forall c, c ∈ core -> isBlankChar c = false) :
    trimChars (front ++ (core ++ back)) = core :=
  dropWhile_ends before behind solid

theorem exists_blank_ends (chars : List Char) : exists front back, chars = front ++ (trimChars chars ++ back) /\
    (forall c, c ∈ front -> isBlankChar c = true) /\ forall c, c ∈ back -> isBlankChar c = true :=
  exists_dropWhile_ends chars

end VideoRelay.Text
