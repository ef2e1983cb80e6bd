import VideoRelay.Fault

set_option autoImplicit false

namespace VideoRelay

structure Preset where
  id : String := ""
  title : String := ""
  command : String := ""
deriving DecidableEq, Repr

namespace Preset

def find (catalog : List Preset) (id : String) : Except Fault Preset :=
  match catalog.find? (fun preset => preset.id == id) with
  | some preset => .ok preset
  | none => .error (.presetNotFound id)

theorem find_eq_error_iff (catalog : List Preset) (id : String) (fault : Fault) :
    find catalog id = .error fault <->
      fault = .presetNotFound id /\ forall preset, preset ∈ catalog -> preset.id ≠ id := by
  unfold find
  cases found : catalog.find? (fun preset => preset.id == id) with
  | none =>
    simp only [List.find?_eq_none, beq_iff_eq] at found
    constructor
    next => rintro ⟨⟩; exact ⟨rfl, found⟩
    next => rintro ⟨rfl, _⟩; rfl
  | some preset =>
    have member := List.mem_of_find?_eq_some found
    have same := List.find?_some found
    simp only [beq_iff_eq] at same
    constructor
    next => intro wrong; cases wrong
    next => rintro ⟨_, absent⟩; exact absurd same (absent preset member)

end Preset

end VideoRelay
