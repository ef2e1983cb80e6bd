set_option autoImplicit false

namespace VideoRelay.Rehearsal

/-- A machine with states `S` and actions `A`, and what a cast in state `C` would do next: an action, or nothing
that the machine notices, and the cast after it. -/
structure Play (S A C : Type) where
  act : S -> A -> Option S
  moves : S -> C -> List (Option A × C)

namespace Play

variable {S A C : Type}

def attempt (play : Play S A C) (state : S) (move : Option A × C) : Option (S × C) :=
  match move with
  | (none, cast) => some (state, cast)
  | (some action, cast) => (play.act state action).map fun state => (state, cast)

def step (play : Play S A C) (state : S) (cast : C) : Option (S × C) :=
  (play.moves state cast).findSome? (play.attempt state)

def run (play : Play S A C) : Nat -> S -> C -> S × C
  | 0, state, cast => (state, cast)
  | fuel + 1, state, cast =>
    match play.step state cast with
    | none => (state, cast)
    | some (state, cast) => run play fuel state cast

end Play

end VideoRelay.Rehearsal
