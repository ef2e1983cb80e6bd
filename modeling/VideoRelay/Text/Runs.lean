set_option autoImplicit false

namespace VideoRelay.Text

/-- Whether the run that holds the code point lies in the set; `inside` says so of the first run. -/
def inRun (inside : Bool) : List Nat -> Nat -> Bool
  | [], _ => false
  | run :: rest, point => if point < run then inside else inRun (!inside) rest (point - run)

end VideoRelay.Text
