import VideoRelay.Decimal.Shortest

set_option autoImplicit false

namespace VideoRelay

open Decimal

inductive Scalar where
  | null
  | bool (value : Bool)
  | integer (value : Int)
  | double (value : Double)
  | text (value : String)
deriving DecidableEq, Repr

inductive Document where
  | scalar (value : Scalar)
  | list (items : List Document)
  | table (entries : List (String × Document))
deriving Repr

namespace Document

def null : Document := scalar .null

def text (value : String) : Document := scalar (.text value)

def empty : Document := table []

def entries : Document -> List (String × Document)
  | table entries => entries
  | _ => []

def get? (document : Document) (key : String) : Option Document :=
  document.entries.lookup key

def put {V : Type} (entries : List (String × V)) (key : String) (value : V) : List (String × V) :=
  match entries with
  | [] => [(key, value)]
  | (other, old) :: rest =>
    if other = key then (key, value) :: rest else (other, old) :: put rest key value

theorem lookup_put {V : Type} (entries : List (String × V)) (key other : String) (value : V) :
    (put entries key value).lookup other = if other = key then some value else entries.lookup other := by
  induction entries with
  | nil => by_cases same : other = key <;> simp [put, List.lookup_cons, same, beq_eq_false_iff_ne.2]
  | cons entry rest ih =>
    obtain ⟨first, old⟩ := entry
    by_cases replaced : first = key <;> by_cases same : other = key <;> by_cases found : other = first <;>
      simp_all [put, List.lookup_cons, beq_eq_false_iff_ne.2]

end Document

end VideoRelay
