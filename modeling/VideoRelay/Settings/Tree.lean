import VideoRelay.Document
import VideoRelay.Settings.KeyPath

set_option autoImplicit false

namespace VideoRelay.Settings

inductive Tree where
  | scalar (origin : Option String) (value : Scalar)
  | list (origin : Option String) (items : List Tree)
  | table (origin : Option String) (entries : List (String × Tree))

namespace Tree

def null : Tree := scalar none .null

def empty : Tree := table none []

def origin : Tree -> Option String
  | scalar origin _ | list origin _ | table origin _ => origin

mutual

def ofDocument (origin : String) : Document -> Tree
  | .scalar value => scalar (some origin) value
  | .list items => list (some origin) (ofItems origin items)
  | .table entries => table (some origin) (ofEntries origin entries)

def ofItems (origin : String) : List Document -> List Tree
  | [] => []
  | item :: rest => ofDocument origin item :: ofItems origin rest

def ofEntries (origin : String) : List (String × Document) -> List (String × Tree)
  | [] => []
  | (key, value) :: rest => (key, ofDocument origin value) :: ofEntries origin rest

end

/-- The entries to merge into; anything but a table gives way to a new one. -/
def openTable : Tree -> Option String × List (String × Tree)
  | table origin entries => (origin, entries)
  | _ => (none, [])

def openList : Tree -> Option String × List Tree
  | list origin items => (origin, items)
  | _ => (none, [])

def alterKey (key : String) (change : Tree -> Tree) (tree : Tree) : Tree :=
  let (origin, entries) := tree.openTable
  table origin (Document.put entries key (change ((entries.lookup key).getD null)))

/-- Makes room for a place: at the end, or in front of places counted from the end. -/
def makeRoom (items : List Tree) (place : Int) : List Tree × Nat :=
  if 0 <= place then (items ++ List.replicate (place.toNat + 1 - items.length) null, place.toNat)
  else
    let back := (-place).toNat
    if back <= items.length then (items, items.length - back)
    else (List.replicate (back - items.length) null ++ items, 0)

def alterIndex (place : Int) (change : Tree -> Tree) (tree : Tree) : Tree :=
  let (origin, items) := tree.openList
  let (items, index) := makeRoom items place
  list origin (items.modify index change)

def alter (change : Tree -> Tree) : List KeyStep -> Tree -> Tree
  | [], tree => change tree
  | .key name :: steps, tree => alterKey name (alter change steps) tree
  | .index place :: steps, tree => alterIndex place (alter change steps) tree

mutual

def merge (tree : Tree) : Tree -> Tree
  | table _ incoming =>
    let (origin, entries) := tree.openTable
    table origin (mergeEntries entries incoming)
  | scalar origin value => scalar origin value
  | list origin items => list origin items

def mergeEntries (entries : List (String × Tree)) : List (String × Tree) -> List (String × Tree)
  | [] => entries
  | (key, value) :: rest =>
    mergeEntries (Document.put entries key (merge ((entries.lookup key).getD null) value)) rest

end

def set (tree : Tree) (name : String) (value : Tree) : Tree :=
  alter (fun old => old.merge value) (KeyPath.ofName name).allSteps tree

def setAll (tree : Tree) (values : List (String × Tree)) : Tree :=
  values.foldl (fun tree (name, value) => tree.set name value) tree

def get? (tree : Tree) (key : String) : Option Tree :=
  match tree with
  | table _ entries => entries.lookup key
  | _ => none

end Tree

end VideoRelay.Settings
