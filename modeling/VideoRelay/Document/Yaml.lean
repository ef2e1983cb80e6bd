import VideoRelay.Document
import VideoRelay.Document.Yaml.Node

set_option autoImplicit false

namespace VideoRelay.Document.Yaml

open Decimal

inductive Problem where
  | noNumber (literal : String)
  | noKey (shown : String)
deriving DecidableEq, Repr

def Node.keyText : Node -> Except Problem String
  | .bool value => .ok (if value then "true" else "false")
  | .integer value => .ok (toString value)
  | .real spelling => .ok spelling
  | .text value => .ok value
  | key => .error (.noKey key.describe)

mutual

def Node.document : Node -> Except Problem Document
  | .null => .ok Document.null
  | .bool value => .ok (Document.scalar (.bool value))
  | .integer value => .ok (Document.scalar (.integer value))
  | .real spelling =>
    match double? spelling with
    | some value => .ok (Document.scalar (.double value))
    | none => .error (.noNumber spelling)
  | .text value => .ok (Document.text value)
  | .list items => (Node.documents items).map Document.list
  | .table entries => (Node.fields [] entries).map Document.table

def Node.documents : List Node -> Except Problem (List Document)
  | [] => .ok []
  | node :: rest => do
    let document <- node.document
    let others <- Node.documents rest
    return document :: others

/-- Of keys that are written alike the last one counts. -/
def Node.fields (entries : List (String × Document)) : List (Node × Node) -> Except Problem (List (String × Document))
  | [] => .ok entries
  | (key, value) :: rest => do
    let key <- key.keyText
    let value <- value.document
    Node.fields (put entries key value) rest

end

end VideoRelay.Document.Yaml
