import VideoRelay.Settings.Tree

set_option autoImplicit false

namespace VideoRelay.Settings

open Decimal

abbrev Environment := List (String × String)

def environmentOrigin : String := "the environment"

def namePrefix : List Char := "dtvault_bff__".toList

def pointed : List Char -> List Char
  | '_' :: '_' :: rest => '.' :: pointed rest
  | c :: rest => c :: pointed rest
  | [] => []

/-- The key path that a variable sets, if its name has the prefix. -/
def settingName? (name : String) : Option String :=
  let chars := name.toList.map Char.toLower
  if namePrefix.isPrefixOf chars then
    some (String.ofList (pointed (chars.drop namePrefix.length)))
  else none

def variableScalar (value : String) : Scalar :=
  let word := String.ofList (value.toList.map Char.toLower)
  if word = "true" then .bool true
  else if word = "false" then .bool false
  else match signed? value with
    | some number => .integer number
    | none => match double? value with
      | some number => .double number
      | none => .text value

def environmentLayer (environment : Environment) : List (String × Tree) :=
  environment.filterMap fun (name, value) =>
    (settingName? name).map fun key => (key, .scalar (some environmentOrigin) (variableScalar value))

end VideoRelay.Settings
