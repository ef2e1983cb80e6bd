import VideoRelay.Settings.LoadFault
import VideoRelay.Settings.Tree

set_option autoImplicit false

namespace VideoRelay.Settings

open Decimal

def truthWord? (text : String) : Option Nat :=
  let word := String.ofList (text.toList.map Char.toLower)
  if ["true", "on", "yes"].contains word then some 1
  else if ["false", "off", "no"].contains word then some 0
  else none

def maxUnsigned (bits : Nat) : Nat :=
  Decimal.pow2 bits - 1

structure Place where
  key : String
  tree : Tree

namespace Place

def mismatch {A : Type} (place : Place) (found : Found) (expected : Expected) : Except LoadFault A :=
  .error (.mismatch found expected place.key place.tree.origin)

def unsigned64 (place : Place) : Except LoadFault Nat :=
  match place.tree with
  | .scalar _ (.bool value) => .ok (if value then 1 else 0)
  | .scalar _ (.integer value) =>
    if 0 <= value then .ok value.toNat else place.mismatch (.integer64 value) .nonNegative
  | .scalar _ (.double value) => .ok (value.toIntClamped 0 (maxUnsigned 64)).toNat
  | .scalar _ (.text value) =>
    match (truthWord? value).or (unsigned? (maxUnsigned 64) value) with
    | some number => .ok number
    | none => place.mismatch (.text value) .integer
  | .scalar _ .null => place.mismatch .null .integer
  | .list _ _ => place.mismatch .list .integer
  | .table _ _ => place.mismatch .table .integer

/-- A number that is too large for its field is reported without its origin. -/
def unsigned (bits : Nat) (place : Place) : Except LoadFault Nat :=
  place.unsigned64.bind fun value =>
    if value <= maxUnsigned bits then .ok value
    else .error (.mismatch (.unsigned64 value) (.unsigned bits) place.key none)

def text (place : Place) : Except LoadFault String :=
  match place.tree with
  | .scalar _ (.bool value) => .ok (if value then "true" else "false")
  | .scalar _ (.integer value) => .ok (toString value)
  | .scalar _ (.double value) => .ok value.text
  | .scalar _ (.text value) => .ok value
  | .scalar _ .null => place.mismatch .null .text
  | .list _ _ => place.mismatch .list .text
  | .table _ _ => place.mismatch .table .text

def optionalText (place : Place) : Except LoadFault (Option String) :=
  match place.tree with
  | .scalar _ .null => .ok none
  | _ => place.text.map some

end Place

abbrev Fields := String -> Nat -> Option Place

def fieldsOfTable (key : String) (entries : List (String × Tree)) : Fields :=
  fun name _ => (entries.lookup name).map fun tree => { key := key ++ "." ++ name, tree }

def fieldsOfList (key : String) (items : List Tree) : Fields :=
  fun _ place => items[place]?.map fun tree => { key := key ++ "[" ++ toString place ++ "]", tree }

def foundScalar : Scalar -> Found
  | .null => .null
  | .bool value => .bool value
  | .integer value => .integer value
  | .double value => .double value.textWithPoint
  | .text value => .text value

/-- The fields of a section; a scalar has none, and is reported without its origin. -/
def sectionFields (name key : String) (tree : Option Tree) : Except LoadFault Fields :=
  match tree with
  | none => .ok fun _ _ => none
  | some (.table _ entries) => .ok (fieldsOfTable key entries)
  | some (.list _ items) => .ok (fieldsOfList key items)
  | some (.scalar _ value) => .error (.mismatch (foundScalar value) (.fields name) key none)

def readField {A : Type} (fields : Fields) (name : String) (place : Nat) (default : A)
    (read : Place -> Except LoadFault A) : Except LoadFault A :=
  match fields name place with
  | none => .ok default
  | some found => read found

def readServer (tree : Option Tree) : Except LoadFault ServerSettings := do
  let fields <- sectionFields "ServerConfig" "server" tree
  let host <- readField fields "host" 0 ({} : ServerSettings).host Place.text
  let httpPort <- readField fields "http_port" 1 ({} : ServerSettings).httpPort.toNat (Place.unsigned 16)
  return { host, httpPort := .ofNat httpPort }

def readBackends (tree : Option Tree) : Except LoadFault BackendSettings := do
  let fields <- sectionFields "UpstreamConfig" "upstream" tree
  let storageAddress <- readField fields "storage_address" 0 "" Place.text
  let encoderAddress <- readField fields "encoder_address" 1 "" Place.text
  let seconds <- readField fields "connect_timeout_seconds" 2
    ({} : BackendSettings).connectTimeoutSeconds.toNat (Place.unsigned 64)
  return { storageAddress, encoderAddress, connectTimeoutSeconds := .ofNat seconds }

def readThumbnail (tree : Option Tree) : Except LoadFault ImageSpec := do
  let fields <- sectionFields "ThumbnailConfig" "thumbnail" tree
  let width <- readField fields "width" 0 ({} : ImageSpec).width.toNat (Place.unsigned 32)
  let height <- readField fields "height" 1 ({} : ImageSpec).height.toNat (Place.unsigned 32)
  let position <- readField fields "position_seconds" 2
    ({} : ImageSpec).positionSeconds.toNat (Place.unsigned 32)
  return { width := .ofNat width, height := .ofNat height, positionSeconds := .ofNat position }

def readLogging (tree : Option Tree) : Except LoadFault LoggingSettings := do
  let fields <- sectionFields "LoggingConfig" "logging" tree
  let level <- readField fields "level" 0 ({} : LoggingSettings).level Place.text
  let format <- readField fields "format" 1 ({} : LoggingSettings).format Place.text
  let filePath <- readField fields "file_path" 2 none Place.optionalText
  return { level, format, filePath }

def ofTree (tree : Tree) : Except LoadFault Settings := do
  let server <- readServer (tree.get? "server")
  let backends <- readBackends (tree.get? "upstream")
  let thumbnail <- readThumbnail (tree.get? "thumbnail")
  let logging <- readLogging (tree.get? "logging")
  return { server, backends, thumbnail, logging }

end VideoRelay.Settings
