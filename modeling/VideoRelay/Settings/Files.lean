import VideoRelay.Document.Toml
import VideoRelay.Document.Yaml
import VideoRelay.Settings.LoadFault

set_option autoImplicit false

namespace VideoRelay.Settings

open Decimal

inductive Item where
  | file (text : String)
  | directory
  | device
deriving DecidableEq, Repr

structure Files where
  item? : String -> Option Item

namespace Files

def components (path : String) : List (List Char) :=
  (Text.pieces '/' path.toList).filter fun part => !part.isEmpty && part != ['.']

def plainPath (path : String) : String :=
  let absolute := if path.toList.head? = some '/' then ['/'] else []
  String.ofList (absolute ++ Text.joined ['/'] (components path))

def has (files : Files) (path : String) : Bool :=
  (files.item? path).isSome

def content? (files : Files) (path : String) : Option String :=
  match files.item? path with
  | some (.file text) => some text
  | _ => none

end Files

inductive Format where
  | json | yaml | toml
deriving DecidableEq, Repr

/-- What stands behind the last point of a name, unless the name begins with it. -/
def pathExtension (path : String) : String :=
  let name := ((Files.components path).getLast?).getD []
  match Text.cutLast '.' name with
  | (some (_ :: _), extension) => String.ofList extension
  | _ => ""

def Format.ofExtension? : String -> Option Format
  | "json" => some .json
  | "yaml" | "yml" => some .yaml
  | "toml" => some .toml
  | _ => none

def withoutByteOrderMark (text : String) : String :=
  match text.toList with
  | first :: rest => if first.toNat = 0xfeff then String.ofList rest else text
  | [] => text

def yamlFault (file : String) : Document.Yaml.Problem -> LoadFault
  | .noNumber literal => .noNumber literal file
  | .noKey shown => .noKey shown file

def readYaml (file text : String) : Except LoadFault Document :=
  match Document.Yaml.Node.ofText? text with
  | none => .error (.malformed file)
  | some [] => .ok .empty
  | some [node] => node.document.mapError (yamlFault file)
  | some nodes => .error (.severalDocuments nodes.length file)

def readFormat (format : Format) (file text : String) : Except LoadFault Document :=
  match format with
  | .json => (Document.ofJson? text).elim (.error (.malformed file)) .ok
  | .yaml => readYaml file text
  | .toml => (Document.Toml.parse? text).elim (.error (.malformed file)) .ok

def foundRoot : Document -> Option Found
  | .table _ => none
  | .list _ => some .list
  | .scalar .null => some .null
  | .scalar (.bool value) => some (.bool value)
  | .scalar (.integer value) =>
    some (if isSigned64 value then .integer64 value else .unsigned64 value.toNat)
  | .scalar (.double value) => some (.double value.text)
  | .scalar (.text value) => some (.text value)

def readFile (format : Format) (file text : String) : Except LoadFault Document :=
  (readFormat format file (withoutByteOrderMark text)).bind fun document =>
    match foundRoot document with
    | none => .ok document
    | some found => .error (.noTable found file)

def triedExtensions : List String :=
  ["toml", "json", "yaml", "yml"]

def withExtension (path extension : String) : Option String :=
  match (Files.components path).getLast? with
  | none | some ['.', '.'] => none
  | some _ => some (Files.plainPath path ++ "." ++ extension)

def findExtended (files : Files) (path : String) : Option (String × String × Format) :=
  triedExtensions.findSome? fun extension =>
    (withExtension path extension).bind fun path =>
      (files.content? path).bind fun text => (Format.ofExtension? extension).map fun format => (path, text, format)

def findFile (files : Files) (path : String) : Except LoadFault (String × String × Format) :=
  match files.content? path with
  | some text => match Format.ofExtension? (pathExtension path) with
    | some format => .ok (Files.plainPath path, text, format)
    | none => .error (.unsupportedFormat path)
  | none => (findExtended files path).elim (.error (.notFound path)) .ok

def openFile (files : Files) (path : String) : Except LoadFault (String × Document) :=
  (findFile files path).bind fun (file, text, format) =>
    (readFile format file text).map fun document => (file, document)

end VideoRelay.Settings
