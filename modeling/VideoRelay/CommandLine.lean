import VideoRelay.Text.Similar
import VideoRelay.Text.Wrapped

set_option autoImplicit false

namespace VideoRelay.CommandLine

def configVariable : String := "DTVAULT_BFF_CONFIG"

inductive Flag where
  | config | help
deriving DecidableEq, Repr

def Flag.name : Flag -> String
  | config => "config"
  | help => "help"

def Flag.usage : Flag -> String
  | config => "--config <CONFIG>"
  | help => "--help"

inductive Misuse where
  | valueMissing
  | repeated
  | unexpected (argument : String) (similar : Option Flag) (used : List Flag)
  | unneededValue (value : String) (named : Bool)
deriving DecidableEq, Repr

def usageLine (parts : List String) : String :=
  "Usage: dtvault-bff " ++ if parts.isEmpty then "[OPTIONS]" else " ".intercalate parts

def unneededUsage (named : Bool) : List String :=
  if named then [Flag.help.usage, "<" ++ Flag.config.usage ++ ">"] else [Flag.help.usage]

def printed (text : String) : String :=
  String.ofList (Text.withoutCommands text.toList)

def quoted (text : String) : String :=
  "'" ++ printed text ++ "'"

def Misuse.lines : Misuse -> List String
  | valueMissing => ["a value is required for '--config <CONFIG>' but none was supplied"]
  | repeated =>
    ["the argument '--config <CONFIG>' cannot be used multiple times", "", usageLine []]
  | unexpected argument none used =>
    ["unexpected argument " ++ quoted argument ++ " found", "", usageLine (used.map Flag.usage)]
  | unexpected argument (some flag) used =>
    ["unexpected argument " ++ quoted argument ++ " found", "",
      "  tip: a similar argument exists: '--" ++ flag.name ++ "'", "", usageLine (used.map Flag.usage)]
  | unneededValue value named =>
    ["unexpected value " ++ quoted value ++ " for '--help' found; no more were expected", "",
      usageLine (unneededUsage named)]

def Misuse.text (misuse : Misuse) : String :=
  "error: " ++ "\n".intercalate (misuse.lines ++ ["", "For more information, try '--help'."]) ++ "\n"

def descriptionColumn : Nat := 25

def lastColumn : Nat := 100

def configDescription (fallback : Option String) : String :=
  let text := "Configuration file (YAML or TOML) [env: " ++ configVariable ++ "=" ++ fallback.getD "" ++ "]"
  let wrapped := Text.wrapped (lastColumn - descriptionColumn) text.toList
  String.ofList (Text.indentedBelow descriptionColumn wrapped)

def bold (text : String) : String :=
  let command (number : String) : String := String.ofList [Char.ofNat 27, '['] ++ number ++ "m"
  command "1" ++ text ++ command "0"

def helpText (fallback : Option String) : String :=
  printed ("\n".intercalate [
    "DTVault back-end-for-front-end: video relay and thumbnails",
    "",
    usageLine [],
    "",
    "Options:",
    "  " ++ bold "-c" ++ ", " ++ bold "--config" ++ " <CONFIG>  " ++ configDescription fallback,
    "  " ++ bold "-h" ++ ", " ++ bold "--help" ++ "             Print help"] ++ "\n")

/-- What was read so far: the value, and an option whose value is awaited or not yet put in its place. -/
structure Progress where
  config : Option String := none
  pending : Option (Option String) := none

inductive Stop where
  | help
  | misuse (misuse : Misuse)
deriving DecidableEq, Repr

def Progress.name (progress : Progress) (value : String) : Except Stop Progress :=
  if progress.config.isSome then .error (.misuse .repeated) else .ok { config := some value }

def Progress.settle (progress : Progress) : Except Stop Progress :=
  match progress.pending with
  | none => .ok progress
  | some none => .error (.misuse .valueMissing)
  | some (some value) => progress.name value

def Progress.option (progress : Progress) (attached : Option String) : Except Stop Progress :=
  progress.settle.bind fun progress =>
    match attached with
    | some value => progress.name value
    | none => .ok { progress with pending := some none }

def Progress.used (progress : Progress) : List Flag :=
  match progress.settle with
  | .ok { config := some _, .. } => [.config]
  | .ok _ => []
  | .error _ => if progress.pending = some none && progress.config.isSome then [.config] else []

def withFlag (flag : Flag) (used : List Flag) : List Flag :=
  if used.contains flag then used else used ++ [flag]

def similar (name : String) : Option Flag :=
  Text.mostAlike Flag.name name [.config, .help]

def unexpectedLong (progress : Progress) (name : String) : Stop :=
  let flag := similar name
  let used := (flag.map fun flag => withFlag flag progress.used).getD progress.used
  .misuse (.unexpected ("--" ++ name) flag used)

def splitValue (chars : List Char) : String × Option String :=
  let name := chars.takeWhile (· != '=')
  let value := match chars.dropWhile (· != '=') with
    | [] => none
    | _ :: rest => some (String.ofList rest)
  (String.ofList name, value)

def readLong (progress : Progress) (chars : List Char) : Except Stop Progress :=
  let (name, value) := splitValue chars
  if name = Flag.config.name then
    progress.option value
  else if name = Flag.help.name then
    match value with
    | none => progress.settle.bind fun _ => .error .help
    | some value => .error (.misuse (.unneededValue value progress.config.isSome))
  else .error (unexpectedLong progress name)

def readShort (progress : Progress) : List Char -> Except Stop Progress
  | 'c' :: rest =>
    let value := match rest with
      | [] => none
      | '=' :: value => some (String.ofList value)
      | value => some (String.ofList value)
    progress.option value
  | 'h' :: _ => progress.settle.bind fun _ => .error .help
  | letter :: _ => .error (.misuse (.unexpected (String.ofList ['-', letter]) none []))
  | [] => .error (.misuse (.unexpected "-" none []))

def readPlain (progress : Progress) (argument : String) : Except Stop Progress :=
  if progress.pending = some none then .ok { progress with pending := some (some argument) }
  else .error (.misuse (.unexpected argument none []))

/-- Behind two hyphens nothing is an option, and nothing else is known. -/
def readAll (progress : Progress) : List String -> Except Stop Progress
  | [] => progress.settle
  | argument :: rest =>
    match argument.toList with
    | ['-', '-'] =>
      match rest with
      | [] => progress.settle
      | other :: _ => .error (.misuse (.unexpected other none []))
    | '-' :: '-' :: chars => (readLong progress chars).bind fun progress => readAll progress rest
    | '-' :: c :: chars => (readShort progress (c :: chars)).bind fun progress => readAll progress rest
    | _ => (readPlain progress argument).bind fun progress => readAll progress rest

def parse (arguments : List String) (fallback : Option String) : Except Stop (Option String) :=
  (readAll {} arguments).map fun progress => progress.config.or fallback

end VideoRelay.CommandLine
