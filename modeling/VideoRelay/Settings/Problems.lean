import VideoRelay.Backends

set_option autoImplicit false

namespace VideoRelay.Settings

inductive Problem where
  | portZero
  | addressMissing (field : String)
  | addressInvalid (field : String) (fault : Fault)
  | thumbnailEmpty
  | unknownLevel (level : String)
  | unknownFormat (format : String)
deriving DecidableEq, Repr

def Problem.text : Problem -> String
  | portZero => "server.http_port must be greater than 0"
  | addressMissing field => field ++ " is required"
  | addressInvalid field fault => field ++ " is invalid: " ++ fault.text
  | thumbnailEmpty => "thumbnail.width and thumbnail.height must be greater than 0"
  | unknownLevel level => "logging.level '" ++ level ++ "' is not a log level"
  | unknownFormat format => "logging.format must be 'json' or 'pretty', got '" ++ format ++ "'"

def problemIf (condition : Bool) (problem : Problem) : List Problem :=
  if condition then [problem] else []

def storageField : String := "upstream.storage_address"

def encoderField : String := "upstream.encoder_address"

def addressProblems (field address : String) : List Problem :=
  if Text.isBlank address then [.addressMissing field]
  else match Address.parse address with
    | .ok _ => []
    | .error fault => [.addressInvalid field fault]

def levels : List String :=
  ["trace", "debug", "info", "warn", "warning", "error"]

def lowerCase (text : String) : String :=
  String.ofList (text.toList.map Char.toLower)

def formats : List String :=
  ["json", "pretty"]

def problems (settings : Settings) : List Problem :=
  problemIf (settings.server.httpPort == 0) .portZero ++
  addressProblems storageField settings.backends.storageAddress ++
  addressProblems encoderField settings.backends.encoderAddress ++
  problemIf (settings.thumbnail.width == 0 || settings.thumbnail.height == 0) .thumbnailEmpty ++
  problemIf (!levels.contains (lowerCase settings.logging.level)) (.unknownLevel settings.logging.level) ++
  problemIf (!formats.contains settings.logging.format) (.unknownFormat settings.logging.format)

theorem mem_problemIf (condition : Bool) (problem other : Problem) :
    other ∈ problemIf condition problem <-> condition = true /\ other = problem := by
  cases condition <;> simp [problemIf]

end VideoRelay.Settings
