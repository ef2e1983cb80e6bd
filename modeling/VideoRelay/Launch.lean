import VideoRelay.CommandLine
import VideoRelay.ListenAddress
import VideoRelay.Journal.Filter
import VideoRelay.Startup

set_option autoImplicit false

namespace VideoRelay

open Settings

/-- What a launch finds. `openLog` tells why a log file cannot be written. -/
structure Surroundings where
  arguments : List String
  environment : Environment
  files : Files
  openLog : String -> Except String Unit

structure Log where
  file : Option String
  form : Journal.Form
  records : List Journal.Record
deriving DecidableEq, Repr

inductive Ending where
  | help
  | misuse
  | failed
  | listening (address : ListenAddress)
deriving DecidableEq, Repr

def Ending.exitCode : Ending -> Nat
  | help | listening _ => 0
  | failed => 1
  | misuse => 2

def Log.write (time : String) (log : Log) : String :=
  String.join (log.records.map (log.form.write time))

structure Launch where
  output : String := ""
  errorText : String := ""
  log : Option Log := none
  ending : Ending
deriving DecidableEq, Repr

namespace Launch

def filterVariable : String := "RUST_LOG"

def linesText (lines : List String) : String :=
  String.join (lines.map fun line => line ++ "\n")

def failed (notes : List String) (cause : String) : Launch :=
  { errorText := linesText (notes ++ ["Error: " ++ cause]), ending := .failed }

def startRecords (settings : Settings) : List Journal.Record :=
  [{ message := "DTVault BFF starting..." },
    { message := "HTTP address: " ++ settings.httpAddress }]

def backendsRecord (backends : Backends) : Journal.Record :=
  { message := "Upstream services configured"
    fields := [("storage", backends.storage.uri), ("encoder", backends.encoder.uri)] }

def invalidAddress (address : String) : String :=
  "Invalid HTTP address '" ++ address ++ "': invalid socket address syntax"

def prepare (settings : Settings) : List Journal.Record × Except String ListenAddress :=
  match settings.backends.resolve with
  | .error fault => (startRecords settings, .error fault.text)
  | .ok backends =>
    let records := startRecords settings ++ [backendsRecord backends]
    match ListenAddress.parse? settings.httpAddress with
    | some address => (records, .ok address)
    | none => (records, .error (invalidAddress settings.httpAddress))

def logOf (surroundings : Surroundings) (settings : Settings) (records : List Journal.Record) : Log :=
  let given := surroundings.environment.lookup filterVariable
  let filter := Journal.chooseFilter given settings.logging.level
  { file := settings.logging.filePath
    form := .ofName settings.logging.format
    records := records.filter (Journal.passes filter) }

def openLog (surroundings : Surroundings) (settings : Settings) : Except String Unit :=
  match settings.logging.filePath with
  | none => .ok ()
  | some path => surroundings.openLog path

def withSettings (surroundings : Surroundings) (notes : List String) (settings : Settings) : Launch :=
  match openLog surroundings settings with
  | .error cause => failed notes cause
  | .ok _ =>
    let (records, address) := prepare settings
    let log := some (logOf surroundings settings records)
    match address with
    | .error cause => { failed notes cause with log }
    | .ok address => { errorText := linesText notes, log, ending := .listening address }

def withFile (surroundings : Surroundings) (named : Option String) : Launch :=
  let report := Startup.loadSettings named surroundings.files surroundings.environment
  match report.outcome with
  | .error failure => failed report.notes failure.text
  | .ok settings => withSettings surroundings report.notes settings

def run (surroundings : Surroundings) : Launch :=
  let fallback := surroundings.environment.lookup CommandLine.configVariable
  match CommandLine.parse surroundings.arguments fallback with
  | .error .help => { output := CommandLine.helpText fallback, ending := .help }
  | .error (.misuse misuse) => { errorText := misuse.text, ending := .misuse }
  | .ok named => withFile surroundings named

end Launch

end VideoRelay
