import Std.Time.DateTime.Timestamp
import VideoRelay.Launch
import VideoRelay.Text.Moment

set_option autoImplicit false

namespace VideoRelay.Program

def readText? (path : String) : IO (Option String) := do
  try
    return some (<- IO.FS.readFile path)
  catch _ =>
    return none

def readEnvironment : IO Settings.Environment := do
  let text := (<- readText? "/proc/self/environ").getD ""
  return (Text.pieces (Char.ofNat 0) text.toList).filterMap fun entry =>
    match Text.cut '=' entry with
    | (name, some value) => some (String.ofList name, String.ofList value)
    | _ => none

def readFiles (named : Option String) : IO Settings.Files := do
  let paths := (named.map fun path => [path]).getD Startup.usualFiles
  let entries <- paths.filterMapM fun path => do
    return (<- readText? path).map fun text => (path, text)
  return { item? := fun path => (entries.lookup path).map .file }

def tryAppend (path : String) : IO (Except String Unit) := do
  try
    let _ <- IO.FS.Handle.mk path .append
    return .ok ()
  catch _ =>
    return .error "No such file or directory (os error 2)"

def timeText : IO String := do
  let now <- Std.Time.Timestamp.now
  let nanos := now.toNanosecondsSinceUnixEpoch.val.toNat
  return Text.momentText (nanos / 1000000000) (nanos % 1000000000 / 1000)

def writeLog (log : Log) : IO Unit := do
  let time <- timeText
  let text := log.write time
  match log.file with
  | none => IO.print text
  | some path => (<- IO.FS.Handle.mk path .append).putStr text

def launch (arguments : List String) : IO Launch := do
  let environment <- readEnvironment
  let fallback := environment.lookup CommandLine.configVariable
  let named := ((CommandLine.parse arguments fallback).toOption).getD none
  let files <- readFiles named
  let report := Startup.loadSettings named files environment
  let logFile := (report.outcome.toOption).bind fun settings => settings.logging.filePath
  let opened <- match logFile with
    | none => pure (.ok ())
    | some path => tryAppend path
  return Launch.run { arguments, environment, files, openLog := fun _ => opened }

end VideoRelay.Program

open VideoRelay in
def main (arguments : List String) : IO UInt32 := do
  let launch <- Program.launch arguments
  IO.print launch.output
  match launch.log with
  | none => pure ()
  | some log => Program.writeLog log
  IO.eprint launch.errorText
  return UInt32.ofNat launch.ending.exitCode
