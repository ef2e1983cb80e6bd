import VideoRelay.Settings.Load
import VideoRelay.Settings.Problems

set_option autoImplicit false

namespace VideoRelay.Startup

open Settings

inductive Failure where
  | fileMissing (path : String)
  | unloadable (path : Option String) (fault : LoadFault)
  | invalid (problems : List Problem)
deriving DecidableEq, Repr

def problemsText (problems : List Problem) : String :=
  "Configuration validation failed with " ++ toString problems.length ++ " error(s): " ++
    "; ".intercalate (problems.map Problem.text)

def Failure.text : Failure -> String
  | fileMissing path => "Config file " ++ path ++ " does not exist"
  | unloadable (some path) fault => "Failed to load " ++ path ++ ": " ++ fault.text
  | unloadable none fault => "Failed to load config: " ++ fault.text
  | invalid problems => problemsText problems

def usualFiles : List String :=
  ["config.yaml", "/config/config.yaml"]

def chooseFile (named : Option String) (files : Files) : Option String :=
  named.or (usualFiles.find? files.has)

structure Report where
  notes : List String
  outcome : Except Failure Settings

def loadingNote (path : String) : String :=
  "Loading config from " ++ path

def noFileNote : String :=
  "No config file found, using environment variables"

def problemNote (problem : Problem) : String :=
  "Config validation error: " ++ problem.text

def checked (note : String) (settings : Settings) : Report :=
  match settings.problems with
  | [] => { notes := [note], outcome := .ok settings }
  | problems =>
    { notes := note :: problems.map problemNote, outcome := .error (.invalid problems) }

def loadFrom (note : String) (path : Option String) (files : Files) (environment : Environment) :
    Report :=
  match Settings.load path files environment with
  | .error fault => { notes := [note], outcome := .error (.unloadable path fault) }
  | .ok settings => checked note settings

def loadSettings (named : Option String) (files : Files) (environment : Environment) : Report :=
  match chooseFile named files with
  | none => loadFrom noFileNote none files environment
  | some path =>
    if files.has path then loadFrom (loadingNote path) (some path) files environment
    else { notes := [], outcome := .error (.fileMissing path) }

end VideoRelay.Startup
