import VideoRelay.Settings.Environment
import VideoRelay.Settings.Files
import VideoRelay.Settings.Reading

set_option autoImplicit false

namespace VideoRelay.Settings

def fileLayer (file : String) (document : Document) : List (String × Tree) :=
  Tree.ofEntries file document.entries

def layered (file : Option (String × Document)) (environment : Environment) : Tree :=
  let lowest := match file with
    | none => Tree.empty
    | some (name, document) => Tree.empty.setAll (fileLayer name document)
  lowest.setAll (environmentLayer environment)

def Environment.values (environment : Environment) : Variables :=
  fun name => environment.lookup name

def ofLayers (file : Option (String × Document)) (environment : Environment) : Except LoadFault Settings :=
  (ofTree (layered file environment)).bind fun settings =>
    (settings.overrideLegacy environment.values).mapError .legacyPort

def fileAt (files : Files) (path : Option String) : Except LoadFault (Option (String × Document)) :=
  match path with
  | none => .ok none
  | some path => if files.has path then (openFile files path).map some else .ok none

def load (path : Option String) (files : Files) (environment : Environment) :
    Except LoadFault Settings :=
  (fileAt files path).bind fun file => ofLayers file environment

end VideoRelay.Settings
