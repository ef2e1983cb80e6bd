import VideoRelay.Launch
import VideoRelay.Text.Utf8

set_option autoImplicit false

namespace VideoRelay.Rehearsal

open Settings

structure Disk where
  entries : List (String × String) := []
deriving DecidableEq, Repr

inductive PathFault where
  | missing | notDirectory | isDirectory | tooLong | nul
deriving DecidableEq, Repr

def PathFault.text : PathFault -> String
  | missing => "No such file or directory (os error 2)"
  | notDirectory => "Not a directory (os error 20)"
  | isDirectory => "Is a directory (os error 21)"
  | tooLong => "File name too long (os error 36)"
  | nul => "file name contained an unexpected NUL byte"

/-- A place that a path leads to: below the working directory, so many levels above it, or below the root. -/
inductive Spot where
  | inside (parts : List (List Char))
  | above (levels : Nat)
  | system (parts : List (List Char))
deriving DecidableEq, Repr

namespace Spot

def parent : Spot -> Spot
  | inside [] => above 1
  | inside parts => inside parts.dropLast
  | above levels => above (levels + 1)
  | system parts => system parts.dropLast

def child? (name : List Char) : Spot -> Option Spot
  | inside parts => some (inside (parts ++ [name]))
  | above _ => none
  | system parts => some (system (parts ++ [name]))

end Spot

namespace Disk

def systemDirectories : List String :=
  ["", "bin", "dev", "etc", "home", "lib", "opt", "proc", "root", "run", "sbin", "sys", "tmp", "usr", "usr/bin",
    "usr/lib", "usr/local", "usr/share", "var", "var/lib", "var/log", "var/tmp"]

def outputDevice : String := "dev/stdout"

def systemDevices : List String :=
  ["dev/full", "dev/null", "dev/random", "dev/stderr", "dev/stdin", outputDevice, "dev/urandom", "dev/zero"]

def systemFiles : List String :=
  ["etc/group", "etc/hostname", "etc/hosts", "etc/passwd", "etc/resolv.conf"]

def nameOf (parts : List (List Char)) : String :=
  String.ofList (Text.joined ['/'] parts)

def systemItem? (name : String) : Option Settings.Item :=
  if systemDirectories.contains name then some .directory
  else if systemDevices.contains name then some .device
  else if systemFiles.contains name then some (.file "")
  else none

def insideItem? (disk : Disk) (parts : List (List Char)) : Option Settings.Item :=
  let leadsTo (entry : String × String) : Bool :=
    let path := Files.components entry.1
    parts.isPrefixOf path && parts.length < path.length
  match disk.entries.lookup (nameOf parts) with
  | some text => some (.file text)
  | none => if parts.isEmpty || disk.entries.any leadsTo then some .directory else none

def itemAt? (disk : Disk) : Spot -> Option Settings.Item
  | .inside parts => disk.insideItem? parts
  | .above _ => some .directory
  | .system parts => systemItem? (nameOf parts)

def maxName : Nat := 255

def maxPath : Nat := 4095

def enter (disk : Disk) (spot : Spot) (name : List Char) : Except PathFault Spot :=
  if maxName < (Text.utf8Bytes (String.ofList name)).length then .error .tooLong
  else match spot.child? name with
    | none => .error .missing
    | some next => if (disk.itemAt? next).isSome then .ok next else .error .missing

/-- One step along a path, which can only start from a directory. -/
def step (disk : Disk) (spot : Spot) (part : List Char) : Except PathFault Spot :=
  match disk.itemAt? spot with
  | some .directory =>
    if part.isEmpty || part = ['.'] then .ok spot
    else if part = ['.', '.'] then .ok spot.parent
    else disk.enter spot part
  | _ => .error .notDirectory

def pathParts (path : String) : Except PathFault (List (List Char)) :=
  if path.toList.contains (Char.ofNat 0) then .error .nul
  else if path.isEmpty then .error .missing
  else if maxPath < (Text.utf8Bytes path).length then .error .tooLong
  else .ok (Text.pieces '/' path.toList)

def start (path : String) : Spot :=
  if path.toList.head? = some '/' then .system [] else .inside []

def walk (disk : Disk) (spot : Spot) (parts : List (List Char)) : Except PathFault Spot :=
  parts.foldlM disk.step spot

def spot (disk : Disk) (path : String) : Except PathFault Spot :=
  (pathParts path).bind (disk.walk (start path))

def files (disk : Disk) : Files where
  item? path := (disk.spot path).toOption.bind disk.itemAt?

def place (disk : Disk) (directory : Spot) (name : List Char) : Except PathFault Spot :=
  match disk.enter directory name, directory.child? name with
  | .ok found, _ => if disk.itemAt? found = some .directory then .error .isDirectory else .ok found
  | .error .missing, some new => .ok new
  | .error fault, _ => .error fault

/-- The place of a file that can be appended to; it is made if its directory exists. -/
def logSpot (disk : Disk) (path : String) : Except PathFault Spot :=
  (pathParts path).bind fun parts =>
    let named := (parts.reverse.dropWhile List.isEmpty).reverse
    match named.getLast? with
    | none | some ['.'] | some ['.', '.'] => (disk.walk (start path) parts).bind fun _ => .error .isDirectory
    | some name =>
      (disk.walk (start path) (named.dropLast ++ [[]])).bind fun directory =>
        if named.length < parts.length then .error .isDirectory else disk.place directory name

def openLog (disk : Disk) (path : String) : Except String Unit :=
  ((disk.logSpot path).map fun _ => ()).mapError PathFault.text

def append (disk : Disk) (spot : Spot) (text : String) : Disk :=
  match spot with
  | .inside parts =>
    let name := nameOf parts
    let content := (disk.entries.lookup name).getD ""
    { entries := Document.put disk.entries name (content ++ text) }
  | _ => disk

end Disk

def timeMark : String := "<time>"

structure Performance where
  launch : Launch
  output : String
  disk : Disk

def perform (arguments : List String) (environment : Environment) (disk : Disk) : Performance :=
  let launch := Launch.run { arguments, environment, files := disk.files, openLog := disk.openLog }
  match launch.log with
  | none => { launch, output := launch.output, disk }
  | some log =>
    let text := log.write timeMark
    match log.file with
    | none => { launch, output := launch.output ++ text, disk }
    | some path =>
      match disk.logSpot path with
      | .error _ => { launch, output := launch.output, disk }
      | .ok spot =>
        let shown := if spot = .system (Files.components Disk.outputDevice) then text else ""
        { launch, output := launch.output ++ shown, disk := disk.append spot text }

def Performance.fileText (performance : Performance) (name : String) : String :=
  (performance.disk.entries.lookup name).getD ""

end VideoRelay.Rehearsal
