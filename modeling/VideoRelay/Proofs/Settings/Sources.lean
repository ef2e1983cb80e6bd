import VideoRelay.Settings.Load

set_option autoImplicit false

namespace VideoRelay.Settings

inductive Setting where
  | host | httpPort
  | storageAddress | encoderAddress | connectTimeoutSeconds
  | width | height | positionSeconds
  | level | format | filePath
deriving DecidableEq, Repr

def last? {A B : Type} (find : A -> Option B) : List A -> Option B
  | [] => none
  | item :: rest => (last? find rest).or (find item)

theorem last?_append {A B : Type} (find : A -> Option B) (first second : List A) :
    last? find (first ++ second) = (last? find second).or (last? find first) := by
  induction first with
  | nil => simp [last?]
  | cons item rest ih => simp [last?, ih, Option.or_assoc]

/-- The layers under the legacy variables, which stand in the environment too. -/
structure Layers where
  file : Option (String × Document)
  environment : Environment

inductive Source where
  | legacy (value : String)
  | layer (tree : Tree)

namespace Setting

def group : Setting -> String
  | host | httpPort => "server"
  | storageAddress | encoderAddress | connectTimeoutSeconds => "upstream"
  | width | height | positionSeconds => "thumbnail"
  | level | format | filePath => "logging"

def name : Setting -> String
  | host => "host"
  | httpPort => "http_port"
  | storageAddress => "storage_address"
  | encoderAddress => "encoder_address"
  | connectTimeoutSeconds => "connect_timeout_seconds"
  | width => "width"
  | height => "height"
  | positionSeconds => "position_seconds"
  | level => "level"
  | format => "format"
  | filePath => "file_path"

def key (setting : Setting) : String :=
  setting.group ++ "." ++ setting.name

def path (setting : Setting) : KeyPath where
  root := setting.group
  steps := [.key setting.name]

abbrev Value : Setting -> Type
  | httpPort => UInt16
  | connectTimeoutSeconds => UInt64
  | width | height | positionSeconds => UInt32
  | filePath => Option String
  | host | storageAddress | encoderAddress | level | format => String

def get (settings : Settings) : (setting : Setting) -> setting.Value
  | host => settings.server.host
  | httpPort => settings.server.httpPort
  | storageAddress => settings.backends.storageAddress
  | encoderAddress => settings.backends.encoderAddress
  | connectTimeoutSeconds => settings.backends.connectTimeoutSeconds
  | width => settings.thumbnail.width
  | height => settings.thumbnail.height
  | positionSeconds => settings.thumbnail.positionSeconds
  | level => settings.logging.level
  | format => settings.logging.format
  | filePath => settings.logging.filePath

def read : (setting : Setting) -> Place -> Except LoadFault setting.Value
  | host, place | storageAddress, place | encoderAddress, place | level, place | format, place => place.text
  | httpPort, place => (place.unsigned 16).map .ofNat
  | connectTimeoutSeconds, place => (place.unsigned 64).map .ofNat
  | width, place | height, place | positionSeconds, place => (place.unsigned 32).map .ofNat
  | filePath, place => place.optionalText

def fieldOf? {V : Type} (name : String) (fields : V -> List (String × V)) (value : V) : List KeyStep -> Option V
  | [] => last? (fun field => if field.1 = name then some field.2 else none) (fields value)
  | [.key other] => if other = name then some value else none
  | _ => none

def entryValue? {V : Type} (setting : Setting) (fields : V -> List (String × V)) (entry : String × V) : Option V :=
  let path := KeyPath.ofName entry.1
  if path.root = setting.group then fieldOf? setting.name fields entry.2 path.steps else none

def inFile? (setting : Setting) (file : Option (String × Document)) : Option Tree :=
  file.bind fun file =>
    (last? (setting.entryValue? Document.entries) file.2.entries).map (Tree.ofDocument file.1)

def inVariable? (setting : Setting) (entry : String × String) : Option Tree :=
  if settingName? entry.1 = some setting.key then
    some (.scalar (some environmentOrigin) (variableScalar entry.2))
  else none

def legacyName? : Setting -> Option String
  | httpPort => some legacyPortName
  | storageAddress => some legacyStorageName
  | encoderAddress => some legacyEncoderName
  | _ => none

def source? (setting : Setting) (layers : Layers) : Option Source :=
  ((setting.legacyName?.bind (filled layers.environment.values)).map .legacy).or
    (((last? setting.inVariable? layers.environment).or (setting.inFile? layers.file)).map .layer)

def ofLegacy? : (setting : Setting) -> String -> Option setting.Value
  | httpPort, value => legacyPort? value
  | storageAddress, value | encoderAddress, value => some value
  | _, _ => none

def convert? (setting : Setting) : Source -> Option setting.Value
  | .legacy value => setting.ofLegacy? value
  | .layer tree => (setting.read { key := setting.key, tree }).toOption

/-- The converted value of the highest source, or the default. -/
def settled? (setting : Setting) (layers : Layers) : Option setting.Value :=
  match setting.source? layers with
  | none => some (setting.get {})
  | some source => setting.convert? source

end Setting

def KeepsTable (mapping : Prop) : List KeyStep -> Prop
  | [] => mapping
  | .key _ :: _ => True
  | .index _ :: _ => False

def IsSectioned (document : Document) : Prop :=
  forall entry, entry ∈ document.entries -> forall setting : Setting,
    (KeyPath.ofName entry.1).root = setting.group ->
      KeepsTable (exists fields, entry.2 = .table fields) (KeyPath.ofName entry.1).steps

/-- The file is made of mappings, and each prefixed variable names a field. -/
structure Layers.Known (layers : Layers) : Prop where
  sectioned : forall file, layers.file = some file -> IsSectioned file.2
  named : forall entry, entry ∈ layers.environment -> forall key, settingName? entry.1 = some key ->
    exists setting : Setting, key = setting.key

def Layers.settings (layers : Layers) : Except LoadFault Settings :=
  ofLayers layers.file layers.environment

/-- One entry more in one of the layers, that sets the field: in the file by its path, or by a mapping with this field
alone. -/
inductive Layers.Sets (setting : Setting) : Layers -> Layers -> Prop where
  | legacy {layers : Layers} {name : String} (named : setting.legacyName? = some name) (value : String) :
      Sets setting layers { layers with environment := layers.environment ++ [(name, value)] }
  | prefixed {layers : Layers} {name : String} (named : settingName? name = some setting.key) (value : String) :
      Sets setting layers { layers with environment := layers.environment ++ [(name, value)] }
  | path {layers : Layers} {file : String} {entries : List (String × Document)}
      (opened : layers.file = some (file, .table entries)) {key : String} (named : KeyPath.ofName key = setting.path)
      (value : Document) :
      Sets setting layers { layers with file := some (file, .table (entries ++ [(key, value)])) }
  | part {layers : Layers} {file : String} {entries : List (String × Document)}
      (opened : layers.file = some (file, .table entries)) {key : String}
      (named : KeyPath.ofName key = { root := setting.group }) (value : Document) :
      Sets setting layers
        { layers with file := some (file, .table (entries ++ [(key, .table [(setting.name, value)])])) }

end VideoRelay.Settings
