import Mathlib
import VideoRelay.Proofs.Except
import VideoRelay.Proofs.Settings.Trees

set_option autoImplicit false

namespace VideoRelay.Settings

theorem last?_map {A B C : Type} (find : B -> Option C) (change : A -> B) (items : List A) :
    last? find (items.map change) = last? (fun item => find (change item)) items := by
  induction items with
  | nil => rfl
  | cons item rest ih => simp [last?, ih]

theorem map_last? {A B C : Type} (change : B -> C) (find : A -> Option B) (items : List A) :
    (last? find items).map change = last? (fun item => (find item).map change) items := by
  induction items with
  | nil => rfl
  | cons item rest ih => simp [last?, <- ih, Option.map_or]

namespace Setting

theorem path_of_key (setting : Setting) : KeyPath.ofName setting.key = setting.path := by
  cases setting <;> decide +kernel

theorem path_injective {setting other : Setting} (same : setting.path = other.path) : setting = other := by
  revert same
  cases setting <;> cases other <;> decide

theorem key_injective {setting other : Setting} (same : setting.key = other.key) : setting = other :=
  path_injective (by rw [<- path_of_key, same, path_of_key])

theorem fieldOf?_map {V W : Type} (name : String) {first : V -> List (String × V)} {second : W -> List (String × W)}
    {change : V -> W}
    (fields : forall value, second (change value) = (first value).map fun field => (field.1, change field.2))
    (value : V) (steps : List KeyStep) :
    fieldOf? name second (change value) steps = (fieldOf? name first value steps).map change := by
  match steps with
  | [] =>
    simp only [fieldOf?, fields, last?_map, map_last?]
    congr 1
    funext field
    split <;> rfl
  | [.key other] =>
    simp only [fieldOf?]
    split <;> rfl
  | .key _ :: _ :: _ => rfl
  | .index _ :: _ => rfl

theorem entryValue?_map {V W : Type} {first : V -> List (String × V)} {second : W -> List (String × W)}
    {change : V -> W}
    (fields : forall value, second (change value) = (first value).map fun field => (field.1, change field.2))
    (setting : Setting) (entry : String × V) :
    (setting.entryValue? first entry).map change = setting.entryValue? second (entry.1, change entry.2) := by
  simp only [entryValue?, fieldOf?_map setting.name fields]
  split <;> rfl

theorem group_and_name {setting other : Setting} :
    other.group = setting.group /\ other.name = setting.name <-> other = setting := by
  constructor
  next =>
    rintro ⟨group, name⟩
    exact path_injective (by rw [path, path, group, name])
  next =>
    rintro rfl
    exact ⟨rfl, rfl⟩

theorem entryValue?_of_path {V : Type} (setting : Setting) {other : Setting} (fields : V -> List (String × V))
    {key : String} (named : KeyPath.ofName key = other.path) (value : V) :
    setting.entryValue? fields (key, value) = if other = setting then some value else none := by
  simp only [entryValue?, named, path, fieldOf?, <- ite_and, group_and_name]

theorem entryValue?_of_part (setting : Setting) {other : Setting} {key : String}
    (named : KeyPath.ofName key = { root := other.group }) (value : Document) :
    setting.entryValue? Document.entries (key, .table [(other.name, value)]) =
      if other = setting then some value else none := by
  simp only [entryValue?, named, fieldOf?, Document.entries, last?, Option.none_or, <- ite_and, group_and_name]

end Setting

open VideoRelay.Settings.Tree

theorem ofEntries_eq_map (origin : String) (entries : List (String × Document)) :
    ofEntries origin entries = entries.map fun entry => (entry.1, ofDocument origin entry.2) := by
  induction entries with
  | nil => simp [ofEntries]
  | cons entry rest ih => simp [ofEntries, ih]

theorem fields_ofDocument (origin : String) (document : Document) :
    (ofDocument origin document).fields =
      document.entries.map fun entry => (entry.1, ofDocument origin entry.2) := by
  cases document with
  | scalar | list => simp [ofDocument, fields, openTable, Document.entries]
  | table entries => simp [ofDocument, fields, openTable, Document.entries, ofEntries_eq_map]

theorem KeepsTable.imp {first second : Prop} (implied : first -> second) {steps : List KeyStep}
    (keeps : KeepsTable first steps) : KeepsTable second steps := by
  match steps with
  | [] => exact implied keeps
  | .key _ :: _ => trivial
  | .index _ :: _ => exact keeps.elim

theorem keepsSections_of_sectioned {document : Document} (sectioned : IsSectioned document) (file : String)
    {entry : String × Tree} (member : entry ∈ fileLayer file document) : KeepsSections entry := by
  rw [fileLayer, ofEntries_eq_map] at member
  obtain ⟨⟨key, value⟩, inside, rfl⟩ := List.mem_map.1 member
  intro setting same
  refine (sectioned (key, value) inside setting same).imp ?_
  rintro ⟨fields, rfl⟩
  simp only [ofDocument, IsTable]

theorem keepsSections_of_path {setting : Setting} {entry : String × Tree}
    (path : KeyPath.ofName entry.1 = setting.path) : KeepsSections entry := by
  intro other same
  rw [path]
  trivial

theorem last?_environmentLayer {environment : Environment}
    (named : forall entry, entry ∈ environment -> forall key, settingName? entry.1 = some key ->
      exists setting : Setting, key = setting.key) (setting : Setting) :
    last? (setting.entryValue? fields) (environmentLayer environment) = last? setting.inVariable? environment := by
  induction environment with
  | nil => rfl
  | cons entry rest ih =>
    have others := ih fun other member => named other (List.mem_cons_of_mem entry member)
    obtain ⟨name, value⟩ := entry
    cases found : settingName? name with
    | none =>
      have skipped : environmentLayer ((name, value) :: rest) = environmentLayer rest := by
        simp [environmentLayer, found]
      rw [skipped, others, last?]
      simp [Setting.inVariable?, found]
    | some key =>
      obtain ⟨other, rfl⟩ := named (name, value) List.mem_cons_self key found
      have kept : environmentLayer ((name, value) :: rest) =
          (other.key, .scalar (some environmentOrigin) (variableScalar value)) :: environmentLayer rest := by
        simp [environmentLayer, found]
      rw [kept, last?, last?, others]
      congr 1
      rw [setting.entryValue?_of_path fields other.path_of_key, Setting.inVariable?, found]
      by_cases same : other = setting
      next => simp [same]
      next =>
        have unnamed : other.key ≠ setting.key := fun equal => same (Setting.key_injective equal)
        simp [same, unnamed]

theorem shows_file {file : Option (String × Document)}
    (sectioned : forall opened, file = some opened -> IsSectioned opened.2) :
    (layered file []).Sectioned /\ forall setting : Setting,
      Shows ((layered file []).at? setting) (setting.inFile? file) := by
  have empty : Tree.empty.Sectioned := fun _ _ held => nomatch held
  cases file with
  | none => exact ⟨empty, fun _ => .inl rfl⟩
  | some file =>
    obtain ⟨name, document⟩ := file
    have keeps := fun entry => @keepsSections_of_sectioned document (sectioned _ rfl) name entry
    obtain ⟨kept, shows⟩ := setAll_shows empty keeps
    refine ⟨kept, fun setting => ?_⟩
    have found : setting.inFile? (some (name, document)) =
        last? (setting.entryValue? fields) (fileLayer name document) := by
      rw [fileLayer, ofEntries_eq_map, last?_map]
      simp only [Setting.inFile?, Option.bind_some, map_last?, Setting.entryValue?_map (fields_ofDocument name)]
    rw [found, <- Option.or_none (o := last? _ _)]
    exact shows setting none (.inl rfl)

theorem shows_layered {layers : Layers} (known : layers.Known) :
    (layered layers.file layers.environment).Sectioned /\ forall setting : Setting,
      Shows ((layered layers.file layers.environment).at? setting)
        ((last? setting.inVariable? layers.environment).or (setting.inFile? layers.file)) := by
  have keeps : forall entry, entry ∈ environmentLayer layers.environment -> KeepsSections entry := by
    intro entry member
    obtain ⟨⟨name, value⟩, inside, named⟩ := List.mem_filterMap.1 member
    obtain ⟨key, found, rfl⟩ := Option.map_eq_some_iff.1 named
    obtain ⟨setting, rfl⟩ := known.named (name, value) inside key found
    exact keepsSections_of_path setting.path_of_key
  obtain ⟨sectioned, shown⟩ := shows_file known.sectioned
  obtain ⟨kept, shows⟩ := setAll_shows sectioned keeps
  refine ⟨kept, fun setting => ?_⟩
  rw [<- last?_environmentLayer known.named setting]
  exact shows setting _ (shown setting)

namespace Setting

def readFound (setting : Setting) : Option Tree -> Except LoadFault setting.Value
  | none => .ok (setting.get {})
  | some tree => setting.read { key := setting.key, tree }

theorem read_composite (setting : Setting) (key : String) {tree : Tree} (composite : tree.IsComposite)
    (value : setting.Value) : setting.read { key, tree } ≠ .ok value := by
  cases tree with
  | scalar => exact composite.elim
  | list | table => cases setting <;> nofun

theorem readFound_of_shows {setting : Setting} {current found : Option Tree} (shows : Shows current found)
    {value : setting.Value} (read : setting.readFound current = .ok value) : setting.readFound found = .ok value := by
  rcases shows with rfl | ⟨tree, rfl, composite⟩
  next => exact read
  next => exact absurd read (setting.read_composite _ composite value)

theorem fields_eq_at? {tree : Tree} {setting : Setting}
    (sectioned : forall part, tree.get? setting.group = some part -> part.IsTable) {title : String} {fields : Fields}
    (opened : sectionFields title setting.group (tree.get? setting.group) = .ok fields) (place : Nat) :
    fields setting.name place = (tree.at? setting).map fun tree => { key := setting.key, tree } := by
  unfold at?
  cases held : tree.get? setting.group with
  | none =>
    rw [held] at opened
    cases opened
    rfl
  | some part =>
    have table := sectioned part held
    cases part with
    | scalar | list => exact table.elim
    | table origin entries =>
      rw [held] at opened
      cases opened
      rfl

theorem readFound_of_readField {A : Type} {tree : Tree} {setting : Setting}
    (sectioned : forall part, tree.get? setting.group = some part -> part.IsTable) {title : String} {fields : Fields}
    (opened : sectionFields title setting.group (tree.get? setting.group) = .ok fields)
    {place : Nat} {default raw : A} {read : Place -> Except LoadFault A}
    (done : Settings.readField fields setting.name place default read = .ok raw) (make : A -> setting.Value)
    (same : forall place, setting.read place = (read place).map make) (unset : make default = setting.get {}) :
    setting.readFound (tree.at? setting) = .ok (make raw) := by
  unfold Settings.readField at done
  rw [fields_eq_at? sectioned opened] at done
  cases found : tree.at? setting with
  | none =>
    rw [found] at done
    cases done
    rw [readFound, unset]
  | some tree =>
    rw [found] at done
    rw [readFound, same, show read _ = .ok raw from done]
    rfl

end Setting

theorem readFound_of_ofTree {tree : Tree} {settings : Settings} (read : ofTree tree = .ok settings)
    {setting : Setting} (sectioned : forall part, tree.get? setting.group = some part -> part.IsTable) :
    setting.readFound (tree.at? setting) = .ok (setting.get settings) := by
  obtain ⟨server, readServer, read⟩ := ok_of_bind read
  obtain ⟨backends, readBackends, read⟩ := ok_of_bind read
  obtain ⟨thumbnail, readThumbnail, read⟩ := ok_of_bind read
  obtain ⟨logging, readLogging, read⟩ := ok_of_bind read
  cases read
  obtain ⟨serverFields, server, rest⟩ := ok_of_bind readServer
  obtain ⟨host, readHost, rest⟩ := ok_of_bind rest
  obtain ⟨port, readPort, rest⟩ := ok_of_bind rest
  cases rest
  obtain ⟨backendFields, backends, rest⟩ := ok_of_bind readBackends
  obtain ⟨storage, readStorage, rest⟩ := ok_of_bind rest
  obtain ⟨encoder, readEncoder, rest⟩ := ok_of_bind rest
  obtain ⟨seconds, readSeconds, rest⟩ := ok_of_bind rest
  cases rest
  obtain ⟨thumbnailFields, thumbnail, rest⟩ := ok_of_bind readThumbnail
  obtain ⟨width, readWidth, rest⟩ := ok_of_bind rest
  obtain ⟨height, readHeight, rest⟩ := ok_of_bind rest
  obtain ⟨position, readPosition, rest⟩ := ok_of_bind rest
  cases rest
  obtain ⟨loggingFields, logging, rest⟩ := ok_of_bind readLogging
  obtain ⟨level, readLevel, rest⟩ := ok_of_bind rest
  obtain ⟨format, readFormat, rest⟩ := ok_of_bind rest
  obtain ⟨filePath, readFilePath, rest⟩ := ok_of_bind rest
  cases rest
  have text (place : Place) : place.text = place.text.map id := by rw [Except.map_id]; rfl
  have path (place : Place) : place.optionalText = place.optionalText.map id := by rw [Except.map_id]; rfl
  cases setting with
  | host => exact Setting.readFound_of_readField sectioned server readHost id text rfl
  | httpPort => exact Setting.readFound_of_readField sectioned server readPort .ofNat (fun _ => rfl) rfl
  | storageAddress => exact Setting.readFound_of_readField sectioned backends readStorage id text rfl
  | encoderAddress => exact Setting.readFound_of_readField sectioned backends readEncoder id text rfl
  | connectTimeoutSeconds =>
    exact Setting.readFound_of_readField sectioned backends readSeconds .ofNat (fun _ => rfl) rfl
  | width => exact Setting.readFound_of_readField sectioned thumbnail readWidth .ofNat (fun _ => rfl) rfl
  | height => exact Setting.readFound_of_readField sectioned thumbnail readHeight .ofNat (fun _ => rfl) rfl
  | positionSeconds => exact Setting.readFound_of_readField sectioned thumbnail readPosition .ofNat (fun _ => rfl) rfl
  | level => exact Setting.readFound_of_readField sectioned logging readLevel id text rfl
  | format => exact Setting.readFound_of_readField sectioned logging readFormat id text rfl
  | filePath => exact Setting.readFound_of_readField sectioned logging readFilePath id path rfl

theorem overridePort_get {settings ported : Settings} {values : Variables}
    (overridden : settings.overridePort values = .ok ported) :
    (match filled values legacyPortName with
      | none => ported.server.httpPort = settings.server.httpPort
      | some value => legacyPort? value = some ported.server.httpPort) /\
    ported = settings.withPort ported.server.httpPort := by
  rw [overridePort] at overridden
  cases set : filled values legacyPortName with
  | none =>
    simp only [set, Except.ok.injEq] at overridden
    subst overridden
    exact ⟨rfl, rfl⟩
  | some value =>
    cases read : legacyPort? value with
    | none => simp only [set, read, reduceCtorEq] at overridden
    | some port =>
      simp only [set, read, Except.ok.injEq] at overridden
      subst overridden
      exact ⟨read, rfl⟩

theorem overrideAddresses_eq (settings : Settings) (values : Variables) :
    (settings.overrideStorage values).overrideEncoder values =
      { settings with
        backends := {
          settings.backends with
          storageAddress := (filled values legacyStorageName).getD settings.backends.storageAddress
          encoderAddress := (filled values legacyEncoderName).getD settings.backends.encoderAddress } } := by
  rw [overrideEncoder, overrideStorage]
  cases filled values legacyStorageName <;> cases filled values legacyEncoderName <;> rfl

theorem overrideLegacy_get {settings result : Settings} {values : Variables}
    (overridden : settings.overrideLegacy values = .ok result) (setting : Setting) :
    match setting.legacyName?.bind (filled values) with
    | none => setting.get result = setting.get settings
    | some value => setting.ofLegacy? value = some (setting.get result) := by
  obtain ⟨ported, port, rfl⟩ := ok_of_map overridden
  obtain ⟨decided, same⟩ := overridePort_get port
  rw [overrideAddresses_eq, same]
  cases setting with
  | httpPort => exact decided
  | storageAddress =>
    simp only [Setting.legacyName?, Option.bind_some, Setting.get, Setting.ofLegacy?]
    cases filled values legacyStorageName <;> rfl
  | encoderAddress =>
    simp only [Setting.legacyName?, Option.bind_some, Setting.get, Setting.ofLegacy?]
    cases filled values legacyEncoderName <;> rfl
  | host | connectTimeoutSeconds | width | height | positionSeconds | level | format | filePath => rfl

theorem settled_of_ofLayers {layers : Layers} (known : layers.Known) {settings : Settings}
    (read : ofLayers layers.file layers.environment = .ok settings) (setting : Setting) :
    setting.settled? layers = some (setting.get settings) := by
  obtain ⟨below, readTree, overridden⟩ := ok_of_bind read
  obtain ⟨sectioned, shows⟩ := shows_layered known
  have found := Setting.readFound_of_shows (shows setting) (readFound_of_ofTree readTree (sectioned setting))
  have legacy := overrideLegacy_get (ok_of_mapError overridden) setting
  unfold Setting.settled? Setting.source?
  cases named : setting.legacyName?.bind (filled layers.environment.values) with
  | some value =>
    rw [named] at legacy
    exact legacy
  | none =>
    rw [named] at legacy
    rw [legacy]
    cases lower : (last? setting.inVariable? layers.environment).or (setting.inFile? layers.file) with
    | none =>
      rw [lower] at found
      exact congrArg some (Except.ok.inj found)
    | some tree =>
      rw [lower] at found
      exact congrArg Except.toOption found

namespace Setting

theorem settingName?_legacyName {setting : Setting} {name : String} (named : setting.legacyName? = some name) :
    settingName? name = none := by
  cases setting <;> cases named <;> decide +kernel

theorem eq_of_legacyName? {setting other : Setting} (same : setting.legacyName? = other.legacyName?) :
    setting = other \/ setting.legacyName? = none := by
  revert same
  cases setting <;> cases other <;> decide

theorem legacy_append (setting : Setting) (environment : Environment) {name : String}
    (other : setting.legacyName? ≠ some name) (value : String) :
    setting.legacyName?.bind (filled (Environment.values (environment ++ [(name, value)]))) =
      setting.legacyName?.bind (filled environment.values) := by
  cases named : setting.legacyName? with
  | none => rfl
  | some own =>
    have unmatched : (own == name) = false := beq_false_of_ne (by simpa [named] using other)
    simp [filled, Environment.values, List.lookup_append, List.lookup_cons, unmatched]

theorem inVariable?_append (setting : Setting) (environment : Environment) {name : String}
    (other : settingName? name ≠ some setting.key) (value : String) :
    last? setting.inVariable? (environment ++ [(name, value)]) = last? setting.inVariable? environment := by
  simp [last?_append, last?, inVariable?, other]

theorem inFile?_append (setting : Setting) (file : String) (entries : List (String × Document))
    {entry : String × Document} (other : setting.entryValue? Document.entries entry = none) :
    setting.inFile? (some (file, .table (entries ++ [entry]))) = setting.inFile? (some (file, .table entries)) := by
  simp [inFile?, Document.entries, last?_append, last?, other]

theorem source?_of_sets {changed setting : Setting} {before after : Layers} (sets : Layers.Sets changed before after)
    (other : setting ≠ changed) : setting.source? after = setting.source? before := by
  cases sets with
  | @legacy name named value =>
    have legacy : setting.legacyName? ≠ some name := fun same =>
      (eq_of_legacyName? (same.trans named.symm)).elim other (by simp [same])
    have unnamed : settingName? name ≠ some setting.key := by simp [settingName?_legacyName named]
    simp only [source?]
    rw [legacy_append setting _ legacy, inVariable?_append setting _ unnamed]
  | @prefixed name named value =>
    have legacy : setting.legacyName? ≠ some name := fun same => by
      simp [settingName?_legacyName same] at named
    have unnamed : settingName? name ≠ some setting.key := fun same =>
      other (key_injective (Option.some.inj (same.symm.trans named)))
    simp only [source?]
    rw [legacy_append setting _ legacy, inVariable?_append setting _ unnamed]
  | @path file entries opened key named value =>
    have spared := setting.entryValue?_of_path Document.entries named value
    rw [if_neg (Ne.symm other)] at spared
    simp only [source?]
    rw [inFile?_append setting file entries spared, opened]
  | @part file entries opened key named value =>
    have spared := setting.entryValue?_of_part named value
    rw [if_neg (Ne.symm other)] at spared
    simp only [source?]
    rw [inFile?_append setting file entries spared, opened]

end Setting

theorem named_append {environment : Environment} {entry : String × String}
    (named : forall entry, entry ∈ environment -> forall key, settingName? entry.1 = some key ->
      exists setting : Setting, key = setting.key)
    (last : forall key, settingName? entry.1 = some key -> exists setting : Setting, key = setting.key) :
    forall other, other ∈ environment ++ [entry] -> forall key, settingName? other.1 = some key ->
      exists setting : Setting, key = setting.key :=
  List.forall_mem_append.2 ⟨named, by simpa using last⟩

theorem sectioned_append {entries : List (String × Document)} {entry : String × Document}
    (sectioned : IsSectioned (.table entries))
    (last : KeepsTable (exists fields, entry.2 = .table fields) (KeyPath.ofName entry.1).steps) :
    IsSectioned (.table (entries ++ [entry])) :=
  List.forall_mem_append.2 ⟨sectioned, by simpa using fun _ _ => last⟩

theorem Layers.Known.of_sets {changed : Setting} {before after : Layers} (known : before.Known)
    (sets : Layers.Sets changed before after) : after.Known := by
  cases sets with
  | legacy named value =>
    refine ⟨known.sectioned, named_append known.named fun key found => ?_⟩
    rw [Setting.settingName?_legacyName named] at found
    cases found
  | prefixed named value =>
    refine ⟨known.sectioned, named_append known.named fun key found => ⟨changed, ?_⟩⟩
    exact Option.some.inj (found.symm.trans named)
  | path opened named value =>
    refine ⟨?_, known.named⟩
    rintro _ ⟨⟩
    refine sectioned_append (known.sectioned _ opened) ?_
    rw [named]
    trivial
  | part opened named value =>
    refine ⟨?_, known.named⟩
    rintro _ ⟨⟩
    refine sectioned_append (known.sectioned _ opened) ?_
    rw [named]
    exact ⟨_, rfl⟩

/-- Loaded settings hold at every field what the highest layer has set it to, converted, and the default where no layer
sets it. One entry more changes no other field. -/
theorem highest_layer_settles :
    (forall path files environment settings, load path files environment = .ok settings ->
      exists file, fileAt files path = .ok file /\
        (Layers.Known { file, environment } -> forall setting : Setting,
          setting.settled? { file, environment } = some (setting.get settings))) /\
    forall changed before after, Layers.Sets changed before after -> before.Known ->
      forall first second, before.settings = .ok first -> after.settings = .ok second ->
        forall setting, setting ≠ changed -> setting.get second = setting.get first := by
  constructor
  next =>
    intro path files environment settings loaded
    obtain ⟨file, opened, read⟩ := ok_of_bind loaded
    exact ⟨file, opened, fun known => settled_of_ofLayers known read⟩
  next =>
    intro changed before after sets known first second readFirst readSecond setting other
    have settledFirst := settled_of_ofLayers known readFirst setting
    have settledSecond := settled_of_ofLayers (known.of_sets sets) readSecond setting
    rw [Setting.settled?, Setting.source?_of_sets sets other] at settledSecond
    exact Option.some.inj (settledSecond.symm.trans settledFirst)

def relayText : String :=
  "\x7b\"server\": \x7b\"host\": \"::1\", \"http_port\": 9000\x7d, \"upstream.storage_address\": \"http://vault\"\x7d"

def relayDocument : Document :=
  .table [("server", .table [("host", .text "::1"), ("http_port", .scalar (.integer 9000))]),
    ("upstream.storage_address", .text "http://vault")]

def relayFiles : Files where
  item? path := if path = "relay.json" then some (.file relayText) else none

theorem relayFiles_opened : fileAt relayFiles (some "relay.json") = .ok (some ("relay.json", relayDocument)) := by
  have format : Format.ofExtension? (pathExtension "relay.json") = some .json := by decide +kernel
  have plain : Files.plainPath "relay.json" = "relay.json" := by decide +kernel
  have unmarked : withoutByteOrderMark relayText = relayText := by decide +kernel
  have parsed : Document.ofJson? relayText = some relayDocument := by cbv
  have found : findFile relayFiles "relay.json" = .ok ("relay.json", relayText, .json) := by
    simp [findFile, Files.content?, relayFiles, format, plain]
  have read : readFile .json "relay.json" relayText = .ok relayDocument := by
    rw [readFile, unmarked, readFormat, parsed]
    rfl
  have present : relayFiles.has "relay.json" = true := by simp [Files.has, relayFiles]
  simp only [fileAt, present, if_true, openFile, found, Except.bind, read, Except.map]

def relayEnvironment : Environment :=
  [("DTVAULT_BFF__SERVER__HTTP_PORT", "7070"), ("DTVAULT_BFF__LOGGING__LEVEL", "debug"),
    ("DTVAULT_BFF_PORT", " 9090 ")]

def relayLayers : Layers where
  file := some ("relay.json", relayDocument)
  environment := relayEnvironment

theorem relayLayers_known : relayLayers.Known where
  sectioned := by
    rintro _ ⟨⟩ entry member setting -
    simp only [relayDocument, Document.entries, List.mem_cons, List.not_mem_nil, or_false] at member
    have server : (KeyPath.ofName "server").steps = [] := by decide +kernel
    have storage : (KeyPath.ofName "upstream.storage_address").steps = [.key "storage_address"] := by decide +kernel
    rcases member with rfl | rfl
    next =>
      rw [server]
      exact ⟨_, rfl⟩
    next =>
      rw [storage]
      trivial
  named := by
    intro entry member key named
    simp only [relayLayers, relayEnvironment, List.mem_cons, List.not_mem_nil, or_false] at member
    rcases member with rfl | rfl | rfl
    next => exact ⟨.httpPort, Option.some.inj (named.symm.trans (by decide +kernel))⟩
    next => exact ⟨.level, Option.some.inj (named.symm.trans (by decide +kernel))⟩
    next => exact absurd named (by rw [show settingName? "DTVAULT_BFF_PORT" = none by decide +kernel]; simp)

def movedLayers : Layers :=
  { relayLayers with environment := relayEnvironment ++ [("DTVAULT_BFF__SERVER__HOST", "[::]")] }

theorem relayLayers_settled : exists settings, load (some "relay.json") relayFiles relayEnvironment = .ok settings /\
    settings.server.host = "::1" /\ settings.server.httpPort = 9090 /\
    settings.backends.storageAddress = "http://vault" /\ settings.logging.level = "debug" /\
    settings.thumbnail.width = 1280 /\
    exists moved, movedLayers.settings = .ok moved /\ moved.server.httpPort = settings.server.httpPort := by
  have layers : load (some "relay.json") relayFiles relayEnvironment = relayLayers.settings := by
    rw [load, relayFiles_opened, Except.bind, Layers.settings, relayLayers]
  have readable : relayLayers.settings.toOption.isSome = true := by decide +kernel
  obtain ⟨settings, read⟩ := Option.isSome_iff_exists.1 readable
  have loaded := layers.trans (ok_of_toOption read)
  obtain ⟨file, opened, settled⟩ := highest_layer_settles.1 _ _ _ _ loaded
  have same : some ("relay.json", relayDocument) = file := Except.ok.inj (relayFiles_opened.symm.trans opened)
  subst same
  have settled (setting : Setting) : setting.settled? relayLayers = some (setting.get settings) :=
    settled relayLayers_known setting
  have host : Setting.host.settled? relayLayers = some "::1" := by decide +kernel
  have port : Setting.httpPort.settled? relayLayers = some (9090 : UInt16) := by decide +kernel
  have storage : Setting.storageAddress.settled? relayLayers = some "http://vault" := by decide +kernel
  have level : Setting.level.settled? relayLayers = some "debug" := by decide +kernel
  have width : Setting.width.settled? relayLayers = some (1280 : UInt32) := by decide +kernel
  have moving : relayLayers.Sets .host movedLayers := .prefixed (by decide +kernel) "[::]"
  have movable : movedLayers.settings.toOption.isSome = true := by decide +kernel
  obtain ⟨moved, reread⟩ := Option.isSome_iff_exists.1 movable
  refine ⟨settings, loaded, ?_, ?_, ?_, ?_, ?_, moved, ok_of_toOption reread, ?_⟩
  next => exact Option.some.inj ((settled .host).symm.trans host)
  next => exact Option.some.inj ((settled .httpPort).symm.trans port)
  next => exact Option.some.inj ((settled .storageAddress).symm.trans storage)
  next => exact Option.some.inj ((settled .level).symm.trans level)
  next => exact Option.some.inj ((settled .width).symm.trans width)
  next =>
    exact highest_layer_settles.2 _ _ _ moving relayLayers_known _ _ (ok_of_toOption read) (ok_of_toOption reread)
      .httpPort (by decide)

end VideoRelay.Settings
