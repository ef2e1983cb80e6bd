import VideoRelay.Proofs.Settings.Acceptance
import VideoRelay.Proofs.Settings.Guesses
import VideoRelay.Proofs.Settings.Layering

set_option autoImplicit false

namespace VideoRelay.Settings

open Decimal

namespace Setting

def IsText : Setting -> Prop
  | host | storageAddress | encoderAddress | level | format | filePath => True
  | httpPort | connectTimeoutSeconds | width | height | positionSeconds => False

def textIn? (settings : Settings) : Setting -> Option String
  | host => some settings.server.host
  | storageAddress => some settings.backends.storageAddress
  | encoderAddress => some settings.backends.encoderAddress
  | level => some settings.logging.level
  | format => some settings.logging.format
  | filePath => settings.logging.filePath
  | httpPort | connectTimeoutSeconds | width | height | positionSeconds => none

def Spares (setting : Setting) (path : KeyPath) : Prop :=
  path.root = setting.group -> KeepsTable False path.steps /\ path ≠ setting.path

theorem fieldOf?_of_spares {V : Type} (setting : Setting) (fields : V -> List (String × V)) (value : V)
    {path : KeyPath} (keeps : KeepsTable False path.steps) (unnamed : path ≠ setting.path)
    (same : path.root = setting.group) : fieldOf? setting.name fields value path.steps = none := by
  obtain ⟨root, steps⟩ := path
  subst same
  match steps with
  | [] => exact keeps.elim
  | [.key other] =>
    refine if_neg fun named => unnamed ?_
    rw [Setting.path, named]
  | .key _ :: _ :: _ => rfl
  | .index _ :: _ => exact keeps.elim

end Setting

namespace Tree

def HasAt (tree : Tree) (setting : Setting) (value : Tree) : Prop :=
  exists part, tree.get? setting.group = some part /\ part.IsTable /\ Shows (part.get? setting.name) (some value)

theorem hasAt_set_path (tree : Tree) {setting : Setting} {key : String} (named : KeyPath.ofName key = setting.path)
    (value : Tree) : (tree.set key value).HasAt setting value := by
  refine ⟨alterKey setting.name (fun old => old.merge value) ((tree.get? setting.group).getD null), ?_, trivial, ?_⟩
  next =>
    rw [set_eq_alterKey, get?_alterKey, named]
    exact if_pos rfl
  next =>
    rw [get?_alterKey, if_pos rfl]
    exact shows_merge _ value

theorem hasAt_set {tree : Tree} {setting : Setting} {value : Tree} (has : tree.HasAt setting value) {key : String}
    (spares : setting.Spares (KeyPath.ofName key)) (other : Tree) : (tree.set key other).HasAt setting value := by
  obtain ⟨part, held, table, shows⟩ := has
  rw [HasAt, set_eq_alterKey, get?_alterKey]
  by_cases same : (KeyPath.ofName key).root = setting.group
  next =>
    obtain ⟨keeps, unnamed⟩ := spares same
    have kept : KeepsTable other.IsTable (KeyPath.ofName key).steps := keeps.imp False.elim
    have altered := shows_alter kept shows
    rw [setting.fieldOf?_of_spares fields other keeps unnamed same, Option.none_or] at altered
    exact ⟨_, by rw [if_pos same.symm, same, held]; rfl, isTable_alter kept part, altered⟩
  next => exact ⟨part, by rw [if_neg (Ne.symm same), held], table, shows⟩

theorem hasAt_setAll {tree : Tree} {setting : Setting} {value : Tree} (has : tree.HasAt setting value)
    {entries : List (String × Tree)}
    (spares : forall entry, entry ∈ entries -> setting.Spares (KeyPath.ofName entry.1)) :
    (tree.setAll entries).HasAt setting value := by
  induction entries generalizing tree with
  | nil => exact has
  | cons entry rest ih =>
    obtain ⟨first, others⟩ := List.forall_mem_cons.1 spares
    exact ih (hasAt_set has first entry.2) others

theorem setAll_append (tree : Tree) (first second : List (String × Tree)) :
    tree.setAll (first ++ second) = (tree.setAll first).setAll second := List.foldl_append

theorem readFound_of_hasAt {tree : Tree} {setting : Setting} {value : Tree} (has : tree.HasAt setting value)
    {settings : Settings} (read : ofTree tree = .ok settings) :
    setting.readFound (some value) = .ok (setting.get settings) := by
  obtain ⟨part, held, table, shows⟩ := has
  have shown : Shows (tree.at? setting) (some value) := by rwa [at?, held]
  refine Setting.readFound_of_shows shown (readFound_of_ofTree read fun other found => ?_)
  cases held.symm.trans found
  exact table

end Tree

theorem environmentLayer_around {name key : String} (named : settingName? name = some key) (before after : Environment)
    (value : String) : environmentLayer (before ++ (name, value) :: after) = environmentLayer before ++
      (key, .scalar (some environmentOrigin) (variableScalar value)) :: environmentLayer after := by
  simp [environmentLayer, List.filterMap_append, named]

theorem hasAt_layered (file : Option (String × Document)) {before after : Environment} {name value : String}
    {setting : Setting} (named : settingName? name = some setting.key)
    (spared : forall entry, entry ∈ after -> forall key, settingName? entry.1 = some key ->
      setting.Spares (KeyPath.ofName key)) :
    (layered file (before ++ (name, value) :: after)).HasAt setting
      (.scalar (some environmentOrigin) (variableScalar value)) := by
  unfold layered
  rw [environmentLayer_around named, Tree.setAll_append]
  refine Tree.hasAt_setAll (Tree.hasAt_set_path _ setting.path_of_key _) fun entry member => ?_
  obtain ⟨⟨other, _⟩, inside, found⟩ := List.mem_filterMap.1 member
  obtain ⟨key, named, rfl⟩ := Option.map_eq_some_iff.1 found
  exact spared _ inside key named

theorem text_variableScalar (key value : String) (origin : Option String) :
    Place.text { key, tree := .scalar origin (variableScalar value) } = .ok (variableText value) := by
  have guess := guess_variableScalar value
  rw [variableText]
  generalize variableScalar value = scalar at guess
  cases guess <;> rfl

theorem optionalText_variableScalar (key value : String) (origin : Option String) :
    Place.optionalText { key, tree := .scalar origin (variableScalar value) } = .ok (some (variableText value)) := by
  have text := text_variableScalar key value origin
  have guess := guess_variableScalar value
  generalize variableScalar value = scalar at guess text
  cases guess <;> exact congrArg (Except.map some) text

def IsProper (text : String) : Prop :=
  lowerCase text ∈ levels \/ text ∈ formats \/ ':' ∈ text.toList

instance (text : String) : Decidable (IsProper text) :=
  inferInstanceAs (Decidable (_ \/ _ \/ _))

theorem not_isProper_of_written {text : String} (written : forall c, c ∈ text.toList -> c ∈ writtenChars) :
    ¬ IsProper text := by
  have letters : forall word, word ∈ levels ++ formats -> word.toList.all writtenChars.contains = false := by
    decide +kernel
  have unnamed : text ∉ levels ++ formats := fun among => by
    obtain ⟨c, member, letter⟩ := List.all_eq_false.1 (letters text among)
    exact letter (List.contains_iff_mem.2 (written c member))
  rw [IsProper, lowerCase_of_written written]
  rintro (level | format | colon)
  next => exact unnamed (List.mem_append_left _ level)
  next => exact unnamed (List.mem_append_right _ format)
  next => exact absurd (written ':' colon) (by decide)

theorem isKept_of_isProper {value : String} (proper : IsProper (variableText value)) : IsKept value := by
  have words : forall word, word ∈ ["true", "false", "NaN", "inf", "-inf"] -> ¬ IsProper word := by decide +kernel
  rcases variableText_cases value with kept | word | written
  next => exact kept
  next => exact absurd proper (words _ word)
  next => exact absurd proper (not_isProper_of_written written)

namespace Setting

theorem textIn?_of_readFound {setting : Setting} (text : setting.IsText) {origin : Option String} {value : String}
    {settings : Settings}
    (read : setting.readFound (some (.scalar origin (variableScalar value))) = .ok (setting.get settings)) :
    setting.textIn? settings = some (variableText value) := by
  cases setting with
  | host | storageAddress | encoderAddress | level | format =>
    exact congrArg some (Except.ok.inj (read.symm.trans (text_variableScalar _ value origin)))
  | filePath => exact Except.ok.inj (read.symm.trans (optionalText_variableScalar _ value origin))
  | httpPort | connectTimeoutSeconds | width | height | positionSeconds => exact text.elim

theorem isProper_of_accepted {settings : Settings} (accepted : settings.problems = []) {setting : Setting}
    (host : setting ≠ .host) (path : setting ≠ .filePath) {text : String}
    (held : setting.textIn? settings = some text) : IsProper text := by
  simp only [problems, List.append_eq_nil_iff, problemIf, ite_eq_right_iff, reduceCtorEq, imp_false,
    Bool.not_eq_true, Bool.not_eq_false', List.contains_iff_mem] at accepted
  obtain ⟨⟨⟨⟨⟨-, storage⟩, encoder⟩, -⟩, level⟩, format⟩ := accepted
  cases setting with
  | storageAddress =>
    cases held
    obtain ⟨address, parsed⟩ := (addressProblems_eq_nil_iff _ _).1 storage
    exact .inr (.inr (Address.colon_of_parse parsed))
  | encoderAddress =>
    cases held
    obtain ⟨address, parsed⟩ := (addressProblems_eq_nil_iff _ _).1 encoder
    exact .inr (.inr (Address.colon_of_parse parsed))
  | level =>
    cases held
    exact .inl level
  | format =>
    cases held
    exact .inr (.inl format)
  | host => exact absurd rfl host
  | filePath => exact absurd rfl path
  | httpPort | connectTimeoutSeconds | width | height | positionSeconds => cases held

end Setting

/-- A text setting shows what the value of its last variable was taken for. This is the value exactly if it is kept,
as it is with a character that no number holds. Of accepted settings only the host and the path of the log can have
been altered. -/
theorem text_of_variable (path : Option String) (files : Files) (before after : Environment) (name value : String)
    (setting : Setting) (settings : Settings) (text : setting.IsText) (named : settingName? name = some setting.key)
    (spared : forall entry, entry ∈ after -> forall key, settingName? entry.1 = some key ->
      setting.Spares (KeyPath.ofName key))
    (free : setting.legacyName?.bind (filled (Environment.values (before ++ (name, value) :: after))) = none)
    (loaded : load path files (before ++ (name, value) :: after) = .ok settings) :
    setting.textIn? settings = some (variableText value) /\
    (setting.textIn? settings = some value <-> IsKept value) /\
    (forall c, c ∈ value.toList -> c ∉ numeralChars -> lowerCase value ∉ guessedWords ->
      setting.textIn? settings = some value) /\
    (settings.problems = [] -> setting ≠ .host -> setting ≠ .filePath -> setting.textIn? settings = some value) := by
  obtain ⟨file, -, read⟩ := ok_of_bind loaded
  obtain ⟨below, tree, overridden⟩ := ok_of_bind read
  have legacy := overrideLegacy_get (ok_of_mapError overridden) setting
  rw [free] at legacy
  have found := Tree.readFound_of_hasAt (hasAt_layered file named spared) tree
  rw [<- legacy] at found
  have shown := Setting.textIn?_of_readFound text found
  have kept : setting.textIn? settings = some value <-> IsKept value := by
    rw [shown, Option.some.injEq, variableText_eq_iff_isKept]
  refine ⟨shown, kept, fun c member foreign plain => ?_, fun accepted host path => ?_⟩
  next => exact kept.2 (isKept_of_foreign member foreign plain)
  next => exact kept.2 (isKept_of_isProper (Setting.isProper_of_accepted accepted host path shown))

def countedEnvironment : Environment :=
  [("DTVAULT_BFF__UPSTREAM__STORAGE_ADDRESS", "http://vault"), ("DTVAULT_BFF__LOGGING__FILE_PATH", "1e3"),
    ("DTVAULT_BFF__UPSTREAM__ENCODER_ADDRESS", "http://encoder")]

theorem countedLog_shown : exists settings, load none { item? := fun _ => none } countedEnvironment = .ok settings /\
    settings.problems = [] /\ settings.logging.filePath = some "1000" /\ ¬ IsKept "1e3" /\
    settings.backends.storageAddress = "http://vault" := by
  have read : (load none { item? := fun _ => none } countedEnvironment).toOption.map problems = some [] := by
    decide +kernel
  obtain ⟨settings, read, accepted⟩ := Option.map_eq_some_iff.1 read
  have loaded := ok_of_toOption read
  have path : settingName? "DTVAULT_BFF__LOGGING__FILE_PATH" = some "logging.file_path" := by decide +kernel
  have encoder : settingName? "DTVAULT_BFF__UPSTREAM__ENCODER_ADDRESS" = some "upstream.encoder_address" := by
    decide +kernel
  have apart : Setting.filePath.Spares (KeyPath.ofName "upstream.encoder_address") := fun same =>
    absurd same (by decide +kernel)
  have beside : Setting.storageAddress.Spares (KeyPath.ofName "upstream.encoder_address") := fun _ =>
    ⟨trivial, by decide +kernel⟩
  have before : Setting.storageAddress.Spares (KeyPath.ofName "logging.file_path") := fun same =>
    absurd same (by decide +kernel)
  have log := text_of_variable none _ [("DTVAULT_BFF__UPSTREAM__STORAGE_ADDRESS", "http://vault")]
    [("DTVAULT_BFF__UPSTREAM__ENCODER_ADDRESS", "http://encoder")] "DTVAULT_BFF__LOGGING__FILE_PATH" "1e3" .filePath
    settings trivial path (by simpa [encoder] using apart) rfl loaded
  have storage := text_of_variable none _ []
    [("DTVAULT_BFF__LOGGING__FILE_PATH", "1e3"), ("DTVAULT_BFF__UPSTREAM__ENCODER_ADDRESS", "http://encoder")]
    "DTVAULT_BFF__UPSTREAM__STORAGE_ADDRESS" "http://vault" .storageAddress settings trivial (by decide +kernel)
    (by simpa [path, encoder] using And.intro before beside) rfl loaded
  have thousand : variableText "1e3" = "1000" := by decide +kernel
  refine ⟨settings, loaded, accepted, ?_, ?_, ?_⟩
  next => exact thousand ▸ log.1
  next =>
    rw [<- variableText_eq_iff_isKept, thousand]
    decide
  next => exact Option.some.inj (storage.2.2.2 accepted (by decide) (by decide))

theorem numberedLog_altered : ¬ forall (path : Option String) (files : Files) (before after : Environment)
    (name value : String) (setting : Setting) (settings : Settings), setting.IsText ->
      settingName? name = some setting.key ->
      (forall entry, entry ∈ after -> forall key, settingName? entry.1 = some key ->
        setting.Spares (KeyPath.ofName key)) ->
      setting.legacyName?.bind (filled (Environment.values (before ++ (name, value) :: after))) = none ->
      load path files (before ++ (name, value) :: after) = .ok settings -> setting.textIn? settings = some value := by
  intro unchanged
  have read : (load none { item? := fun _ => none } [("DTVAULT_BFF__LOGGING__FILE_PATH", "007")]).toOption.map
      (fun settings => settings.logging.filePath) = some (some "7") := by decide +kernel
  obtain ⟨settings, loaded, altered⟩ := Option.map_eq_some_iff.1 read
  have same := unchanged none _ [] [] "DTVAULT_BFF__LOGGING__FILE_PATH" "007" .filePath settings trivial
    (by decide +kernel) nofun rfl (ok_of_toOption loaded)
  exact absurd (altered.symm.trans same) (by decide)

end VideoRelay.Settings
