import VideoRelay.Proofs.Settings.Sources

set_option autoImplicit false

namespace VideoRelay.Settings

namespace Tree

def IsTable : Tree -> Prop
  | table .. => True
  | scalar .. | list .. => False

def IsComposite : Tree -> Prop
  | table .. | list .. => True
  | scalar .. => False

theorem IsTable.isComposite {tree : Tree} (table : tree.IsTable) : tree.IsComposite := by
  cases tree with
  | table => trivial
  | scalar | list => exact table.elim

@[simp]
theorem get?_null (key : String) : null.get? key = none := rfl

theorem lookup_openTable (tree : Tree) (key : String) : tree.openTable.2.lookup key = tree.get? key := by
  cases tree <;> rfl

theorem get?_alterKey (tree : Tree) (key other : String) (change : Tree -> Tree) :
    (tree.alterKey key change).get? other =
      if other = key then some (change ((tree.get? key).getD null)) else tree.get? other := by
  rw [<- lookup_openTable tree key, <- lookup_openTable tree other]
  exact Document.lookup_put _ key other _

theorem merge_eq_or_isTable (tree value : Tree) : tree.merge value = value \/ (tree.merge value).IsTable := by
  cases value with
  | scalar | list => exact .inl (by simp only [merge])
  | table => exact .inr (by simp only [merge, IsTable])

theorem alter_isComposite (change : Tree -> Tree) (step : KeyStep) (steps : List KeyStep) (tree : Tree) :
    (alter change (step :: steps) tree).IsComposite := by
  cases step <;> trivial

def Shows (current found : Option Tree) : Prop :=
  current = found \/ exists tree, current = some tree /\ tree.IsComposite

theorem shows_merge (tree value : Tree) : Shows (some (tree.merge value)) (some value) := by
  rcases merge_eq_or_isTable tree value with same | table
  next => exact .inl (by rw [same])
  next =>
    exact .inr ⟨_, rfl, table.isComposite⟩

def at? (tree : Tree) (setting : Setting) : Option Tree :=
  (tree.get? setting.group).bind fun part => part.get? setting.name

def Sectioned (tree : Tree) : Prop :=
  forall (setting : Setting) (part : Tree), tree.get? setting.group = some part -> part.IsTable

theorem shows_mergeEntries (name : String) {entries : List (String × Tree)} {found : Option Tree}
    (shows : Shows (entries.lookup name) found) (incoming : List (String × Tree)) :
    Shows ((mergeEntries entries incoming).lookup name)
      ((last? (fun field => if field.1 = name then some field.2 else none) incoming).or found) := by
  induction incoming generalizing entries found with
  | nil => simpa [mergeEntries, last?] using shows
  | cons field rest ih =>
    obtain ⟨key, value⟩ := field
    rw [mergeEntries, last?, Option.or_assoc]
    apply ih
    rw [Document.lookup_put]
    by_cases same : name = key
    next => simpa [same] using shows_merge _ value
    next => simpa [same, Ne.symm same] using shows

def fields (tree : Tree) : List (String × Tree) :=
  tree.openTable.2

def KeepsSections (entry : String × Tree) : Prop :=
  forall setting : Setting, (KeyPath.ofName entry.1).root = setting.group ->
    KeepsTable entry.2.IsTable (KeyPath.ofName entry.1).steps

theorem set_eq_alterKey (tree : Tree) (key : String) (value : Tree) :
    tree.set key value = tree.alterKey (KeyPath.ofName key).root
      (alter (fun old => old.merge value) (KeyPath.ofName key).steps) := rfl

theorem isTable_alter {value : Tree} {steps : List KeyStep} (keeps : KeepsTable value.IsTable steps) (part : Tree) :
    (alter (fun old => old.merge value) steps part).IsTable := by
  match steps with
  | [] =>
    cases value with
    | table => simp only [alter, merge, IsTable]
    | scalar | list => exact keeps.elim
  | .key _ :: _ => trivial
  | .index _ :: _ => exact keeps.elim

theorem sectioned_set {tree : Tree} (sectioned : tree.Sectioned) {entry : String × Tree}
    (keeps : KeepsSections entry) : (tree.set entry.1 entry.2).Sectioned := by
  intro setting part known
  rw [set_eq_alterKey, get?_alterKey] at known
  split at known
  next same =>
    cases known
    exact isTable_alter (keeps setting same.symm) _
  next => exact sectioned setting part known

theorem shows_alter {value : Tree} {steps : List KeyStep} (keeps : KeepsTable value.IsTable steps) {name : String}
    {part : Tree} {found : Option Tree} (shows : Shows (part.get? name) found) :
    Shows ((alter (fun old => old.merge value) steps part).get? name)
      ((Setting.fieldOf? name fields value steps).or found) := by
  match steps with
  | [] =>
    cases value with
    | table origin incoming =>
      rw [<- lookup_openTable] at shows
      rw [alter, merge]
      exact shows_mergeEntries name shows incoming
    | scalar | list => exact keeps.elim
  | [.key other] =>
    rw [alter, get?_alterKey]
    by_cases same : name = other
    next => simpa [Setting.fieldOf?, same, alter] using shows_merge _ value
    next => simpa [Setting.fieldOf?, same, Ne.symm same] using shows
  | .key other :: step :: rest =>
    rw [alter, get?_alterKey]
    by_cases same : name = other
    next =>
      -- The steps lead past the field, so that it holds something to go into.
      simpa [same] using .inr ⟨_, rfl, alter_isComposite _ step rest _⟩
    next => simpa [Setting.fieldOf?, same] using shows
  | .index _ :: _ => exact keeps.elim

theorem shows_set (tree : Tree) {entry : String × Tree} (keeps : KeepsSections entry) {setting : Setting}
    {found : Option Tree} (shows : Shows (tree.at? setting) found) :
    Shows ((tree.set entry.1 entry.2).at? setting) ((setting.entryValue? fields entry).or found) := by
  unfold at? at shows ⊢
  unfold Setting.entryValue?
  rw [set_eq_alterKey, get?_alterKey]
  by_cases same : (KeyPath.ofName entry.1).root = setting.group
  next =>
    -- What was at the field before, seen through the old section.
    have before : Shows (((tree.get? setting.group).getD null).get? setting.name) found := by
      cases known : tree.get? setting.group <;> simpa [known] using shows
    simpa [same] using shows_alter (keeps setting same) before
  next => simpa [same, Ne.symm same] using shows

theorem setAll_shows {tree : Tree} (sectioned : tree.Sectioned) {entries : List (String × Tree)}
    (keeps : forall entry, entry ∈ entries -> KeepsSections entry) :
    (tree.setAll entries).Sectioned /\ forall (setting : Setting) (found : Option Tree),
      Shows (tree.at? setting) found ->
        Shows ((tree.setAll entries).at? setting) ((last? (setting.entryValue? fields) entries).or found) := by
  induction entries generalizing tree with
  | nil => exact ⟨sectioned, fun _ _ shows => shows⟩
  | cons entry rest ih =>
    have first := keeps entry List.mem_cons_self
    obtain ⟨kept, later⟩ := ih (sectioned_set sectioned first) fun other member =>
      keeps other (List.mem_cons_of_mem entry member)
    refine ⟨kept, fun setting found shows => ?_⟩
    rw [last?, Option.or_assoc]
    exact later setting _ (shows_set tree first shows)

end Tree

end VideoRelay.Settings
