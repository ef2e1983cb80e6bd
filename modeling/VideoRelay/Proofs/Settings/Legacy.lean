import VideoRelay.Proofs.Decimal
import VideoRelay.Proofs.Settings.Layering
import VideoRelay.Proofs.Trimming

set_option autoImplicit false

namespace VideoRelay

theorem Decimal.unsigned?_eq_some_iff {max value : Nat} {text : String} : unsigned? max text = some value <->
    exists sign digits, text.toList = sign ++ digits /\ (sign = [] \/ sign = ['+']) /\
      wholeNumber? digits = some value /\ value <= max := by
  constructor
  next =>
    intro read
    obtain ⟨number, small⟩ := Option.filter_eq_some_iff.1 read
    split at number
    next rest signed => exact ⟨['+'], rest, signed, .inr rfl, number, of_decide_eq_true small⟩
    next => exact ⟨[], text.toList, rfl, .inl rfl, number, of_decide_eq_true small⟩
  next =>
    rintro ⟨sign, digits, written, signed, number, small⟩
    refine Option.filter_eq_some_iff.2 ⟨?_, decide_eq_true small⟩
    rcases signed with rfl | rfl
    next =>
      rw [written, List.nil_append]
      split
      next rest =>
        -- The plus would be one of the digits.
        exact absurd ((wholeNumber?_eq_some_iff.1 number).2.1 '+' List.mem_cons_self) (by decide)
      next => exact number
    next =>
      rw [written]
      exact number

namespace Settings

def Holds (values : Variables) (name value : String) : Prop :=
  values name = some value /\ Text.isBlank value = false

def IsPort (value : String) (port : UInt16) : Prop :=
  exists front sign digits back, value.toList = front ++ ((sign ++ digits) ++ back) /\
    (forall c, c ∈ front -> Text.isBlankChar c = true) /\ (forall c, c ∈ back -> Text.isBlankChar c = true) /\
    (sign = [] \/ sign = ['+']) /\ digits ≠ [] /\ (forall c, c ∈ digits -> Decimal.isDigit c = true) /\
    Decimal.digitsValue digits = port.toNat

/-- A field becomes what the value of its variable says, and stays as it is without one. -/
def Overrides {A : Type} (holds : String -> Prop) (means : String -> A -> Prop) (before after : A) : Prop :=
  (forall value, holds value -> means value after) /\ ((forall value, ¬ holds value) -> after = before)

theorem isBlankChar_of_isDigit {c : Char} (digit : Decimal.isDigit c = true) : Text.isBlankChar c = false := by
  simp only [Decimal.isDigit, Bool.and_eq_true, decide_eq_true_eq] at digit
  simp only [Text.isBlankChar, Bool.or_eq_false_iff, Bool.and_eq_false_iff, decide_eq_false_iff_not, beq_eq_false_iff_ne]
  omega

theorem legacyPort?_eq_some_iff {value : String} {port : UInt16} : legacyPort? value = some port <-> IsPort value port := by
  have trimmed : (Text.trim value).toList = Text.trimChars value.toList := String.toList_ofList
  constructor
  next =>
    intro read
    obtain ⟨number, found, rfl⟩ := Option.map_eq_some_iff.1 read
    obtain ⟨sign, digits, written, signed, whole, small⟩ := Decimal.unsigned?_eq_some_iff.1 found
    obtain ⟨nonempty, plain, rfl⟩ := Decimal.wholeNumber?_eq_some_iff.1 whole
    obtain ⟨front, back, framed, before, behind⟩ := Text.exists_blank_ends value.toList
    rw [<- trimmed, written] at framed
    refine ⟨front, sign, digits, back, framed, before, behind, signed, nonempty, plain, ?_⟩
    rw [UInt16.toNat_ofNat_of_lt' (Nat.lt_succ_of_le small)]
  next =>
    rintro ⟨front, sign, digits, back, framed, before, behind, signed, nonempty, plain, same⟩
    have solid (c : Char) (member : c ∈ sign ++ digits) : Text.isBlankChar c = false := by
      rcases List.mem_append.1 member with inSign | inDigits
      next =>
        rcases signed with rfl | rfl
        next => cases inSign
        next =>
          obtain rfl := List.mem_singleton.1 inSign
          decide
      next => exact isBlankChar_of_isDigit (plain c inDigits)
    rw [framed, Text.trimChars_of_blank_ends before behind solid] at trimmed
    have whole : Decimal.wholeNumber? digits = some port.toNat :=
      Decimal.wholeNumber?_eq_some_iff.2 ⟨nonempty, plain, same⟩
    have read : Decimal.unsigned? 65535 (Text.trim value) = some port.toNat :=
      Decimal.unsigned?_eq_some_iff.2 ⟨sign, digits, trimmed, signed, whole, Nat.le_of_lt_succ port.toNat_lt⟩
    rw [legacyPort?, read, Option.map_some, UInt16.ofNat_toNat]

theorem filled_eq_some_iff {values : Variables} {name value : String} :
    filled values name = some value <-> Holds values name value := by
  rw [filled, Option.filter_eq_some_iff, Holds, Bool.not_eq_true']

theorem filled_eq_none_iff {values : Variables} {name : String} :
    filled values name = none <-> forall value, ¬ Holds values name value := by
  simp only [<- filled_eq_some_iff, Option.eq_none_iff_forall_ne_some, ne_eq]

theorem run_assign (change : Settings -> Except String Settings) (settings : Settings) :
    (assign change).run.run settings = match change settings with
      | .ok changed => (.ok (), changed)
      | .error value => (.error value, settings) := by
  have fetched : (assign change).run.run settings =
      (liftExcept (change settings) >>= set : Revision Unit).run.run settings := rfl
  rw [fetched]
  cases change settings <;> rfl

theorem run_assign_bind (change : Settings -> Except String Settings) (others : Revision Unit) (settings : Settings) :
    (assign change >>= fun _ => others).run.run settings = match change settings with
      | .ok changed => others.run.run changed
      | .error value => (.error value, settings) := by
  rw [ExceptT.run_bind, StateT.run_bind, run_assign]
  cases change settings <;> rfl

theorem run_reviseLegacy (settings : Settings) (values : Variables) :
    (reviseLegacy values).run.run settings = match settings.overrideLegacy values with
      | .ok changed => (.ok (), changed)
      | .error value => (.error value, settings) := by
  rw [reviseLegacy, run_assign_bind, overrideLegacy]
  cases settings.overridePort values with
  | error value => rfl
  | ok changed =>
    dsimp only
    rw [run_assign_bind]
    dsimp only
    rw [run_assign]
    rfl

/-- Settings before and after overrides that have not failed. -/
structure Revised (values : Variables) (before after : Settings) : Prop where
  port : Overrides (Holds values legacyPortName) IsPort before.server.httpPort after.server.httpPort
  storage : Overrides (Holds values legacyStorageName) Eq before.backends.storageAddress after.backends.storageAddress
  encoder : Overrides (Holds values legacyEncoderName) Eq before.backends.encoderAddress after.backends.encoderAddress
  others : after =
    { before with
      server := { before.server with httpPort := after.server.httpPort }
      backends := { before.backends with
        storageAddress := after.backends.storageAddress
        encoderAddress := after.backends.encoderAddress } }

theorem overrides_getD (values : Variables) (name before : String) :
    Overrides (Holds values name) Eq before ((filled values name).getD before) := by
  constructor
  next =>
    intro value holds
    rw [filled_eq_some_iff.2 holds, Option.getD_some]
  next =>
    intro free
    rw [filled_eq_none_iff.2 free, Option.getD_none]

theorem revised_of_overrideLegacy {settings after : Settings} {values : Variables}
    (overridden : settings.overrideLegacy values = .ok after) : Revised values settings after := by
  obtain ⟨ported, port, rfl⟩ := ok_of_map overridden
  obtain ⟨decided, same⟩ := overridePort_get port
  rw [overrideAddresses_eq]
  refine ⟨⟨fun value holds => ?_, fun free => ?_⟩, ?_, ?_, ?_⟩
  next =>
    rw [filled_eq_some_iff.2 holds] at decided
    exact legacyPort?_eq_some_iff.1 decided
  next =>
    rw [filled_eq_none_iff.2 free] at decided
    exact decided
  next =>
    rw [same]
    exact overrides_getD values legacyStorageName settings.backends.storageAddress
  next =>
    rw [same]
    exact overrides_getD values legacyEncoderName settings.backends.encoderAddress
  next =>
    rw [same]
    rfl

theorem Revised.settled {values : Variables} {before after : Settings} (revised : Revised values before after) :
    after.overrideLegacy values = .ok after := by
  have port : after.overridePort values = .ok after := by
    rw [overridePort]
    split
    next => rfl
    next value filled =>
      rw [legacyPort?_eq_some_iff.2 (revised.port.1 value (filled_eq_some_iff.1 filled))]
      rfl
  have storage : after.overrideStorage values = after := by
    rw [overrideStorage]
    cases held : filled values legacyStorageName with
    | none => rfl
    | some value =>
      rw [revised.storage.1 value (filled_eq_some_iff.1 held)]
      rfl
  have encoder : after.overrideEncoder values = after := by
    rw [overrideEncoder]
    cases held : filled values legacyEncoderName with
    | none => rfl
    | some value =>
      rw [revised.encoder.1 value (filled_eq_some_iff.1 held)]
      rfl
  rw [overrideLegacy, port, Except.map, storage, encoder]

theorem overridePort_eq_error_iff {settings : Settings} {values : Variables} {value : String} :
    settings.overridePort values = .error value <->
      filled values legacyPortName = some value /\ legacyPort? value = none := by
  rw [overridePort]
  split
  next free => simp [free]
  next other held =>
    rw [held]
    split
    next port read =>
      simp only [reduceCtorEq, Option.some.injEq, false_iff, not_and]
      rintro rfl
      simp [read]
    next unread =>
      simp only [Except.error.injEq, Option.some.injEq]
      exact ⟨fun same => ⟨same, same ▸ unread⟩, And.left⟩

theorem overrideLegacy_eq_error_iff {settings : Settings} {values : Variables} {value : String} :
    settings.overrideLegacy values = .error value <->
      Holds values legacyPortName value /\ forall port, ¬ IsPort value port := by
  have failing : settings.overrideLegacy values = .error value <-> settings.overridePort values = .error value := by
    rw [overrideLegacy]
    cases settings.overridePort values <;> simp [Except.map]
  rw [failing, overridePort_eq_error_iff, filled_eq_some_iff]
  simp only [<- legacyPort?_eq_some_iff, Option.eq_none_iff_forall_ne_some, ne_eq]

/-- The legacy variables override all they can or nothing. They fail exactly if the port variable holds a value that is
no port, and leave all settings as they were then. Otherwise a field changes exactly if its variable holds a value: the
port to the number, an address to the value as it stands. A second time they change nothing, and end in the same way. -/
theorem legacy_all_or_nothing (settings : Settings) (values : Variables) :
    exists ending after, (reviseLegacy values).run.run settings = (ending, after) /\
      settings.overrideLegacy values = ending.map (fun _ => after) /\
      ((exists fault, ending = .error fault) <->
        exists value, Holds values legacyPortName value /\ forall port, ¬ IsPort value port) /\
      (forall fault, ending = .error fault -> after = settings /\ Holds values legacyPortName fault) /\
      (ending = .ok () -> Revised values settings after) /\
      (reviseLegacy values).run.run after = (ending, after) := by
  rw [run_reviseLegacy]
  cases overridden : settings.overrideLegacy values with
  | error value =>
    have bad := overrideLegacy_eq_error_iff.1 overridden
    refine ⟨.error value, settings, rfl, rfl, iff_of_true ⟨value, rfl⟩ ⟨value, bad⟩, ?_, nofun, ?_⟩
    next =>
      rintro _ ⟨⟩
      exact ⟨rfl, bad.1⟩
    next => rw [run_reviseLegacy, overridden]
  | ok after =>
    have revised := revised_of_overrideLegacy overridden
    refine ⟨.ok (), after, rfl, rfl, iff_of_false nofun ?_, nofun, fun _ => revised, ?_⟩
    next =>
      rintro ⟨value, bad⟩
      rw [overrideLegacy_eq_error_iff.2 bad] at overridden
      cases overridden
    next => rw [run_reviseLegacy, revised.settled]

end Settings

end VideoRelay
