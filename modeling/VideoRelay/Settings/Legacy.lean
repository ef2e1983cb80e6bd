import VideoRelay.Decimal.Numeral
import VideoRelay.Settings
import VideoRelay.Text.Blank

set_option autoImplicit false

namespace VideoRelay.Settings

def legacyPortName : String := "DTVAULT_BFF_PORT"

def legacyStorageName : String := "DTVAULT_CENTRAL_ADDR"

def legacyEncoderName : String := "DTVAULT_ENCODER_ADDR"

abbrev Variables := String -> Option String

def filled (values : Variables) (name : String) : Option String :=
  (values name).filter fun value => !Text.isBlank value

/-- A port in decimal, with an optional plus, between white space. -/
def legacyPort? (value : String) : Option UInt16 :=
  (Decimal.unsigned? 65535 (Text.trim value)).map UInt16.ofNat

def withPort (settings : Settings) (port : UInt16) : Settings :=
  { settings with server := { settings.server with httpPort := port } }

def withStorageAddress (settings : Settings) (address : String) : Settings :=
  { settings with backends := { settings.backends with storageAddress := address } }

def withEncoderAddress (settings : Settings) (address : String) : Settings :=
  { settings with backends := { settings.backends with encoderAddress := address } }

def overridePort (settings : Settings) (values : Variables) : Except String Settings :=
  match filled values legacyPortName with
  | none => .ok settings
  | some value => match legacyPort? value with
    | some port => .ok (settings.withPort port)
    | none => .error value

def overrideStorage (settings : Settings) (values : Variables) : Settings :=
  ((filled values legacyStorageName).map settings.withStorageAddress).getD settings

def overrideEncoder (settings : Settings) (values : Variables) : Settings :=
  ((filled values legacyEncoderName).map settings.withEncoderAddress).getD settings

def overrideLegacy (settings : Settings) (values : Variables) : Except String Settings :=
  (settings.overridePort values).map fun settings =>
    (settings.overrideStorage values).overrideEncoder values

/-- Changes of settings in their place. One that fails leaves them as it has found them, and those behind it out. -/
abbrev Revision := ExceptT String (StateM Settings)

def assign (change : Settings -> Except String Settings) : Revision Unit := do
  let settings <- get
  set (<- liftExcept (change settings))

def reviseLegacy (values : Variables) : Revision Unit := do
  assign fun settings => settings.overridePort values
  assign fun settings => .ok (settings.overrideStorage values)
  assign fun settings => .ok (settings.overrideEncoder values)

def invalidPortText (value : String) : String :=
  "Invalid environment variable `" ++ legacyPortName ++ "`: " ++ value

end VideoRelay.Settings
