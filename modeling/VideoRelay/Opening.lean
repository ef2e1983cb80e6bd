import VideoRelay.Session

set_option autoImplicit false

namespace VideoRelay

structure Services where
  dialStorage : Except Fault Unit
  dialEncoder : Except Fault Unit
  listPresets : Except Status (List Preset)
  getVideo : String -> Except Status Unit

/-- What a service was asked. A session calls `EncodeVideo` when it runs, after it was opened. -/
inductive Contact where
  | dialStorage
  | dialEncoder
  | listPresets
  | getVideo (videoId : String)
  | encodeVideo
deriving DecidableEq, Repr

namespace Services

def listPresetsFault (status : Status) : Fault :=
  .connectionFailure ("EncoderService.ListPresets failed: " ++ status.text)

def presets (services : Services) : List Contact × Except Fault (List Preset) :=
  match services.dialEncoder with
  | .error fault => ([.dialEncoder], .error fault)
  | .ok _ => ([.dialEncoder, .listPresets], services.listPresets.mapError listPresetsFault)

/-- Without a preset the encoder is not asked for anything. -/
def selectSession (services : Services) : Option String -> List Contact × Except Fault Session
  | none => ([], .ok .passthrough)
  | some presetId =>
    let (contacts, catalog) := services.presets
    (contacts, (catalog.bind fun catalog => Preset.find catalog presetId).map .transcoding)

def openStorage (services : Services) (videoId : String) : List Contact × Except Fault Unit :=
  match services.dialStorage with
  | .error fault => ([.dialStorage], .error fault)
  | .ok _ =>
    ([.dialStorage, .getVideo videoId], (services.getVideo videoId).mapError .streamTransport)

end Services

namespace StreamRequest

/-- Opens the stream, or fails with the first problem and asks for nothing behind it. -/
def openStream (request : StreamRequest) (services : Services) : List Contact × Except Fault Session :=
  match request.check with
  | .error fault => ([], .error fault)
  | .ok _ =>
    match services.selectSession request.presetId with
    | (contacts, .error fault) => (contacts, .error fault)
    | (contacts, .ok session) =>
      let (more, opened) := services.openStorage request.videoId
      (contacts ++ more, opened.map fun _ => session)

end StreamRequest

end VideoRelay
