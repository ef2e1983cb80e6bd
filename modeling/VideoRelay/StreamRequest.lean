import VideoRelay.Text.Blank
import VideoRelay.Preset

set_option autoImplicit false

namespace VideoRelay

structure StreamRequest where
  videoId : String
  presetId : Option String
deriving DecidableEq, Repr

namespace StreamRequest

/-- The empty preset asks for the video as it is stored. -/
def make (videoId : String) (presetId : Option String) : StreamRequest :=
  { videoId, presetId := presetId.filter fun preset => !preset.isEmpty }

def check (request : StreamRequest) : Except Fault Unit :=
  if Text.isBlank request.videoId then .error (.invalidInput "video id is required") else .ok ()

end StreamRequest

end VideoRelay
