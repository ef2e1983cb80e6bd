import VideoRelay.Bridge

set_option autoImplicit false

namespace VideoRelay

open Wire

structure Errand where
  bridge : Bridge := {}
  videoId : Option String := none
  asked : List GetVideoRequest := []

namespace Errand

def generate (errand : Errand) (videoIds : List String) : Option (Except Fault Bytes) × Errand :=
  let (result, bridge) := errand.bridge.generate videoIds
  let videoId := if errand.bridge.state = .idle then videoIds.head? else errand.videoId
  (result, { errand with bridge, videoId })

def requests (errand : Errand) (dialed : Except Fault Unit) : List GetVideoRequest :=
  match dialed with
  | .ok _ => errand.videoId.toList.map fun videoId => { videoId }
  | .error _ => []

def act (errand : Errand) : Bridge.Action -> Option Errand
  | .generate videoIds => some (errand.generate videoIds).2
  | .dialedStorage dialed => (errand.bridge.dialedStorage dialed).map fun bridge =>
    { errand with bridge, asked := errand.asked ++ errand.requests dialed }
  | action => (errand.bridge.act action).map fun bridge => { errand with bridge }

end Errand

end VideoRelay
