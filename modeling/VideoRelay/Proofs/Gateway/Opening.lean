import VideoRelay.Dialing
import VideoRelay.Proofs.Gateway.MissingId
import VideoRelay.Proofs.Gateway.Wording
import VideoRelay.Proofs.Session.Copying
import VideoRelay.Proofs.Session.Uploading

set_option autoImplicit false

namespace VideoRelay

theorem Services.selectSession_dialed {services : Services} (presetId : String)
    (dialed : services.dialEncoder = .ok ()) : services.selectSession (some presetId) = ([.dialEncoder, .listPresets],
      ((services.listPresets.mapError listPresetsFault).bind fun catalog => Preset.find catalog presetId).map
        .transcoding) := by
  simp only [selectSession, presets, dialed]

namespace StreamRequest

variable {stream : StreamRequest} {services : Services} {contacts : List Contact} {fault : Fault} {session : Session}

theorem openStream_unselected (named : stream.check = .ok ())
    (selected : services.selectSession stream.presetId = (contacts, .error fault)) :
    stream.openStream services = (contacts, .error fault) := by
  simp only [openStream, named, selected]

theorem openStream_selected (named : stream.check = .ok ())
    (selected : services.selectSession stream.presetId = (contacts, .ok session)) :
    stream.openStream services = (contacts ++ (services.openStorage stream.videoId).1,
      (services.openStorage stream.videoId).2.map fun _ => session) := by
  simp only [openStream, named, selected]

end StreamRequest

structure Services.Dials (services : Services) : Prop where
  storage : forall fault, services.dialStorage = .error fault -> fault.OfDialing
  encoder : forall fault, services.dialEncoder = .error fault -> fault.OfDialing

/-- An attempt to open a stream, the services it has turned to and the fault it ends with, answered by this status. -/
def Fails (opened : List Contact × Except Fault Session) (contacts : List Contact) (fault : Fault) (status : Nat) :
    Prop :=
  opened = (contacts, .error fault) /\ fault.httpStatus = status

structure EndsAtStorage (services : Services) (videoId : String) (before : List Contact) (session : Session)
    (opened : List Contact × Except Fault Session) : Prop where
  undialed : forall fault, services.dialStorage = .error fault -> Fails opened (before ++ [.dialStorage]) fault 500
  refused : services.dialStorage = .ok () -> forall status, services.getVideo videoId = .error status ->
    Fails opened (before ++ [.dialStorage, .getVideo videoId]) (.streamTransport status) 500
  opened : services.dialStorage = .ok () -> services.getVideo videoId = .ok () ->
    opened = (before ++ [.dialStorage, .getVideo videoId], .ok session)

/-- A fault that is not about the request: of a dial, or a status that the service has answered with. -/
inductive Fault.OfService : Fault -> Prop
  | dialing {fault : Fault} (dialing : fault.OfDialing) : OfService fault
  | unlisted (status : Status) : OfService (Services.listPresetsFault status)
  | refused (status : Status) : OfService (.streamTransport status)

theorem Fault.OfService.httpStatus {fault : Fault} (service : fault.OfService) : fault.httpStatus = 500 := by
  cases service with
  | dialing dialing => exact dialing.httpStatus
  | unlisted | refused => rfl

section

variable {services : Services} {stream : StreamRequest} {videoId presetId : String} {contacts : List Contact}
  {session : Session} {fault : Fault}

theorem EndsAtStorage.fails {opened : List Contact × Except Fault Session} (dials : services.Dials)
    (ends : EndsAtStorage services videoId contacts session opened) (failed : opened.2 = .error fault) :
    fault.OfService := by
  cases dialed : services.dialStorage with
  | error undialed =>
    rw [(ends.undialed undialed dialed).1] at failed
    cases failed
    exact .dialing (dials.storage _ dialed)
  | ok _ =>
    cases given : services.getVideo videoId with
    | error status =>
      rw [(ends.refused dialed status given).1] at failed
      cases failed
      exact .refused status
    | ok _ =>
      rw [ends.opened dialed given] at failed
      cases failed

section

variable (dials : services.Dials) (named : stream.check = .ok ()) (preset : stream.presetId = some presetId)

include dials named preset

omit dials

include dials

end

end

namespace Gateway

variable {request : Request} {videoId : String} {contacts : List Contact} {fault : Fault} {status : Nat}

end Gateway

end VideoRelay
