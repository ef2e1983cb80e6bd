import VideoRelay.Backends
import VideoRelay.Opening

set_option autoImplicit false

namespace VideoRelay

/-- How the network answers, and the services behind it. The problems of a connection come as texts. -/
structure Network where
  secure : Address -> Except String Unit
  connect : Address -> Nat -> Except String Unit
  listPresets : Except Status (List Preset)
  getVideo : String -> Except Status Unit

namespace Address

def unreached (address : Address) (problem : String) : Fault :=
  .connectionFailure ("Failed to connect to " ++ address.uri ++ ": " ++ problem)

/-- Connects to the target of the address, which has to be one. -/
def dial (address : Address) (network : Network) (timeoutMillis : Nat) : Except Fault Unit := do
  let _ <- address.target
  if address.secure then
    (network.secure address).mapError .connectionFailure
  (network.connect address timeoutMillis).mapError address.unreached

end Address

def Backends.services (backends : Backends) (network : Network) : Services where
  dialStorage := backends.storage.dial network backends.connectTimeoutMillis
  dialEncoder := backends.encoder.dial network backends.connectTimeoutMillis
  listPresets := network.listPresets
  getVideo := network.getVideo

end VideoRelay
