import VideoRelay.Address
import VideoRelay.Settings

set_option autoImplicit false

namespace VideoRelay

structure Backends where
  storage : Address
  encoder : Address
  connectTimeoutMillis : Nat
deriving DecidableEq, Repr

def BackendSettings.resolve (backends : BackendSettings) : Except Fault Backends := do
  let storage <- Address.parse backends.storageAddress
  let encoder <- Address.parse backends.encoderAddress
  return { storage, encoder, connectTimeoutMillis := backends.connectTimeoutMillis }

end VideoRelay
