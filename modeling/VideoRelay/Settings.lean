import VideoRelay.Upload

set_option autoImplicit false

namespace VideoRelay

structure ServerSettings where
  host : String := "0.0.0.0"
  httpPort : UInt16 := 8080
deriving DecidableEq, Repr

structure BackendSettings where
  storageAddress : String := ""
  encoderAddress : String := ""
  connectTimeoutSeconds : UInt64 := 10
deriving DecidableEq, Repr

structure LoggingSettings where
  level : String := "info"
  format : String := "pretty"
  filePath : Option String := none
deriving DecidableEq, Repr

structure Settings where
  server : ServerSettings := {}
  backends : BackendSettings := {}
  thumbnail : ImageSpec := {}
  logging : LoggingSettings := {}
deriving DecidableEq, Repr

def BackendSettings.connectTimeoutMillis (backends : BackendSettings) : Nat :=
  1000 * backends.connectTimeoutSeconds.toNat

def Settings.httpAddress (settings : Settings) : String :=
  settings.server.host ++ ":" ++ toString settings.server.httpPort.toNat

end VideoRelay
