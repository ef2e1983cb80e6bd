import VideoRelay.Status

set_option autoImplicit false

namespace VideoRelay

inductive Violation where
  | missingPart
  | headerTwice
  | datagramBeforeHeader
  | descriptorTwice
  | chunkBeforeDescriptor
deriving DecidableEq, Repr

def Violation.message : Violation -> String
  | missingPart => "GetVideo response carries neither header nor datagram"
  | headerTwice => "header received twice"
  | datagramBeforeHeader => "datagram received before header"
  | descriptorTwice => "video header received twice"
  | chunkBeforeDescriptor => "chunk arrived before the video header"

inductive Fault where
  | presetNotFound (preset : String)
  | invalidInput (message : String)
  | connectionFailure (message : String)
  | streamProtocol (message : String)
  | streamTransport (status : Status)
  | config (message : String)
  | internal (message : String)
deriving DecidableEq, Repr

namespace Fault

def ofViolation (violation : Violation) : Fault :=
  streamProtocol violation.message

def text : Fault -> String
  | presetNotFound preset => "Preset not found: " ++ preset
  | invalidInput message => "Invalid input: " ++ message
  | connectionFailure message => "Connection failure: " ++ message
  | streamProtocol message => "Stream protocol error: " ++ message
  | streamTransport status => "Stream transport error: " ++ status.text
  | config message => "Configuration error: " ++ message
  | internal message => "Internal error: " ++ message

/-- Faults of the request are the client's, all others the server's. -/
def httpStatus : Fault -> Nat
  | presetNotFound _ | invalidInput _ => 400
  | _ => 500

end Fault

end VideoRelay
