import VideoRelay.Response

set_option autoImplicit false

namespace VideoRelay.Gateway

structure Refusal where
  status : Nat
  message : String
deriving DecidableEq, Repr

namespace Refusal

def badRequest (message : String) : Refusal :=
  { status := 400, message }

def notFound : Refusal :=
  { status := 404, message := "Not found" }

def internal : Refusal :=
  { status := 500, message := "Internal error" }

def missingId : Refusal :=
  badRequest "Missing id"

def ofFault : Fault -> Refusal
  | .presetNotFound preset => badRequest ("Preset '" ++ preset ++ "' not found")
  | .invalidInput message => badRequest message
  | _ => internal

def reason : Nat -> String
  | 400 => "Bad Request"
  | 404 => "Not Found"
  | 500 => "Internal Server Error"
  | _ => ""

def text (refusal : Refusal) : String :=
  toString refusal.status ++ " " ++ reason refusal.status ++ ": " ++ refusal.message

def response (refusal : Refusal) : Response :=
  .plain refusal.status (refusal.message ++ "\n")

end Refusal

end VideoRelay.Gateway
