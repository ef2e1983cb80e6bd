import VideoRelay.Text.Quoted

set_option autoImplicit false

namespace VideoRelay

inductive StatusCode where
  | ok | cancelled | unknown | invalidArgument | deadlineExceeded | notFound | alreadyExists
  | permissionDenied | resourceExhausted | failedPrecondition | aborted | outOfRange | unimplemented
  | internal | unavailable | dataLoss | unauthenticated
deriving DecidableEq, Repr

namespace StatusCode

def all : List StatusCode := [
  ok, cancelled, unknown, invalidArgument, deadlineExceeded, notFound, alreadyExists,
  permissionDenied, resourceExhausted, failedPrecondition, aborted, outOfRange, unimplemented,
  internal, unavailable, dataLoss, unauthenticated]

def ofNumber (number : Int) : StatusCode :=
  if number < 0 then unknown else all.getD number.toNat unknown

def number (code : StatusCode) : Nat :=
  all.idxOf code

def description : StatusCode -> String
  | ok => "The operation completed successfully"
  | cancelled => "The operation was cancelled"
  | unknown => "Unknown error"
  | invalidArgument => "Client specified an invalid argument"
  | deadlineExceeded => "Deadline expired before operation could complete"
  | notFound => "Some requested entity was not found"
  | alreadyExists => "Some entity that we attempted to create already exists"
  | permissionDenied => "The caller does not have permission to execute the specified operation"
  | resourceExhausted => "Some resource has been exhausted"
  | failedPrecondition => "The system is not in a state required for the operation's execution"
  | aborted => "The operation was aborted"
  | outOfRange => "Operation was attempted past the valid range"
  | unimplemented => "Operation is not implemented or not supported"
  | internal => "Internal error"
  | unavailable => "The service is currently unavailable"
  | dataLoss => "Unrecoverable data loss or corruption"
  | unauthenticated => "The request does not have valid authentication credentials"

end StatusCode

structure Status where
  code : StatusCode
  message : String
deriving DecidableEq, Repr

namespace Status

def text (status : Status) : String :=
  let described := "code: '" ++ status.code.description ++ "'"
  if status.message.isEmpty then described
  else described ++ ", message: " ++ Text.quoted status.message

def lowerAscii (chars : List Char) : List Char :=
  chars.map Char.toLower

def occursIn (part : List Char) : List Char -> Bool
  | [] => part.isEmpty
  | c :: rest => part.isPrefixOf (c :: rest) || occursIn part rest

def tearDownPhrases : List String := ["broken pipe", "connection reset"]

/-- The call was torn down after its work was done; only ASCII letters are folded. -/
def isTornDown (status : Status) : Bool :=
  tearDownPhrases.any fun phrase => occursIn phrase.toList (lowerAscii status.message.toList)

end Status

end VideoRelay
