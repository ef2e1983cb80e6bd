import VideoRelay.Frame
import VideoRelay.Text.Utf8

set_option autoImplicit false

namespace VideoRelay

structure Headers where
  entries : List (String × String) := []
deriving DecidableEq, Repr

namespace Headers

def get? (headers : Headers) (name : String) : Option String :=
  headers.entries.lookup name

def insert (headers : Headers) (name value : String) : Headers :=
  { entries := headers.entries.filter (fun entry => entry.1 != name) ++ [(name, value)] }

theorem get?_insert (headers : Headers) (name value other : String) :
    (headers.insert name value).get? other =
      if other = name then some value else headers.get? other := by
  obtain ⟨entries⟩ := headers
  simp only [get?, insert]
  induction entries with
  | nil => by_cases same : other = name <;> simp [List.lookup_cons, same, beq_eq_false_iff_ne.2]
  | cons entry rest ih =>
    obtain ⟨key, old⟩ := entry
    by_cases same : other = name <;> by_cases replaced : key = name <;> by_cases found : other = key <;>
      simp_all [List.lookup_cons, beq_eq_false_iff_ne.2]

end Headers

def isHeaderByte (byte : UInt8) : Bool :=
  byte == 9 || (32 <= byte && byte != 127)

def isHeaderText (text : String) : Bool :=
  (Text.utf8Bytes text).all isHeaderByte

def contentType : String := "content-type"

def contentDisposition : String := "content-disposition"

def plainText : String := "text/plain; charset=utf-8"

def internalFaultText : String := "Internal error\n"

structure ResponseHead where
  status : Nat
  headers : Headers := {}
deriving DecidableEq, Repr

def ResponseHead.plain (status : Nat) : ResponseHead :=
  { status, headers := ({} : Headers).insert contentType plainText }

structure Response where
  head : ResponseHead
  body : List Bytes := []
deriving DecidableEq, Repr

/-- A whole body at once; an empty one has no frame. -/
def Response.whole (head : ResponseHead) (body : Bytes) : Response :=
  { head, body := if body.isEmpty then [] else [body] }

def Response.plain (status : Nat) (text : String) : Response :=
  .whole (.plain status) (Text.utf8Bytes text)

end VideoRelay
