import VideoRelay.Document.Json
import VideoRelay.Text.Quoted

set_option autoImplicit false

namespace VideoRelay.Journal

inductive Level where
  | error | warn | info | debug | trace
deriving DecidableEq, Repr

def Level.rank : Level -> Nat
  | error => 1
  | warn => 2
  | info => 3
  | debug => 4
  | trace => 5

def Level.label : Level -> String
  | error => "ERROR"
  | warn => "WARN"
  | info => "INFO"
  | debug => "DEBUG"
  | trace => "TRACE"

structure Record where
  level : Level := .info
  target : String := "dtvault_bff"
  message : String
  fields : List (String × String) := []
deriving DecidableEq, Repr

def Record.fieldNames (record : Record) : List String :=
  "message" :: record.fields.map Prod.fst

/-- Characters that a terminal takes for commands are written out in the form for readers. -/
def shownChar (c : Char) : List Char :=
  if [7, 8, 12, 27, 127].contains c.toNat then
    ['\\', 'x', Text.hexDigit (c.toNat / 16), Text.hexDigit (c.toNat % 16)]
  else if 128 <= c.toNat && c.toNat < 160 then ['\\', 'u', '\x7b'] ++ Text.hexChars c.toNat ++ ['\x7d']
  else [c]

def shownText (text : String) : String :=
  String.ofList (text.toList.flatMap shownChar)

def Record.pretty (time : String) (record : Record) : String :=
  let label := String.ofList (List.replicate (5 - record.level.label.length) ' ') ++ record.level.label
  let fields := record.fields.map fun (name, value) => ", " ++ name ++ ": " ++ value
  "  " ++ time ++ " " ++ label ++ " " ++ shownText record.message ++ String.join fields ++ "\n\n"

def Record.document (record : Record) : Document :=
  .table [("level", .text record.level.label),
    ("fields", .table (("message", .text record.message) ::
      record.fields.map fun (name, value) => (name, .text value))),
    ("target", .text record.target)]

def Record.json (time : String) (record : Record) : String :=
  Document.toJson (.table (("timestamp", .text time) :: record.document.entries)) ++ "\n"

inductive Form where
  | pretty | json
deriving DecidableEq, Repr

def Form.ofName : String -> Form
  | "json" => json
  | _ => pretty

def Form.write (form : Form) (time : String) (record : Record) : String :=
  match form with
  | pretty => record.pretty time
  | json => record.json time

end VideoRelay.Journal
