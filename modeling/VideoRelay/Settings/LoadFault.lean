import VideoRelay.Decimal.Shortest
import VideoRelay.Settings.Legacy
import VideoRelay.Text.Quoted

set_option autoImplicit false

namespace VideoRelay.Settings

open Decimal

inductive Found where
  | bool (value : Bool)
  | integer (value : Int)
  | integer64 (value : Int)
  | unsigned64 (value : Nat)
  | double (shown : String)
  | text (value : String)
  | null
  | list
  | table
deriving DecidableEq, Repr

def ticked (text : String) : String :=
  "`" ++ text ++ "`"

def Found.describe : Found -> String
  | bool value => "boolean " ++ ticked (if value then "true" else "false")
  | integer value => "integer " ++ ticked (toString value)
  | integer64 value => "64-bit integer " ++ ticked (toString value)
  | unsigned64 value => "64-bit unsigned integer " ++ ticked (toString value)
  | double shown => "floating point " ++ ticked shown
  | text value => "string " ++ Text.quoted value
  | null => "unit value"
  | list => "sequence"
  | table => "map"

inductive Expected where
  | integer
  | text
  | nonNegative
  | unsigned (bits : Nat)
  | fields (name : String)
  | table
deriving DecidableEq, Repr

def Expected.describe : Expected -> String
  | integer => "an integer"
  | text => "a string"
  | nonNegative => "an unsigned 64 bit or less integer"
  | unsigned bits => "an unsigned " ++ toString bits ++ " bit integer"
  | fields name => "struct " ++ name
  | table => "a map"

inductive LoadFault where
  | mismatch (found : Found) (expected : Expected) (key : String) (origin : Option String)
  | noTable (found : Found) (file : String)
  | malformed (file : String)
  | noNumber (literal file : String)
  | noKey (shown file : String)
  | severalDocuments (count : Nat) (file : String)
  | unsupportedFormat (path : String)
  | notFound (path : String)
  | legacyPort (value : String)
deriving DecidableEq, Repr

def inOrigin (origin : String) : String :=
  " in " ++ origin

def mismatchText (found : Found) (expected : Expected) : String :=
  "invalid type: " ++ found.describe ++ ", expected " ++ expected.describe

def LoadFault.text : LoadFault -> String
  | mismatch found expected key origin =>
    mismatchText found expected ++ " for key " ++ ticked key ++ (origin.map inOrigin).getD ""
  | noTable found file => mismatchText found .table ++ inOrigin file ++ inOrigin file
  | malformed file => "malformed" ++ inOrigin file
  | noNumber literal file =>
    "Parsing " ++ literal ++ " as floating point number failed" ++ inOrigin file
  | noKey shown file =>
    "Cannot parse " ++ shown ++ " because it is an unsupported hash key type" ++ inOrigin file
  | severalDocuments count file =>
    "Got " ++ toString count ++ " YAML documents, expected 1" ++ inOrigin file
  | unsupportedFormat path =>
    "configuration file \"" ++ path ++ "\" is not of a supported file format"
  | notFound path => "configuration file \"" ++ path ++ "\" not found"
  | legacyPort value => invalidPortText value

end VideoRelay.Settings
