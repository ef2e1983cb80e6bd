import VideoRelay.Gateway.Query

set_option autoImplicit false

namespace VideoRelay.Gateway

open Text

structure Target where
  path : String
  query : Query
deriving DecidableEq, Repr

namespace Target

def withoutAuthority (chars : List Char) : List Char :=
  match cut ':' chars with
  | (scheme, some ('/' :: '/' :: rest)) =>
    if scheme.head? = some '/' then chars
    else
      let path := rest.dropWhile fun c => c != '/' && c != '?'
      if path.head? = some '/' then path else '/' :: path
  | _ => chars

def parse (text : String) : Target :=
  let (path, query) := cut '?' (withoutAuthority (cut '#' text.toList).1)
  { path := String.ofList path, query := .parse (utf8Bytes (String.ofList (query.getD []))) }

end Target

end VideoRelay.Gateway
