import BuildFleet.Net.Address

/-!
# URLs

A URL has a scheme and a path, and may have an authority, a query and a
fragment. All parts are kept as they are written in the normal form of the URL,
with what may not stand in them percent encoded.
-/

namespace BuildFleet

namespace Url

inductive Host where
  | domain (name : String)
  | ipv4 (address : Ipv4)
  | ipv6 (address : Ipv6)
deriving DecidableEq, Repr

def Host.text : Host → String
  | domain name => name
  | ipv4 address => address.text
  | ipv6 address => "[" ++ address.compressed ++ "]"

inductive Path where
  /-- A path that is no list of segments. -/
  | opaqueText (text : String)
  | segments (segments : List String)
deriving DecidableEq, Repr

/-- Who is asked, and where. -/
structure Authority where
  username : String
  password : String
  host : Host
  /-- The port, unless it is the one that the scheme has anyway. -/
  port : Option Nat
deriving DecidableEq, Repr

namespace Authority

def credentials (authority : Authority) : String :=
  let password := if authority.password.isEmpty then "" else ":" ++ authority.password
  if authority.username.isEmpty && password.isEmpty then ""
  else authority.username ++ password ++ "@"

def portText (authority : Authority) : String :=
  match authority.port with
  | some port => ":" ++ toString port
  | none => ""

/-- The host, and the port if it is given. -/
def place (authority : Authority) : String := authority.host.text ++ authority.portText

def text (authority : Authority) : String := authority.credentials ++ authority.place

end Authority

end Url

structure Url where
  scheme : String
  authority : Option Url.Authority
  path : Url.Path
  query : Option String
  fragment : Option String
deriving DecidableEq, Repr

namespace Url

def pathText (url : Url) : String :=
  match url.path with
  | .opaqueText text => text
  | .segments segments => String.join (segments.map ("/" ++ ·))

def queryText (url : Url) : String :=
  match url.query with
  | some query => "?" ++ query
  | none => ""

/-- The path and the query, as requests name them. -/
def target (url : Url) : String := url.pathText ++ url.queryText

def text (url : Url) : String :=
  let path := url.pathText
  let authority := match url.authority with
    | some authority => "//" ++ authority.text
    -- Two slashes at the start of a path would read as an authority.
    | none => if "//".toList.isPrefixOf path.toList then "/." else ""
  let fragment := match url.fragment with
    | some fragment => "#" ++ fragment
    | none => ""
  url.scheme ++ ":" ++ authority ++ path ++ url.queryText ++ fragment

end Url

end BuildFleet
