import BuildFleet.Url.Basic

/-!
# Reasons

Every registered status of a response has a reason, a phrase for people.
-/

namespace BuildFleet.Http

def reasons : List (Nat × String) := [
  (100, "Continue"), (101, "Switching Protocols"), (102, "Processing"),
  (200, "OK"), (201, "Created"), (202, "Accepted"), (203, "Non Authoritative Information"),
  (204, "No Content"), (205, "Reset Content"), (206, "Partial Content"), (207, "Multi-Status"),
  (208, "Already Reported"), (226, "IM Used"),
  (300, "Multiple Choices"), (301, "Moved Permanently"), (302, "Found"), (303, "See Other"),
  (304, "Not Modified"), (305, "Use Proxy"), (307, "Temporary Redirect"),
  (308, "Permanent Redirect"),
  (400, "Bad Request"), (401, "Unauthorized"), (402, "Payment Required"), (403, "Forbidden"),
  (404, "Not Found"), (405, "Method Not Allowed"), (406, "Not Acceptable"),
  (407, "Proxy Authentication Required"), (408, "Request Timeout"), (409, "Conflict"),
  (410, "Gone"), (411, "Length Required"), (412, "Precondition Failed"),
  (413, "Payload Too Large"), (414, "URI Too Long"), (415, "Unsupported Media Type"),
  (416, "Range Not Satisfiable"), (417, "Expectation Failed"), (418, "I'm a teapot"),
  (421, "Misdirected Request"), (422, "Unprocessable Entity"), (423, "Locked"),
  (424, "Failed Dependency"), (426, "Upgrade Required"), (428, "Precondition Required"),
  (429, "Too Many Requests"), (431, "Request Header Fields Too Large"),
  (451, "Unavailable For Legal Reasons"),
  (500, "Internal Server Error"), (501, "Not Implemented"), (502, "Bad Gateway"),
  (503, "Service Unavailable"), (504, "Gateway Timeout"), (505, "HTTP Version Not Supported"),
  (506, "Variant Also Negotiates"), (507, "Insufficient Storage"), (508, "Loop Detected"),
  (510, "Not Extended"), (511, "Network Authentication Required")]

/-- A status with its reason. -/
def statusText (status : Nat) : String :=
  toString status ++ " " ++ (reasons.lookup status).getD "<unknown status code>"

/-- Whether a status reports that a request was fulfilled. -/
def isSuccess (status : Nat) : Bool := 200 ≤ status && status < 300

end BuildFleet.Http

/-!
## Requests to other programs

A client sends a request to a URL and gets a response, or learns that nobody
answers there. Requests that could not be sent at all are refused beforehand.
-/

namespace BuildFleet

/-- What becomes of a request that is sent. -/
inductive Exchange where
  /-- Nobody answers. -/
  | unanswered
  | answered (status : Nat) (content : String)
deriving DecidableEq, Repr

structure ClientRequest where
  method : String
  url : Url
  headers : List (String × String)
  content : String
deriving DecidableEq

namespace ClientRequest

/-- The URL as messages show it: without the credentials, which are sent in a
header of their own. -/
def shownUrl (request : ClientRequest) : String :=
  let authority := request.url.authority.map fun authority =>
    { authority with username := "", password := "" }
  Url.text { request.url with authority }

/-- A message about the URL of a request. -/
def about (request : ClientRequest) (problem : String) : String :=
  problem ++ " for url (" ++ request.shownUrl ++ ")"

/-- The message for a request that nobody answers. -/
def unansweredText (request : ClientRequest) : String := request.about "error sending request"

/-- Whether a header can hold a value: all characters but control characters,
and tabs. -/
def isHeaderValue (value : String) : Bool :=
  value.toList.all fun character =>
    (32 ≤ character.toNat && character.toNat ≠ 127) || character == '\t'

/-- Why a request cannot be sent, if it cannot. -/
def refusal? (request : ClientRequest) : Option String :=
  let host := request.url.authority.map (·.host.text)
  if (host.getD "").isEmpty then some (request.about "builder error")
  else if !request.headers.all (isHeaderValue ·.2) then some "builder error"
  else if !(["http", "https"].contains request.url.scheme) then
    some (request.about "builder error")
  else none

end ClientRequest

end BuildFleet
