import BuildFleet.Json.Value
import BuildFleet.Text.Blank

/-!
# HTTP requests and responses
-/

namespace BuildFleet

structure HttpRequest where
  method : String
  /-- The path, and the query if there is one. -/
  uri : String
  headers : List (String × String)
  body : String
deriving DecidableEq, Repr

namespace HttpRequest

/-- The path without the query. -/
def path (request : HttpRequest) : String :=
  String.ofList (request.uri.toList.takeWhile fun character => character ≠ '?' ∧ character ≠ '#')

/-- What stands between the slashes of the path. A path starts with a slash. -/
def segments (request : HttpRequest) : List String :=
  ((Text.splitOn '/' request.path.toList).map String.ofList).drop 1

/-- The first header of a name. Names are the same in either case. -/
def header? (request : HttpRequest) (name : String) : Option String :=
  (request.headers.find? fun header => header.1.map Char.toLower = name).map (·.2)

/-- The first header of a name, if it holds nothing but visible ASCII
characters, blanks and tabs. -/
def textHeader? (request : HttpRequest) (name : String) : Option String :=
  (request.header? name).filter fun value => value.toList.all fun character =>
    (32 ≤ character.toNat && character.toNat < 127) || character == '\t'

end HttpRequest

structure HttpResponse where
  status : Nat
  /-- Whether the content is declared to be JSON. -/
  isJson : Bool
  /-- The content, if it is JSON and is sent. -/
  content : Option Json
deriving DecidableEq

namespace HttpResponse

def json (status : Nat) (content : Json) : HttpResponse := ⟨status, true, some content⟩

/-- A response that is known by its status alone. -/
def bare (status : Nat) : HttpResponse := ⟨status, false, none⟩

def toJson (response : HttpResponse) : Json :=
  .object [
    ("status", .integer response.status),
    ("json", .bool response.isJson),
    ("body", response.content.getD .null)]

/-- The head of a response. -/
def withoutContent (response : HttpResponse) : HttpResponse := { response with content := none }

end HttpResponse

/-!
## Endpoints

The paths of the interface, the method that each of them takes, and which of
them ask for the token. Jobs are named by one segment of the path, still
encoded.
-/

inductive Endpoint where
  | health
  | readiness
  | fleetStatus
  | submission
  | batch
  | job (encodedId : String)
  | cancellation (encodedId : String)
deriving DecidableEq, Repr

namespace Endpoint

/-- The endpoint with these segments. A fixed name comes before an identifier. -/
def ofSegments? : List String → Option Endpoint
  | ["health"] => some health
  | ["health", "ready"] => some readiness
  | ["api", "v1", "status"] => some fleetStatus
  | ["api", "v1", "jobs"] => some submission
  | ["api", "v1", "jobs", "batch"] => some batch
  | ["api", "v1", "jobs", id] => if id.isEmpty then none else some (job id)
  | ["api", "v1", "jobs", id, "cancel"] => if id.isEmpty then none else some (cancellation id)
  | _ => none

/-- Endpoints that change jobs. Any request to them needs the token, if there is one. -/
def needsToken : Endpoint → Bool
  | submission | batch | cancellation _ => true
  | health | readiness | fleetStatus | job _ => false

/-- Whether an endpoint takes a method. One that can be read can also be asked
for the head of its answer. -/
def takes (endpoint : Endpoint) (method : String) : Bool :=
  if endpoint.needsToken then method == "POST" else method == "GET" || method == "HEAD"

end Endpoint

end BuildFleet
