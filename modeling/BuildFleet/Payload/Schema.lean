import BuildFleet.Json.Reading
import BuildFleet.Text.Blank
import BuildFleet.Failure

/-!
# Payload schemas

Payloads are stored and forwarded without being read. A front-end may ask that
they be requests to build packages, so that malformed ones are refused before a
job is made of them.
-/

namespace BuildFleet

/-- A request to build packages. -/
structure BuildRequest where
  packages : List String
  gitRef : String
  githubPullRequest : Option Nat
  /-- Data of the front-end that comes back in its notifications. -/
  replyTo : Option Json
deriving DecidableEq

namespace BuildRequest

def reader : Json.Reader BuildRequest :=
  Json.RecordReader.read
    (BuildRequest.mk <$>
      .required "packages" (Json.readList Json.readString) <*>
      .required "git_ref" Json.readString <*>
      .defaulted "github_pr" Json.readNat64 <*>
      .defaulted "reply_to" Json.readValue)
    "BuildRequest"

/-- Members that are not given are left out. -/
def toJson (request : BuildRequest) : Json :=
  .object (
    [("packages", .array (request.packages.map .string)), ("git_ref", .string request.gitRef)] ++
    (request.githubPullRequest.map fun number => ("github_pr", Json.integer number)).toList ++
    (request.replyTo.map fun value => ("reply_to", value)).toList)

end BuildRequest

/-- What a payload has to be. -/
inductive PayloadSchema where
  /-- Any value. -/
  | any
  /-- A request for at least one package at a given version. -/
  | buildRequest
deriving DecidableEq, Repr

namespace PayloadSchema

/-- Refuse a payload that the schema does not admit. -/
def validate : PayloadSchema → Json → Except Failure Unit
  | any, _ => .ok ()
  | buildRequest, payload =>
    match Json.readAs BuildRequest.reader payload with
    | .error (.kind message) => .error (.invalidPayload message)
    | .error .form => .error (.invalidPayload "the payload is not JSON")
    | .ok request =>
      if Text.allBlank request.gitRef then .error (.invalidPayload "git_ref is empty")
      else if request.packages.isEmpty then .error (.invalidPayload "no packages given")
      else if request.packages.any Text.allBlank then
        .error (.invalidPayload "empty package name")
      else .ok ()

end PayloadSchema

end BuildFleet
