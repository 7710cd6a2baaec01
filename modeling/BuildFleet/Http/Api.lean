import BuildFleet.Dispatcher
import BuildFleet.Http.Message
import BuildFleet.Http.MediaType
import BuildFleet.Text.Hex

/-!
# The interface for front-ends

Front-ends submit, query and cancel jobs by HTTP requests to the dispatcher. An
endpoint that changes jobs lets a request through only with the right token,
which is checked before anything else about the request.
-/

namespace BuildFleet

namespace Failure

/-- The status of a response that reports a failure. -/
def httpStatus : Failure → Nat
  | invalidTarget _ | invalidPayload _ => 400
  | notFound _ => 404
  | conflict _ | alreadyTerminal _ => 409
  | unavailable _ => 503
  | rejected _ | timeout _ | lost _ | executionFailed _ | internal _ => 500

/-- What a response tells of a failure. -/
def httpMessage : Failure → String
  | notFound message | unavailable message => message
  | failure => failure.text

end Failure

namespace HttpResponse

/-- A response that reports an error. -/
def error (status : Nat) (message : String) : HttpResponse :=
  json status (.object [("error", .string message)])

def ofFailure (failure : Failure) : HttpResponse := error failure.httpStatus failure.httpMessage

end HttpResponse

/-- One job for one target. -/
structure Submission where
  target : String
  payload : Json
deriving DecidableEq

def Submission.reader : Json.Reader Submission :=
  Json.RecordReader.read
    (Submission.mk <$>
      .required "target" Json.readString <*>
      .required "payload" Json.readValue)
    "SubmitRequest"

/-- One job for every target that the names stand for. -/
structure BatchSubmission where
  names : List String
  payload : Json
deriving DecidableEq

def BatchSubmission.reader : Json.Reader BatchSubmission :=
  Json.RecordReader.read
    (BatchSubmission.mk <$>
      .required "targets" (Json.readList Json.readString) <*>
      .required "payload" Json.readValue)
    "BatchRequest"

/-- The interface: a dispatcher, and the token that changes ask for. -/
structure Api where
  dispatcher : Dispatcher
  token : Option String
deriving DecidableEq

namespace Api

/-! ## The token -/

/-- The token that a request presents. -/
def presentedToken? (request : HttpRequest) : Option String :=
  (request.textHeader? "authorization").bind fun value =>
    let scheme := "Bearer ".toList
    if scheme.isPrefixOf value.toList then some (String.ofList (value.toList.drop scheme.length))
    else none

/-- Whether the presented token is the expected one. -/
def tokenMatches (presented expected : String) : Bool := presented == expected

/-- Why a request is turned away, if it is. -/
def refusal? (api : Api) (request : HttpRequest) : Option HttpResponse :=
  match api.token with
  | none => none
  | some expected =>
    match presentedToken? request with
    | none => some (.error 401 "missing bearer token")
    | some presented =>
      if tokenMatches presented expected then none else some (.error 401 "invalid token")

/-! ## Contents of requests -/

/-- The longest content that is read, in bytes. -/
def contentLimit : Nat := 2097152

/-- Read the content of a request as a record. -/
def readContent (read : Json.Reader α) (request : HttpRequest) : Except HttpResponse α :=
  if !((request.textHeader? "content-type").any Http.isJsonType) then .error (.bare 415)
  else if request.body.utf8ByteSize > contentLimit then .error (.bare 413)
  else
    match Json.readText read request.body with
    | .ok content => .ok content
    | .error .form => .error (.bare 400)
    | .error (.kind _) => .error (.bare 422)

/-- The identifier that a segment of the path names. -/
def readId (encodedId : String) : Except HttpResponse JobId :=
  match Text.percentDecode? encodedId with
  | none => .error (.bare 400)
  | some text =>
    match JobId.ofText? text with
    | some id => .ok id
    | none => .error (.error 400 ("invalid job id: " ++ text))

/-! ## Answers -/

/-- Answer a failure with its response. -/
def respond (action : Action HttpResponse) : Action HttpResponse := do
  match ← action.attempt with
  | .ok response => return response
  | .error failure => return .ofFailure failure

/-- Go on with what was read, or answer why it could not be read. -/
def withRead (content : Except HttpResponse α) (go : α → Action HttpResponse) :
    Action HttpResponse :=
  match content with
  | .ok value => respond (go value)
  | .error response => return response

/-- Serve a request that has the right method and may pass. -/
def serve (api : Api) (request : HttpRequest) : Endpoint → Action HttpResponse
  | .health => return .json 200 (.object [("status", .string "ok")])
  | .readiness => respond do
    let _ ← api.dispatcher.status
    return .json 200 (.object [("status", .string "ready")])
  | .fleetStatus => respond do
    return .json 200 (← api.dispatcher.status).toJson
  | .submission => withRead (readContent Submission.reader request) fun submission => do
    let id ← api.dispatcher.submit submission.target submission.payload
    return .json 201 (.object [("job_id", id.toJson)])
  | .batch => withRead (readContent BatchSubmission.reader request) fun batch => do
    let jobs ← api.dispatcher.submitAll batch.names batch.payload
    return .json 201 (.object [("jobs", .array (jobs.map Submitted.toJson))])
  | .job encodedId => withRead (readId encodedId) fun id => do
    return .json 200 (← Dispatcher.query id).toJson
  | .cancellation encodedId => withRead (readId encodedId) fun id => do
    Dispatcher.cancel id
    return .bare 204

/-- Why a request to an endpoint is turned away before its method is looked at. -/
def gate (api : Api) (request : HttpRequest) (endpoint : Endpoint) : Option HttpResponse :=
  if endpoint.needsToken then api.refusal? request else none

/-- The response to a request, with its content even if only the head is asked for. -/
def respondTo (api : Api) (request : HttpRequest) : Action HttpResponse :=
  match Endpoint.ofSegments? request.segments with
  | none => return .bare 404
  | some endpoint =>
    match api.gate request endpoint with
    | some refusal => return refusal
    | none =>
      if endpoint.takes request.method then api.serve request endpoint else return .bare 405

/-- The response to a request. -/
def handle (api : Api) (request : HttpRequest) : Action HttpResponse := do
  let response ← api.respondTo request
  return if request.method = "HEAD" then response.withoutContent else response

end Api

end BuildFleet
