import BuildFleet.CommandLine.Command
import BuildFleet.CommandLine.Report
import BuildFleet.Http.Client
import BuildFleet.Machine.Files
import BuildFleet.Payload.Schema

/-!
# Sessions

A session is what a call of the program does: it reads files, sends requests and
opens a store, and goes on with what it gets, until it ends. Nothing is done here;
a session can be held with the real world or with a made-up one.
-/

namespace BuildFleet.CommandLine

/-- How the program ends: its status, what it printed, and its complaint. -/
structure Ending where
  exitCode : Nat
  output : String
  complaint : Option String
deriving DecidableEq, Repr

namespace Ending

def success (output : String) : Ending := ⟨0, output, none⟩

def failure (message : String) : Ending := ⟨1, "", some ("Error: " ++ message)⟩

/-- The end of a call that is no command. The complaint is not told. -/
def ofRefusal : Refusal → Ending
  | .help => success helpText
  | .fault _ => ⟨2, "", none⟩

/-- The first line of the complaint. -/
def message (ending : Ending) : Option String :=
  ending.complaint.map fun complaint => String.ofList (complaint.toList.takeWhile (· ≠ '\n'))

end Ending

/-- What a worker serves, and how. -/
structure WorkerPlan where
  hostname : String
  target : Target
  environment : EnvironmentSettings
  lease : LeaseSettings
  buildTimeout : Span
deriving DecidableEq

inductive Session where
  | finish (ending : Ending)
  | readFile (path : String) (go : Except SystemFault String → Session)
  | findSocket (path : String) (go : Bool → Session)
  | send (request : ClientRequest) (go : Exchange → Session)
  | openStore (url : String) (go : Bool → Session)
  /-- Serve until the worker is told to stop. -/
  | serve (plan : WorkerPlan)

/-- A made-up world to hold sessions with. -/
structure Surroundings where
  file : String → Except SystemFault String
  socketExists : String → Bool
  transport : ClientRequest → Exchange
  storeOpens : String → Bool

/-- How a session ends in a made-up world. -/
def Session.endingIn (world : Surroundings) : Session → Ending
  | finish ending => ending
  | readFile path go => (go (world.file path)).endingIn world
  | findSocket path go => (go (world.socketExists path)).endingIn world
  | send request go => (go (world.transport request)).endingIn world
  | openStore url go => (go (world.storeOpens url)).endingIn world
  | serve _ => .success ""

namespace Session

def fail (message : String) : Session := .finish (.failure message)

/-! ## Requests to the interface -/

/-- What a response without success says. -/
def responseProblem (status : Nat) (content : String) : String :=
  let told := match Json.parse content with
    | .ok body => (body.member? "error").bind fun error =>
      match error with
      | .string message => some message
      | _ => none
    | .error _ => none
  told.getD (Http.statusText status) ++ " (" ++ Http.statusText status ++ ")"

/-- Send a request to the interface, and finish with the content of its response. -/
def call (invocation : Invocation) (method path : String) (headers : List (String × String))
    (content : String) (finish : String → Ending) : Session :=
  match Url.ofText invocation.apiUrl with
  | .error _ => fail ("Invalid API URL: " ++ invocation.apiUrl)
  | .ok base =>
    match base.atPath? path with
    | none => fail ("Invalid API path: " ++ path)
    | some url =>
      let request : ClientRequest := { method, url, headers, content }
      match request.refusal? with
      | some problem => fail problem
      | none => .send request fun exchange =>
        match exchange with
        | .unanswered => fail request.unansweredText
        | .answered status content =>
          if Http.isSuccess status then .finish (finish content)
          else fail (responseProblem status content)

/-- The header that presents the token, if there is one. -/
def authorization (invocation : Invocation) : List (String × String) :=
  (invocation.token.map fun token => ("authorization", "Bearer " ++ token)).toList

/-- Finish with a report on a record. -/
def reportOn (read : Json.Reader α) (report : α → String) (content : String) : Ending :=
  match Json.readText read content with
  | .ok record => .success (report record)
  | .error _ => .failure "error decoding response body"

def batchReader : Json.Reader (List Submitted) :=
  Json.RecordReader.read (.required "jobs" (Json.readList Submitted.reader)) "BatchResponse"

/-- The content of a submission. -/
def submissionText (targets : List String) (request : BuildRequest) : String :=
  let payload := match request.toJson with
    | .object members => Json.ofMembers members
    | other => other
  Json.compact (Json.ofMembers [("targets", .array (targets.map .string)), ("payload", payload)])

/-! ## Workers -/

def socketPath : String := "/var/run/docker.sock"

/-- Serve when the build environment is there and the store opens. -/
def serveWith (storeUrl : String) (plan : WorkerPlan) : Session :=
  let serving : Session := .openStore storeUrl fun opened =>
    if opened then .serve plan else fail "Failed to open job store"
  match plan.environment with
  | .process command _ => if command.isEmpty then fail "Invalid build command" else serving
  | .docker _ _ => .findSocket socketPath fun found =>
    if found then serving else fail "Failed to connect to Docker"

/-- The name of the machine as its file has it. -/
def machineName (content : Except SystemFault String) : String :=
  match content with
  | .ok text => if Text.allBlank text then "localhost" else Text.trim text
  | .error _ => "localhost"

/-- A session with a name for the machine. -/
def withHostname (hostname : Option String) (go : String → Session) : Session :=
  match hostname with
  | some hostname => go hostname
  | none => .readFile "/etc/hostname" fun content => go (machineName content)

/-- A session with the settings of a file. -/
def withSettings (path : String) (go : Except String Settings → Session) : Session :=
  .readFile path fun content =>
    match content with
    | .error fault => go (.error ("IO error: " ++ fault.text))
    | .ok text => go ((Settings.ofText text).mapError SettingsError.text)

def work (environment : String → Option String) (configPath : String)
    (target hostname : Option String) : Session :=
  withSettings configPath fun read =>
    match read with
    | .error _ => fail ("Failed to load config: " ++ configPath)
    | .ok settings =>
      let settings := settings.withEnvironment environment
      match settings.worker, settings.storeUrl with
      | none, _ => fail ("No worker section in " ++ configPath)
      | some _, none => fail "Workers need a shared store; set `store` or BUILDIT_DATABASE_URL"
      | some worker, some storeUrl =>
        match settings.targets.resolve (target.getD worker.target) with
        | .error failure => fail failure.text
        | .ok target => withHostname (hostname.or worker.hostname) fun hostname =>
          serveWith storeUrl
            ⟨hostname, target, worker.environment, settings.lease, settings.buildTimeout⟩

/-! ## All commands -/

def validate (path : String) : Session :=
  withSettings path fun read =>
    match read with
    | .ok settings => .finish (.success (settingsReport settings))
    | .error message => .finish ⟨1, settingsProblem message, none⟩

/-- What a call of the program does. -/
def ofInvocation (environment : String → Option String) (invocation : Invocation) : Session :=
  match invocation.command with
  | .submit targets packages gitRef pullRequest =>
    call invocation "POST" "/api/v1/jobs/batch"
      (("content-type", "application/json") :: authorization invocation)
      (submissionText targets ⟨packages, gitRef, pullRequest, none⟩)
      (reportOn batchReader submittedReport)
  | .query id =>
    call invocation "GET" ("/api/v1/jobs/" ++ id) [] "" (reportOn Job.reader jobReport)
  | .cancel id =>
    call invocation "POST" ("/api/v1/jobs/" ++ id ++ "/cancel") (authorization invocation) ""
      fun _ => .success (lines ["Cancelled " ++ id])
  | .status =>
    call invocation "GET" "/api/v1/status" [] "" (reportOn FleetStatus.reader fleetReport)
  | .work target hostname => work environment invocation.configPath target hostname
  | .validate path => validate (path.getD invocation.configPath)

/-- What a call of the program with these arguments does. -/
def ofArguments (environment : String → Option String) (arguments : List String) : Session :=
  match Invocation.ofArguments environment arguments with
  | .error refusal => .finish (.ofRefusal refusal)
  | .ok invocation => ofInvocation environment invocation

end Session

end BuildFleet.CommandLine
