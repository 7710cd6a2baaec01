import BuildFleet.Kdl.Reading
import BuildFleet.Settings.Basic
import BuildFleet.Settings.Duration
import BuildFleet.Url.Reading

/-!
# Reading settings

Settings are read from the nodes of a KDL document one after the other, and what
they say together is checked at the end. Nodes and properties that are not known
are passed over.
-/

namespace BuildFleet

/-- Why a configuration is not accepted. -/
inductive SettingsError where
  /-- The text is no KDL document. -/
  | unreadable
  | missing (setting : String)
  | invalid (setting message : String)
  | duplicate (definition : String)
  | unknownReference (message : String)
deriving DecidableEq, Repr

def SettingsError.text : SettingsError → String
  | unreadable => "KDL parse error: Failed to parse KDL document"
  | missing setting => "missing required field: " ++ setting
  | invalid setting message => "invalid value for " ++ setting ++ ": " ++ message
  | duplicate definition => "duplicate definition: " ++ definition
  | unknownReference message => "invalid reference: " ++ message

namespace Settings

open Kdl (Node)

/-! ## Values of nodes -/

/-- The first argument, if it is a string. -/
def firstString? (node : Node) : Option String := node.arguments.head?.bind Kdl.Value.string?

/-- The arguments that are strings. -/
def allStrings (node : Node) : List String := node.arguments.filterMap Kdl.Value.string?

/-- A property, if it is a string. -/
def stringProperty? (node : Node) (name : String) : Option String :=
  (node.property? name).bind Kdl.Value.string?

/-- A property, if it is true or false. -/
def boolProperty? (node : Node) (name : String) : Option Bool :=
  (node.property? name).bind Kdl.Value.bool?

/-- A property that counts something, if it is given. -/
def countProperty (node : Node) (name : String) : Except SettingsError (Option Nat) :=
  match node.property? name with
  | none => .ok none
  | some (.integer value) =>
    if 0 ≤ value ∧ value < 4294967296 then .ok (some value.toNat)
    else .error (.invalid name "expected a non-negative integer")
  | some _ => .error (.invalid name "expected a non-negative integer")

/-- A property that is a duration, if it is given. -/
def durationProperty (node : Node) (name : String) : Except SettingsError (Option Span) :=
  match node.property? name with
  | none => .ok none
  | some (.integer seconds) =>
    if 0 ≤ seconds ∧ seconds < 18446744073709551616 then
      .ok (some (.ofSeconds (UInt64.ofNat seconds.toNat)))
    else .error (.invalid name "duration must not be negative")
  | some (.string text) =>
    match parseDuration? text with
    | some span => .ok (some span)
    | none => .error (.invalid name ("bad duration '" ++ text ++ "'"))
  | some _ => .error (.invalid name "expected a duration")

/-- A value that has to be there. -/
def require (value : Option α) (setting : String) : Except SettingsError α :=
  match value with
  | some value => .ok value
  | none => .error (.missing setting)

/-! ## Nodes -/

/-- What the nodes read so far say. -/
structure Draft where
  storeUrl : Option String
  lease : LeaseSettings
  buildTimeout : Span
  /-- The names of the targets, in the order of the text. -/
  targets : List String
  /-- The groups and their members, in the order of the text. -/
  groups : List (String × List String)
  worker : Option WorkerSettings
  notify : NotifySettings
  api : ApiSettings
deriving DecidableEq, Repr

/-- What holds if no node says otherwise. -/
def Draft.empty : Draft :=
  { storeUrl := none, lease := .standard, buildTimeout := standardBuildTimeout, targets := []
    groups := [], worker := none, notify := .standard, api := .standard }

/-- The lease with what a node says. A duration without a heartbeat brings the
heartbeat to a third of it. -/
def readLease (lease : LeaseSettings) (node : Node) : Except SettingsError LeaseSettings := do
  let duration ← durationProperty node "duration"
  let lease := match duration with
    | some duration => { lease with duration, heartbeat := duration.third }
    | none => lease
  let heartbeat ← durationProperty node "heartbeat"
  let maxAttempts ← countProperty node "max-attempts"
  let scanInterval ← durationProperty node "scan-interval"
  .ok { lease with
    heartbeat := heartbeat.getD lease.heartbeat
    maxAttempts := maxAttempts.getD lease.maxAttempts
    scanInterval := scanInterval.getD lease.scanInterval }

/-- Add targets, none of which may be there already. -/
def addTargets : List String → List String → Except SettingsError (List String)
  | targets, [] => .ok targets
  | targets, name :: rest =>
    if targets.contains name then .error (.duplicate ("target '" ++ name ++ "'"))
    else addTargets (targets ++ [name]) rest

def readGroup (node : Node) : Except SettingsError (String × List String) :=
  match allStrings node with
  | [] => .error (.missing "group name")
  | name :: members => .ok (name, members)

/-- The children of a name. -/
def childrenOf (node : Node) (name : String) : List Node :=
  node.children.filter (·.name == name)

/-- The environment that a node describes. Of children with one name the last counts. -/
def readEnvironment (node : Node) : Except SettingsError EnvironmentSettings :=
  let last (name : String) : Option Node := (childrenOf node name).getLast?
  let command := ((last "command").map allStrings).getD []
  match firstString? node with
  | some "process" =>
    if command.isEmpty then .error (.missing "command for process environment")
    else .ok (.process command ((last "workdir").bind firstString?))
  | some "docker" => do
    let image ← require ((last "image").bind firstString?) "image for docker environment"
    .ok (.docker image command)
  | kind => .error (.invalid "environment" ("unknown environment type: " ++ kind.getD ""))

/-- The worker that a node describes. Every environment is read, and the last counts. -/
def readWorker (node : Node) : Except SettingsError WorkerSettings := do
  let target ← require (stringProperty? node "target") "worker target"
  let environments ← (childrenOf node "environment").mapM readEnvironment
  let environment ← require environments.getLast? "worker environment"
  .ok ⟨target, stringProperty? node "hostname", environment⟩

def readWebhook (node : Node) : Except SettingsError WebhookSettings := do
  let text ← require (firstString? node) "webhook url"
  match Url.ofText text with
  | .ok url => .ok ⟨url, stringProperty? node "secret"⟩
  | .error fault => .error (.invalid "webhook url" fault.message)

def readNotify (node : Node) : Except SettingsError NotifySettings := do
  let webhooks ← (childrenOf node "webhook").mapM readWebhook
  .ok ⟨(boolProperty? node "log").getD true, webhooks⟩

/-- The interface with what a node says. A node without a token takes it away. -/
def readApi (api : ApiSettings) (node : Node) : Except SettingsError ApiSettings := do
  let listen ← match stringProperty? node "listen" with
    | none => Except.ok api.listen
    | some text =>
      match SocketAddress.ofText? text with
      | some listen => .ok listen
      | none => .error (.invalid "api listen" "invalid socket address syntax")
  let workerOffline ← durationProperty node "worker-offline"
  .ok { listen, token := stringProperty? node "token"
        workerOffline := workerOffline.getD api.workerOffline }

/-- The draft with what one more node says. -/
def readNode (draft : Draft) (node : Node) : Except SettingsError Draft :=
  match node.name with
  | "store" => do .ok { draft with storeUrl := ← require (firstString? node) "store url" }
  | "lease" => do .ok { draft with lease := ← readLease draft.lease node }
  | "build" => do
    let timeout ← durationProperty node "timeout"
    .ok { draft with buildTimeout := timeout.getD draft.buildTimeout }
  | "targets" => do .ok { draft with targets := ← addTargets draft.targets (allStrings node) }
  | "group" => do .ok { draft with groups := draft.groups ++ [← readGroup node] }
  | "worker" =>
    if draft.worker.isSome then .error (.duplicate "worker")
    else do .ok { draft with worker := some (← readWorker node) }
  | "notify" => do .ok { draft with notify := ← readNotify node }
  | "api" => do .ok { draft with api := ← readApi draft.api node }
  | _ => .ok draft

/-! ## What nodes say together -/

/-- Check that leases are renewed before they end, that jobs may be attempted, and
that the monitor rests between scans. -/
def checkLease (lease : LeaseSettings) : Except SettingsError Unit :=
  if lease.duration = .zero then .error (.invalid "lease duration" "must be positive")
  else if lease.heartbeat = .zero ∨ lease.duration ≤ lease.heartbeat then
    .error (.invalid "lease heartbeat"
      ("heartbeat (" ++ lease.heartbeat.text ++ ") must be positive and shorter than the lease ("
        ++ lease.duration.text ++ ")"))
  else if lease.maxAttempts = 0 then .error (.invalid "lease max-attempts" "must be at least 1")
  else if lease.scanInterval = .zero then
    .error (.invalid "lease scan-interval" "must be positive")
  else .ok ()

def isNameStart (character : Char) : Bool := character.isLower || character.isDigit

def isNameCharacter (character : Char) : Bool :=
  isNameStart character || character == '_' || character == '-'

/-- Target names hold lower-case letters, digits, underscores and hyphens, and
start with a letter or a digit. -/
def isTargetName (name : String) : Bool :=
  match name.toList with
  | [] => false
  | first :: rest => isNameStart first && rest.all isNameCharacter

/-- Add groups to a registry. A group may not have the name of another one or of a target. -/
def addGroups (targets : List String) : List String → TargetRegistry →
    List (String × List String) → Except SettingsError TargetRegistry
  | _, registry, [] => .ok registry
  | seen, registry, (name, members) :: rest =>
    if seen.contains name || targets.contains name then
      .error (.duplicate ("group '" ++ name ++ "'"))
    else
      match registry.addGroup name members with
      | .ok registry => addGroups targets (name :: seen) registry rest
      | .error failure => .error (.unknownReference failure.text)

/-- The registry of the targets and groups that were named. -/
def buildRegistry (targets : List String) (groups : List (String × List String)) :
    Except SettingsError TargetRegistry :=
  if targets.isEmpty then .error (.missing "targets")
  else
    match targets.find? fun name => !isTargetName name with
    | some name => .error (.invalid "target" ("'" ++ name ++ "' is not a valid target name"))
    | none => addGroups targets [] (.ofNames targets) groups

/-- Check that a worker serves one of the targets. -/
def checkWorker (targets : List String) : Option WorkerSettings → Except SettingsError Unit
  | none => .ok ()
  | some worker =>
    if targets.contains worker.target then .ok ()
    else .error (.unknownReference
      ("worker serves unknown target '" ++ worker.target ++ "'"))

/-- The settings that a draft amounts to. -/
def ofDraft (draft : Draft) : Except SettingsError Settings := do
  checkLease draft.lease
  let targets ← buildRegistry draft.targets draft.groups
  checkWorker draft.targets draft.worker
  .ok { storeUrl := draft.storeUrl, lease := draft.lease, buildTimeout := draft.buildTimeout
        targets, worker := draft.worker, notify := draft.notify, api := draft.api }

/-- The settings that a document holds. -/
def ofDocument (document : Kdl.Document) : Except SettingsError Settings := do
  ofDraft (← document.foldlM readNode .empty)

/-- The settings that a text holds. -/
def ofText (text : String) : Except SettingsError Settings :=
  match Kdl.Document.ofText? text with
  | some document => ofDocument document
  | none => .error .unreadable

end Settings

end BuildFleet
