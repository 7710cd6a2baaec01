import BuildFleet.Target.Registry
import BuildFleet.Time.Span
import BuildFleet.Url.Basic

/-!
# Settings of a fleet

What one configuration file says about the store, leases, builds, targets, the
worker of this machine, front-ends and the interface.
-/

namespace BuildFleet

structure LeaseSettings where
  duration : Span
  /-- Shorter than the duration. -/
  heartbeat : Span
  maxAttempts : Nat
  scanInterval : Span
deriving DecidableEq, Repr

namespace LeaseSettings

/-- Ninety seconds with three heartbeats, three attempts, and a scan every
fifteen seconds. -/
def standard : LeaseSettings :=
  ⟨.ofSeconds 90, .ofSeconds 30, 3, .ofSeconds 15⟩

def toJson (lease : LeaseSettings) : Json :=
  .object [
    ("duration", lease.duration.toJson),
    ("heartbeat", lease.heartbeat.toJson),
    ("max_attempts", .integer lease.maxAttempts),
    ("scan_interval", lease.scanInterval.toJson)]

end LeaseSettings

/-- What a worker runs builds in. -/
inductive EnvironmentSettings where
  /-- A command of the machine, with the directory to run it in. -/
  | process (command : List String) (workingDirectory : Option String)
  /-- A container. -/
  | docker (image : String) (command : List String)
deriving DecidableEq, Repr

def EnvironmentSettings.toJson : EnvironmentSettings → Json
  | process command workingDirectory => .object [("Process", .object [
      ("command", .array (command.map .string)),
      ("workdir", .ofOption .string workingDirectory)])]
  | docker image command => .object [("Docker", .object [
      ("image", .string image),
      ("command", .array (command.map .string))])]

structure WorkerSettings where
  target : String
  /-- The name of the machine, if it is not to be asked. -/
  hostname : Option String
  environment : EnvironmentSettings
deriving DecidableEq, Repr

def WorkerSettings.toJson (worker : WorkerSettings) : Json :=
  .object [
    ("target", .string worker.target),
    ("hostname", .ofOption .string worker.hostname),
    ("environment", worker.environment.toJson)]

structure WebhookSettings where
  url : Url
  /-- The key that notifications are signed with. -/
  secret : Option String
deriving DecidableEq, Repr

def WebhookSettings.toJson (webhook : WebhookSettings) : Json :=
  .object [("url", .string webhook.url.text), ("secret", .ofOption .string webhook.secret)]

structure NotifySettings where
  /-- Whether every event is logged. -/
  log : Bool
  webhooks : List WebhookSettings
deriving DecidableEq, Repr

namespace NotifySettings

def standard : NotifySettings := ⟨true, []⟩

def toJson (notify : NotifySettings) : Json :=
  .object [
    ("log", .bool notify.log),
    ("webhooks", .array (notify.webhooks.map WebhookSettings.toJson))]

end NotifySettings

structure ApiSettings where
  listen : SocketAddress
  /-- The token that changes ask for. -/
  token : Option String
  /-- Workers not seen for longer count as offline. -/
  workerOffline : Span
deriving DecidableEq, Repr

namespace ApiSettings

/-- All addresses of the machine at port 3000, no token, and ten minutes. -/
def standard : ApiSettings := ⟨.ipv4 (.ofNat 0) 3000, none, .ofSeconds 600⟩

def toJson (api : ApiSettings) : Json :=
  .object [
    ("listen", .string api.listen.text),
    ("token", .ofOption .string api.token),
    ("worker_offline_after", api.workerOffline.toJson)]

end ApiSettings

structure Settings where
  /-- Where the store is, if it is not kept in memory. -/
  storeUrl : Option String
  lease : LeaseSettings
  buildTimeout : Span
  targets : TargetRegistry
  worker : Option WorkerSettings
  notify : NotifySettings
  api : ApiSettings
deriving DecidableEq, Repr

namespace Settings

/-- One day. -/
def standardBuildTimeout : Span := .ofSeconds 86400

def toJson (settings : Settings) : Json :=
  .object [
    ("store_url", .ofOption .string settings.storeUrl),
    ("lease", settings.lease.toJson),
    ("build", .object [("timeout", settings.buildTimeout.toJson)]),
    ("targets", settings.targets.toJson),
    ("worker", .ofOption WorkerSettings.toJson settings.worker),
    ("notify", settings.notify.toJson),
    ("api", settings.api.toJson)]

/-- The settings with what the environment says instead. -/
def withEnvironment (settings : Settings) (lookup : String → Option String) : Settings :=
  { settings with
    storeUrl := (lookup "BUILDIT_DATABASE_URL").or settings.storeUrl
    api := { settings.api with token := (lookup "BUILDIT_API_TOKEN").or settings.api.token } }

end Settings

end BuildFleet
