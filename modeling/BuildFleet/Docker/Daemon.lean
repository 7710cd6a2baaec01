import BuildFleet.Docker.Request

/-!
# A model of the daemon

The daemon knows containers by their names. A name is free again when its
container has been removed. Identifiers are given out once.
-/

namespace BuildFleet.Docker

/-- A container that the daemon has. -/
structure Container where
  id : String
  plan : ContainerPlan
  /-- Whether the container has been started. -/
  started : Bool
  /-- The status that the container exited with. -/
  exited : Option Int
  output : List Frame
deriving DecidableEq

/-- The containers by their names, and how many there have been. -/
structure Daemon where
  containers : List (String × Container)
  created : Nat
deriving DecidableEq

namespace Daemon

def empty : Daemon := ⟨[], 0⟩

def container? (daemon : Daemon) (name : String) : Option Container :=
  daemon.containers.lookup name

def without (daemon : Daemon) (name : String) : Daemon :=
  { daemon with containers := daemon.containers.filter fun entry => entry.1 ≠ name }

/-- Put a container under a name. -/
def put (daemon : Daemon) (name : String) (container : Container) : Daemon :=
  { daemon with containers := (name, container) :: (daemon.without name).containers }

def missing (name : String) : Fault := .refused 404 ("No such container: " ++ name)

/-- Do what is asked, and answer. A container that is awaited before it has
exited is not reported on. -/
def step (daemon : Daemon) : (request : Request) → Daemon × request.Answer
  | .pull _ => (daemon, [.ok ()])
  | .remove name =>
    match daemon.container? name with
    | some _ => (daemon.without name, Except.ok ())
    | none => (daemon, Except.error (missing name))
  | .create plan =>
    match daemon.container? plan.name with
    | some _ => (daemon, Except.error (.refused 409 "the name is in use"))
    | none =>
      let id := toString daemon.created
      let daemon := daemon.put plan.name ⟨id, plan, false, none, []⟩
      ({ daemon with created := daemon.created + 1 }, Except.ok id)
  | .start name =>
    match daemon.container? name with
    | some container => (daemon.put name { container with started := true }, Except.ok ())
    | none => (daemon, Except.error (missing name))
  | .follow name =>
    match daemon.container? name with
    | some container => (daemon, container.output.map Except.ok)
    | none => (daemon, [Except.error (missing name)])
  | .await name =>
    match daemon.container? name with
    | some container =>
      (daemon, match container.exited with
        | some status => EndReport.ofStatus status
        | none => EndReport.silent)
    | none => (daemon, EndReport.fault (missing name))
  | .stop name =>
    match daemon.container? name with
    | some container =>
      (daemon.put name { container with exited := container.exited.or (some 137) }, Except.ok ())
    | none => (daemon, Except.error (missing name))

end Daemon

end BuildFleet.Docker
