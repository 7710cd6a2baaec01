import BuildFleet.Build.Basic
import BuildFleet.Failure

/-!
# Talking to the Docker daemon

The daemon is asked one thing after the other, and what is asked next can depend
on its answers. A dialogue is such a course of requests with a result. It can be
held with any daemon: with one that answers from a script, with a model of one,
or with one that is not there.
-/

namespace BuildFleet.Docker

/-- Why the daemon did not do what it was asked. -/
inductive Fault where
  /-- The daemon is not there. -/
  | connection
  /-- The daemon refused. -/
  | refused (status : Nat) (message : String)
  /-- The answer cannot be read. -/
  | unreadable (message : String)
deriving DecidableEq, Repr

def Fault.text : Fault → String
  | connection => "Error in the hyper legacy client: client error (Connect)"
  | refused status message =>
    "Docker responded with status code " ++ toString status ++ ": " ++ message
  | unreadable message => message

/-- A container as it is to be created. -/
structure ContainerPlan where
  name : String
  image : String
  /-- The command to run instead of the one of the image. -/
  command : Option (List String)
  /-- The environment, each variable with its value. -/
  environment : List String
deriving DecidableEq, Repr

/-- A piece of output of a container. -/
structure Frame where
  stream : LogStream
  bytes : List UInt8
deriving DecidableEq, Repr

/-- What the daemon is asked. -/
inductive Request where
  | pull (image : String)
  /-- Remove a container even if it runs. -/
  | remove (name : String)
  | create (plan : ContainerPlan)
  | start (name : String)
  | follow (name : String)
  /-- Report when a container does not run any more. -/
  | await (name : String)
  | stop (name : String)
deriving DecidableEq, Repr

/-- What is told about the end of a container: nothing, the status that it exited
with, that it has failed with a status, or that the daemon cannot tell. -/
inductive EndReport where
  | silent
  | exited (status : Int)
  | failed (status : Int)
  | fault (fault : Fault)
deriving DecidableEq, Repr

/-- How a status is told. Positive ones are told as failures. -/
def EndReport.ofStatus (status : Int) : EndReport :=
  if 0 < status then failed status else exited status

/-- What is answered to a request. -/
def Request.Answer : Request → Type
  | pull _ => List (Except Fault Unit)
  | remove _ | start _ | stop _ => Except Fault Unit
  | create _ => Except Fault String
  | follow _ => List (Except Fault Frame)
  | await _ => EndReport

/-- The answer of a daemon that is not there. -/
def Request.unanswered : (request : Request) → request.Answer
  | pull _ => [.error .connection]
  | remove _ | start _ | stop _ => Except.error Fault.connection
  | create _ => Except.error Fault.connection
  | follow _ => [.error .connection]
  | await _ => EndReport.fault .connection

/-- A course of requests with a result. -/
inductive Dialogue (α : Type) where
  | done (result : α)
  | ask (request : Request) (go : request.Answer → Dialogue α)

namespace Dialogue

def bind (first : Dialogue α) (next : α → Dialogue β) : Dialogue β :=
  match first with
  | done result => next result
  | ask request go => ask request fun answer => (go answer).bind next

instance : Monad Dialogue where
  pure := done
  bind := bind

/-- Ask one thing. -/
def request (request : Request) : Dialogue request.Answer := ask request done

/-- The result of a dialogue with a daemon that answers a request always alike. -/
def resultWith (answer : (request : Request) → request.Answer) : Dialogue α → α
  | done result => result
  | ask request go => (go (answer request)).resultWith answer

/-- The result of a dialogue with a daemon that has a state. -/
def run (step : σ → (request : Request) → σ × request.Answer) (daemon : σ) : Dialogue α → σ × α
  | done result => (daemon, result)
  | ask request go =>
    let (daemon, answer) := step daemon request
    (go answer).run step daemon

end Dialogue

end BuildFleet.Docker
