import BuildFleet.Build.Basic
import BuildFleet.Failure

/-!
# The builds of a process environment

Every build is supervised: its supervisor waits for the process to exit, or kills
it when it is told to, and leaves how the build ended for whoever waits. The table
finds the latest build of each job until its end has been fetched.

A build's end can be fetched once. The right to fetch it, the claim, is in the
table at first. Waiting takes it from there, and it is gone when the waiting is
given up or when another build of the job takes the place in the table.
-/

namespace BuildFleet.Native

/-- Where the right to fetch the end of a build is. -/
inductive Claim where
  /-- In the table. -/
  | kept
  /-- With somebody who waits. -/
  | held
  | gone
deriving DecidableEq, Repr

/-- How a build ended. -/
inductive BuildEnd where
  /-- The process exited with a status; with none if a signal ended it. -/
  | exited (status : Option Int)
  | failed (failure : Failure)
deriving DecidableEq

/-- The output of a build that ended so. -/
def BuildEnd.output : BuildEnd → Except Failure BuildOutput
  | exited status => .ok ⟨status, none, none⟩
  | failed failure => .error failure

/-- A build under supervision. -/
structure Supervised where
  number : Nat
  job : JobId
  killRequested : Bool
  claim : Claim
  /-- How the build ended, once its supervisor is done. -/
  ended : Option BuildEnd
deriving DecidableEq

/-- What the table holds of a build. -/
structure Entry where
  number : Nat
  /-- Whether the claim is still here. -/
  hasClaim : Bool
  /-- Whether nobody has taken the log yet. -/
  hasLog : Bool
deriving DecidableEq, Repr

structure Table where
  entries : List (JobId × Entry)
  /-- All builds so far. -/
  builds : List Supervised
  /-- The number of the next build. -/
  next : Nat
deriving DecidableEq

namespace Table

def empty : Table := ⟨[], [], 0⟩

def entry? (table : Table) (job : JobId) : Option Entry := table.entries.lookup job

def build? (table : Table) (number : Nat) : Option Supervised :=
  table.builds.find? (·.number = number)

def changeBuild (table : Table) (number : Nat) (change : Supervised → Supervised) : Table :=
  { table with
    builds := table.builds.map fun build => if build.number = number then change build else build }

def removeEntry (table : Table) (job : JobId) : Table :=
  { table with entries := table.entries.filter fun entry => entry.1 ≠ job }

def putEntry (table : Table) (job : JobId) (entry : Entry) : Table :=
  { table with entries := (job, entry) :: (table.removeEntry job).entries }

/-- The claim that an entry holds is gone when the entry goes. -/
def dropClaim (table : Table) (entry : Option Entry) : Table :=
  match entry with
  | some entry =>
    if entry.hasClaim then
      table.changeBuild entry.number fun build => { build with claim := .gone }
    else table
  | none => table

/-- Start a build of a job. It takes the place of an earlier one in the table. -/
def spawn (table : Table) (job : JobId) : Table × Nat :=
  let table := table.dropClaim (table.entry? job)
  let number := table.next
  let table := table.putEntry job ⟨number, true, true⟩
  ({ table with builds := ⟨number, job, false, .kept, none⟩ :: table.builds, next := number + 1 },
    number)

/-- Take the log of the latest build of a job. -/
def takeLog (table : Table) (job : JobId) : Except Failure (Table × Nat) :=
  match table.entry? job with
  | some entry =>
    if entry.hasLog then .ok (table.putEntry job { entry with hasLog := false }, entry.number)
    else .error (.notFound ("logs for build " ++ job.text))
  | none => .error (.notFound ("logs for build " ++ job.text))

/-- Begin to wait for the latest build of a job. -/
def beginWait (table : Table) (job : JobId) : Except Failure (Table × Nat) :=
  match table.entry? job with
  | some entry =>
    if entry.hasClaim then
      let table := table.putEntry job { entry with hasClaim := false }
      .ok (table.changeBuild entry.number fun build => { build with claim := .held }, entry.number)
    else .error (.notFound ("build " ++ job.text))
  | none => .error (.notFound ("build " ++ job.text))

/-- Fetch how a build ended, if it has ended. The place of the job in the table is
cleared. -/
def finishWait (table : Table) (number : Nat) : Option (Table × BuildEnd) := do
  let build ← table.build? number
  let ended ← build.ended
  let table := table.dropClaim (table.entry? build.job)
  return ((table.removeEntry build.job).changeBuild number fun build =>
    { build with claim := .gone }, ended)

/-- Give up waiting for a build. -/
def dropWait (table : Table) (number : Nat) : Table :=
  table.changeBuild number fun build => { build with claim := .gone }

/-- Tell the supervisor of the latest build of a job to kill it. -/
def cancel (table : Table) (job : JobId) : Table :=
  match table.entry? job with
  | some entry => table.changeBuild entry.number fun build => { build with killRequested := true }
  | none => table

/-- How a killed build ends. -/
def killed : BuildEnd := .failed (.executionFailed "build was killed")

/-- The supervisor of a build is done. If nobody can fetch the end any more, it
clears the build's own place in the table. -/
def endBuild (table : Table) (number : Nat) (ended : BuildEnd) : Table :=
  match table.build? number with
  | none => table
  | some build =>
    let table := table.changeBuild number fun build => { build with ended := some ended }
    let isCurrent := (table.entry? build.job).any (·.number = number)
    if build.claim = .gone && isCurrent then table.removeEntry build.job else table

end Table

end BuildFleet.Native
