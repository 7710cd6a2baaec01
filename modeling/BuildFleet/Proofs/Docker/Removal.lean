import Mathlib.Data.List.Basic
import BuildFleet.Proofs.Docker.Undisturbed

/-!
# Containers that are left behind

When an agent has made a container for a job, its work on the job ends with a request to
remove the container, unless the container could not be started or the daemon has failed to
report on its end: in these two cases nothing is done about it.
-/

namespace BuildFleet.Docker.Processing

open Dialogue (Trace)

/-- What is asked after a container has been made, up to the end of the work. -/
inductive Follows (name : String) : List Exchange → Prop
  | unstarted {fault : Fault} : Follows name [⟨.start name, .error fault⟩]
  | unreported {fault : Fault} :
      Follows name [⟨.start name, .ok ()⟩, ⟨.await name, .fault fault⟩]
  | reported {report : EndReport} {exitCode : Option Int} (tells : report.exitCode = .ok exitCode)
      {removed : Except Fault Unit} :
      Follows name [⟨.start name, .ok ()⟩, ⟨.await name, report⟩, ⟨.remove name, removed⟩]
  | killed {stopped removed : Except Fault Unit} :
      Follows name [⟨.start name, .ok ()⟩, ⟨.stop name, stopped⟩, ⟨.remove name, removed⟩]
  /-- The build was killed when its end had been reported, while it was being removed. -/
  | killedLate {report : EndReport} {exitCode : Option Int}
      (tells : report.exitCode = .ok exitCode) {stopped removed : Except Fault Unit} :
      Follows name [⟨.start name, .ok ()⟩, ⟨.await name, report⟩, ⟨.stop name, stopped⟩,
        ⟨.remove name, removed⟩]

variable {agent : Agent} {environment : Environment} {processing : Processing}
  {entries : List Entry} {handle : BuildHandle} {plan : ContainerPlan} {name id : String}
  {begun waited killed rest : List Exchange} {outcome : Except Failure JobOutcome}

/-- The removal of a container is asked for after it has been made. -/
def Removes (asked : List Exchange) (plan : ContainerPlan) (id : String) : Prop :=
  ∃ before after removed, asked = before ++ ⟨.create plan, .ok id⟩ :: after ∧
    ⟨.remove plan.name, removed⟩ ∈ after

/-- The container could not be started. -/
def StartFails (asked : List Exchange) (name : String) : Prop :=
  ∃ fault, ⟨.start name, .error fault⟩ ∈ asked

/-- The daemon has failed to report on the end of the container. -/
def ReportFails (asked : List Exchange) (name : String) : Prop :=
  ∃ fault, ⟨.await name, .fault fault⟩ ∈ asked

theorem Follows.not_created (follows : Follows name rest) :
    ⟨.create plan, .ok id⟩ ∉ rest := by
  cases follows <;> nofun

/-- What follows the making of a container has a removal in it unless one of the two
failures is there. -/
theorem Follows.removed_iff (follows : Follows name rest) :
    (∃ removed, ⟨.remove name, removed⟩ ∈ rest) ↔
      ¬ StartFails rest name ∧ ¬ ReportFails rest name := by
  unfold StartFails ReportFails
  cases follows with
  | unstarted => grind
  | unreported => grind
  | reported tells => grind [EndReport.exitCode]
  | killed => grind
  | killedLate tells => grind [EndReport.exitCode]

/-- The requests of a course of work in which a container is made. -/
structure Makes (environment : Environment) (plan : ContainerPlan) (id : String)
    (asked rest : List Exchange) : Prop where
  parts : ∃ pulled removed, asked = [⟨.pull environment.image, pulled⟩,
    ⟨.remove plan.name, removed⟩] ++ ⟨.create plan, .ok id⟩ :: rest
  follows : Follows plan.name rest

/-- The container of a started build has been made and started. -/
theorem Started.parts (started : Started environment handle begun) : ∃ pulled removed plan id,
    plan.name = containerName handle.jobId ∧ begun = [⟨.pull environment.image, pulled⟩,
      ⟨.remove plan.name, removed⟩, ⟨.create plan, .ok id⟩, ⟨.start plan.name, .ok ()⟩] := by
  rcases started with ⟨spec, trace⟩
  cases spawns_of_trace trace with
  | started => exact ⟨_, _, environment.plan spec, _, rfl, rfl⟩

theorem Started.makes (started : Started environment handle begun)
    (follows : Follows (containerName handle.jobId)
      (⟨.start (containerName handle.jobId), .ok ()⟩ :: rest)) :
    ∃ plan id rest', Makes environment plan id (begun ++ rest) rest' := by
  rcases started.parts with ⟨pulled, removed, plan, id, name, rfl⟩
  rw [← name] at follows
  exact ⟨plan, id, _, ⟨pulled, removed, rfl⟩, follows⟩

theorem Killed.makes (ends : Killed environment handle begun waited killed) :
    ∃ plan id rest, Makes environment plan id (begun ++ waited ++ killed) rest := by
  rcases ends with ⟨started, ⟨request, go, waits⟩, answer, kills⟩
  rcases exists_of_trace_cancel kills with ⟨stopped, removed, rfl⟩
  rw [List.append_assoc]
  apply started.makes
  cases awaits_of_trace waits with
  | waits => exact .killed
  | told tells => exact .killedLate tells

theorem Comes.makes {late : Prop} {asked : List Exchange} {result : JobResult}
    (comes : Comes agent environment late asked result)
    (created : ⟨.create plan, .ok id⟩ ∈ asked) :
    ∃ plan id rest, Makes environment plan id asked rest := by
  cases comes with
  | unstarted fails =>
      rename_i spec failure
      cases spawns_of_trace fails with
      | blocked => exact nomatch created
      | uncreated => exact nomatch created
      | unstarted => exact ⟨environment.plan spec, _, _, ⟨_, _, rfl⟩, .unstarted⟩
  | exited started exits =>
      apply started.makes
      cases awaits_of_trace exits with
      | failed => exact .unreported
      | removed tells => exact .reported tells
  | timedOut ends => exact ends.makes

/-- When the work has ended, a container has not been made or is followed to its end. -/
theorem Run.makes (run : Run agent environment .start entries processing)
    (returned : processing.work = .ended outcome)
    (created : ⟨.create plan, .ok id⟩ ∈ requests entries) :
    ∃ rest, Makes environment plan id (requests entries) rest := by
  have recalls := run.recalls
  rw [returned] at recalls
  have makes : ∃ plan id rest, Makes environment plan id (requests entries) rest := by
    rcases recalls with none | ⟨result, comes⟩ | ⟨handle, begun, waited, killed, parts, ends⟩
    · rw [none] at created
      exact nomatch created
    · exact comes.makes created
    · rw [parts]
      exact ends.makes
  rcases makes with ⟨plan', id', rest, ⟨pulled, removed, parts⟩, follows⟩
  have same : (⟨.create plan, .ok id⟩ : Exchange) = ⟨.create plan', .ok id'⟩ := by
    rw [parts] at created
    have never := @Follows.not_created plan plan'.name id rest follows
    grind
  cases same
  exact ⟨rest, ⟨pulled, removed, parts⟩, follows⟩

theorem Makes.removes_iff {asked : List Exchange} (makes : Makes environment plan id asked rest) :
    Removes asked plan id ↔ ∃ removed, ⟨.remove plan.name, removed⟩ ∈ rest := by
  rcases makes with ⟨⟨pulled, removed, rfl⟩, follows⟩
  constructor
  · rintro ⟨before, after, answer, parts, member⟩
    have cut := (List.append_cons_inj_of_notMem (by nofun) follows.not_created).mp parts
    rw [cut.2.2]
    exact ⟨answer, member⟩
  · rintro ⟨answer, member⟩
    exact ⟨_, rest, answer, rfl, member⟩

/-- An agent that has made a container asks for its removal before it returns if and only
if the container could be started and the daemon has not failed to report on its end. -/
theorem removes_iff_started_and_reported (run : Run agent environment .start entries processing)
    (returned : processing.work = .ended outcome)
    (created : ⟨.create plan, .ok id⟩ ∈ requests entries) :
    Removes (requests entries) plan id ↔
      ¬ StartFails (requests entries) plan.name ∧ ¬ ReportFails (requests entries) plan.name := by
  rcases run.makes returned created with ⟨rest, makes⟩
  rw [makes.removes_iff, makes.follows.removed_iff]
  rcases makes.parts with ⟨pulled, removed, parts⟩
  have starts : StartFails (requests entries) plan.name ↔ StartFails rest plan.name := by
    unfold StartFails
    grind
  have reports : ReportFails (requests entries) plan.name ↔ ReportFails rest plan.name := by
    unfold ReportFails
    grind
  rw [starts, reports]

/-- The container of a build that has exited is removed. -/
theorem sample_container_removed : ∃ entries log,
    Run sampleAgent sampleEnvironment .start entries
      ⟨.ended (.ok (.completed .succeeded)), none, log⟩ ∧
    ⟨.create samplePlan, .ok "c"⟩ ∈ requests entries ∧
    (Removes (requests entries) samplePlan "c" ↔
      ¬ StartFails (requests entries) samplePlan.name ∧
        ¬ ReportFails (requests entries) samplePlan.name) ∧
    Removes (requests entries) samplePlan "c" := by
  rcases exists_run_of_started sampleAgent sampleEnvironment sampleJob
    (sampleReply (.ok ()) (.exited 0)) rfl rfl with ⟨entries, reports, asked⟩
  rcases reports.completed with ⟨completed, run, same⟩
  have created : ⟨.create samplePlan, .ok "c"⟩ ∈ requests completed := by
    rw [same, asked]
    exact .tail _ (.tail _ (.head _))
  refine ⟨completed, _, run, created, removes_iff_started_and_reported run rfl created, ?_⟩
  rw [same, asked]
  exact ⟨[_, _], [_, _, _], .ok (), rfl, .tail _ (.tail _ (.head _))⟩

/-- A container that could not be started is left behind, and so is one whose end the
daemon has failed to report. -/
theorem sample_container_left_behind :
    (∃ entries log, Run sampleAgent sampleEnvironment .start entries
        ⟨.ended (.ok (.completed .failed)), none, log⟩ ∧
      ⟨.create samplePlan, .ok "c"⟩ ∈ requests entries ∧
      ¬ Removes (requests entries) samplePlan "c") ∧
    ∃ entries log, Run sampleAgent sampleEnvironment .start entries
        ⟨.ended (.ok (.completed .failed)), none, log⟩ ∧
      ⟨.create samplePlan, .ok "c"⟩ ∈ requests entries ∧
      ¬ Removes (requests entries) samplePlan "c" := by
  constructor
  · rcases exists_run_of_unstarted sampleAgent sampleEnvironment sampleJob
      (sampleReply (.error (.refused 500 "")) .silent) rfl with ⟨entries, reports, asked⟩
    rcases reports.completed with ⟨completed, run, same⟩
    have makes : Makes sampleEnvironment samplePlan "c" (requests completed) _ :=
      ⟨⟨_, _, same.trans asked⟩, .unstarted⟩
    refine ⟨completed, _, run, ?_⟩
    rw [makes.removes_iff, same, asked]
    exact ⟨.tail _ (.tail _ (.head _)), nofun⟩
  · rcases exists_run_of_started sampleAgent sampleEnvironment sampleJob
      (sampleReply (.ok ()) (.fault .connection)) rfl rfl with ⟨entries, reports, asked⟩
    rcases reports.completed with ⟨completed, run, same⟩
    have makes : Makes sampleEnvironment samplePlan "c" (requests completed) _ :=
      ⟨⟨_, _, same.trans asked⟩, .unreported⟩
    refine ⟨completed, _, run, ?_⟩
    rw [makes.removes_iff, same, asked]
    exact ⟨.tail _ (.tail _ (.head _)), nofun⟩

end BuildFleet.Docker.Processing
