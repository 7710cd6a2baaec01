import BuildFleet.Proofs.Docker.Undisturbed

/-!
# What the status of a container is taken for

The daemon reports statuses of sixty-four bits, and a build has exit codes of thirty-two. A
build whose status is a multiple of two to the thirty-second is taken for one that has
succeeded, and a build that runs out of time while its container is being removed is
completed as late, whatever its status is.
-/

namespace BuildFleet.Docker

theorem exitStatus_eq_zero_iff (code : Int) :
    exitStatus code = 0 ↔ (4294967296 : Int) ∣ code :=
  Int.dvd_iff_bmod_eq_zero.symm

/-- Both ways of telling a status come to the same exit code. -/
theorem EndReport.exitCode_ofStatus (code : Int) :
    (EndReport.ofStatus code).exitCode = .ok (some (exitStatus code)) := by
  unfold EndReport.ofStatus
  split <;> rfl

namespace Processing

open Dialogue (Trace)

/-- A result says whether the container has exited with status zero. -/
def Tells (code : Int) (result : JobResult) : Prop :=
  if code = 0 then result.status = .succeeded
  else result.status = .failed ∧ result.cause = some .exit

instance (code : Int) (result : JobResult) : Decidable (Tells code result) :=
  inferInstanceAs (Decidable (if code = 0 then _ else _ ∧ _))

variable {agent : Agent} {environment : Environment} {processing next : Processing}
  {entries : List Entry} {handle : BuildHandle} {spec : BuildSpec} {name : String} {code : Int}
  {begun waited asked : List Exchange} {result : JobResult} {backoff : Backoff}

/-- No end is reported while a build is started. -/
theorem not_awaited_of_spawns {answer : Except Failure BuildHandle} {report : EndReport}
    (spawns : Spawns environment spec begun answer) : ⟨.await name, report⟩ ∉ begun := by
  cases spawns <;> nofun

/-- A wait that is over after a status was told comes to its exit code. -/
theorem outcome_of_told {outcome : Except Failure BuildOutput}
    (exits : Trace (await handle) waited (.done outcome))
    (told : ⟨.await name, .ofStatus code⟩ ∈ waited) :
    outcome = .ok ⟨some (exitStatus code), none, none⟩ := by
  have tells := EndReport.exitCode_ofStatus code
  cases awaits_of_trace exits with
  | @failed fault =>
      have same : EndReport.ofStatus code = .fault fault := by grind
      rw [same] at tells
      cases tells
  | @removed report exitCode tells' answer =>
      have same : EndReport.ofStatus code = report := by grind
      rw [← same, tells] at tells'
      cases tells'
      rfl

/-- What is reported after the daemon has told a status. -/
inductive ReportsStatus (agent : Agent) (late : Prop) (code : Int) : JobResult → Prop
  | exited (onTime : ¬ late) : ReportsStatus agent late code
      (signed agent (.ofOutput ⟨some (exitStatus code), none, none⟩))
  | timedOut (isLate : late) : ReportsStatus agent late code (signed agent (.failed .timeout))

theorem Comes.reportsStatus {late : Prop} (comes : Comes agent environment late asked result)
    (told : ⟨.await name, .ofStatus code⟩ ∈ asked) : ReportsStatus agent late code result := by
  cases comes with
  | unstarted fails => exact absurd told (not_awaited_of_spawns (spawns_of_trace fails))
  | exited started exits onTime =>
      rcases started with ⟨spec, starts⟩
      rcases List.mem_append.mp told with first | second
      · exact absurd first (not_awaited_of_spawns (spawns_of_trace starts))
      · rw [outcome_of_told exits second]
        exact .exited onTime
  | timedOut ends isLate => exact .timedOut isLate

theorem failed_signed_iff (agent : Agent) (output : BuildOutput) :
    (signed agent (.ofOutput output)).status = .failed ∧
      (signed agent (.ofOutput output)).cause = some .exit ↔ output.exitCode ≠ some 0 := by
  unfold signed JobResult.status JobResult.ofOutput BuildOutput.success
  by_cases zero : output.exitCode = some 0
  · simp [zero, JobResult.succeeded]
  · simp [zero, JobResult.failed]

theorem ReportsStatus.tells_iff {late : Prop} (reports : ReportsStatus agent late code result) :
    Tells code result ↔ ¬ late ∧ (code = 0 ∨ ¬ (4294967296 : Int) ∣ code) := by
  unfold Tells
  cases reports with
  | exited onTime =>
      by_cases zero : code = 0
      · subst zero
        rw [if_pos rfl]
        exact iff_of_true rfl ⟨onTime, .inl rfl⟩
      · rw [if_neg zero, failed_signed_iff, Ne, Option.some.injEq, exitStatus_eq_zero_iff]
        exact ⟨fun small => ⟨onTime, .inr small⟩, fun small => small.2.resolve_left zero⟩
  | timedOut isLate =>
      refine iff_of_false (fun tells => ?_) fun onTime => onTime.1 isLate
      split at tells
      · cases tells
      · cases tells.2

theorem ReportsStatus.succeeded_iff {late : Prop} (reports : ReportsStatus agent late code result) :
    result.status = .succeeded ↔ ¬ late ∧ (4294967296 : Int) ∣ code := by
  cases reports with
  | exited onTime =>
      rw [signed, Work.status_ofOutput, Option.some.injEq, exitStatus_eq_zero_iff]
      exact ⟨fun divides => ⟨onTime, divides⟩, And.right⟩
  | timedOut isLate => exact iff_of_false nofun fun onTime => onTime.1 isLate

/-- The agent asks the store to complete the job only with what it has come to. -/
theorem Run.comes (run : Run agent environment .start entries processing)
    (reports : processing.work = .reporting result backoff) :
    Comes agent environment (TimedOut entries) (requests entries) result := by
  have recalls := run.recalls
  rw [reports] at recalls
  exact recalls.2

/-- When the daemon has told a status and the store then accepts the completion of the job,
the job is completed as the status says if and only if the build is not late and the status
is zero or no multiple of two to the thirty-second. It has succeeded if the build is not late
and the status is such a multiple. -/
theorem completes_as_told_iff (run : Run agent environment .start entries processing)
    (told : ⟨.await name, .ofStatus code⟩ ∈ requests entries)
    (completes : Step agent environment processing
      (.met ⟨.reporting result backoff, .reported (.ok ())⟩) next) :
    next.work = .ended (.ok (.completed result.status)) ∧
      (Tells code result ↔ ¬ TimedOut entries ∧ (code = 0 ∨ ¬ (4294967296 : Int) ∣ code)) ∧
      (result.status = .succeeded ↔ ¬ TimedOut entries ∧ (4294967296 : Int) ∣ code) := by
  rcases completes.leads with ⟨stage, leads⟩
  have reports := (run.comes stage).reportsStatus told
  exact ⟨(Option.some.inj leads).symm, reports.tells_iff, reports.succeeded_iff⟩

/-- What comes of a build whose container has exited with a status. -/
def sampleResult (code : Int) : JobResult :=
  signed sampleAgent (.ofOutput ⟨some (exitStatus code), none, none⟩)

theorem exists_sample_run (code : Int) : ∃ entries log,
    Run sampleAgent sampleEnvironment .start entries
      ⟨.reporting (sampleResult code) .standard, none, log⟩ ∧
    ⟨.await samplePlan.name, .ofStatus code⟩ ∈ requests entries := by
  have awaited (handle : BuildHandle) :
      (await handle).resultWith (sampleReply (.ok ()) (.ofStatus code)) =
        .ok ⟨some (exitStatus code), none, none⟩ := by
    unfold EndReport.ofStatus
    split <;> rfl
  rcases exists_run_of_started sampleAgent sampleEnvironment sampleJob _ rfl (awaited _)
    with ⟨entries, reports, asked⟩
  refine ⟨entries, _, reports, ?_⟩
  rw [asked]
  exact List.mem_append_right _ (.head _)

/-- A build that has exited with status two has failed. -/
theorem sample_failure_told : ∃ entries processing next,
    Run sampleAgent sampleEnvironment .start entries processing ∧
    ⟨.await samplePlan.name, .ofStatus 2⟩ ∈ requests entries ∧
    Step sampleAgent sampleEnvironment processing
      (.met ⟨.reporting (sampleResult 2) .standard, .reported (.ok ())⟩) next ∧
    next.work = .ended (.ok (.completed .failed)) ∧
    (Tells 2 (sampleResult 2) ↔
      ¬ TimedOut entries ∧ ((2 : Int) = 0 ∨ ¬ (4294967296 : Int) ∣ 2)) ∧
    ((sampleResult 2).status = .succeeded ↔ ¬ TimedOut entries ∧ (4294967296 : Int) ∣ 2) ∧
    Tells 2 (sampleResult 2) := by
  rcases exists_sample_run 2 with ⟨entries, log, run, told⟩
  have completes := step_completed sampleAgent sampleEnvironment (sampleResult 2) .standard log
  exact ⟨entries, _, _, run, told, completes,
    (completes_as_told_iff run told completes).1, (completes_as_told_iff run told completes).2.1,
    (completes_as_told_iff run told completes).2.2, by decide⟩

/-- A build that has exited with status two to the thirty-second is completed as succeeded,
and a build that has exited with status zero is completed as late if its time is over before
its container has been removed. -/
theorem sample_status_mistaken :
    (∃ entries processing next, Run sampleAgent sampleEnvironment .start entries processing ∧
      ⟨.await samplePlan.name, .ofStatus 4294967296⟩ ∈ requests entries ∧
      Step sampleAgent sampleEnvironment processing
        (.met ⟨.reporting (sampleResult 4294967296) .standard, .reported (.ok ())⟩) next ∧
      next.work = .ended (.ok (.completed .succeeded)) ∧
      ¬ Tells 4294967296 (sampleResult 4294967296)) ∧
    ∃ entries processing next, Run sampleAgent sampleEnvironment .start entries processing ∧
      ⟨.await samplePlan.name, .ofStatus 0⟩ ∈ requests entries ∧
      Step sampleAgent sampleEnvironment processing
        (.met ⟨.reporting (signed sampleAgent (.failed .timeout)) .standard, .reported (.ok ())⟩)
        next ∧
      next.work = .ended (.ok (.completed .failed)) ∧
      ¬ Tells 0 (signed sampleAgent (.failed .timeout)) := by
  constructor
  · rcases exists_sample_run 4294967296 with ⟨entries, log, run, told⟩
    exact ⟨entries, _, _, run, told, step_completed _ _ _ _ _, rfl, by decide⟩
  · rcases exists_run_of_late sampleAgent sampleEnvironment sampleJob
      (sampleReply (.ok ()) .silent) rfl (EndReport.exitCode_ofStatus 0) with ⟨entries, run, told⟩
    exact ⟨entries, _, _, run, told, step_completed _ _ _ _ _, rfl, by decide⟩

end Processing

end BuildFleet.Docker
