import BuildFleet.Proofs.Agent.Dialogue
import BuildFleet.Proofs.Store.Ends
import BuildFleet.Proofs.Store.Tenure

/-!
# Reports whose answers get lost

An agent repeats its report while the store cannot be reached, and cannot tell whether
a report that failed has been applied. Others use the store in the meantime. Still the
result is stored once at most, and what the agent returns in the end says whether it is.
-/

namespace BuildFleet

/-- The call reports a result of this job in this worker's name. -/
def StoreCall.Reports (id : JobId) (worker : WorkerId) (call : StoreCall) : Prop :=
  ∃ result, call = .complete id worker result

/-- The report of a result as an operation on the store. -/
def Store.reportAt (before : Store) (id : JobId) (worker : WorkerId) (result : JobResult)
    (now : Instant) : Operation := ⟨before, now, .complete id worker result⟩

/-- The claim of a job as an operation on the store. -/
def Store.claimAt (before : Store) (id : JobId) (worker : WorkerId) (lease : Span)
    (now : Instant) : Operation := ⟨before, now, .claim id worker lease⟩

/-- The operations on the store, the oldest first, while an agent reports a result,
with the store and the stage of the agent's work after them. -/
inductive Reporting (settings : StoreSettings) (agent : Agent) (id : JobId) (store : Store)
    (first : Work) : List Operation → Store → Work → Prop
  | start : Reporting settings agent id store first [] store first
  /-- Somebody else uses the store. -/
  | aside {past : List Operation} {operation : Operation} {work : Work}
      (reporting : Reporting settings agent id store first past operation.before work)
      (fresh : operation.Fresh settings)
      (foreign : ¬ operation.call.Reports id agent.info.id) :
      Reporting settings agent id store first (past ++ [operation]) (operation.after settings) work
  /-- A report is carried out and answered. -/
  | answered {past : List Operation} {before : Store} {now : Instant} {result : JobResult}
      {backoff : Backoff} {answer : Except Failure Unit} {next : Work}
      (reporting : Reporting settings agent id store first past before (.reporting result backoff))
      (answers : (before.reportAt id agent.info.id result now).outcome settings = .ofExcept answer)
      (leads : (Work.reporting result backoff).after agent (.reported answer) = some next) :
      Reporting settings agent id store first
        (past ++ [before.reportAt id agent.info.id result now])
        ((before.reportAt id agent.info.id result now).after settings) next
  /-- A report is carried out, but its answer gets lost. -/
  | lost {past : List Operation} {before : Store} (now : Instant) {result : JobResult}
      {backoff : Backoff} {failure : Failure} {next : Work}
      (reporting : Reporting settings agent id store first past before (.reporting result backoff))
      (transient : failure.isTransient = true)
      (leads : (Work.reporting result backoff).after agent (.reported (.error failure)) =
        some next) :
      Reporting settings agent id store first
        (past ++ [before.reportAt id agent.info.id result now])
        ((before.reportAt id agent.info.id result now).after settings) next
  /-- A report does not come to the store. -/
  | failed {past : List Operation} {before : Store} {result : JobResult} {backoff : Backoff}
      {failure : Failure} {next : Work}
      (reporting : Reporting settings agent id store first past before (.reporting result backoff))
      (transient : failure.isTransient = true)
      (leads : (Work.reporting result backoff).after agent (.reported (.error failure)) =
        some next) :
      Reporting settings agent id store first past before next
  | pauses {past : List Operation} {before : Store} {result : JobResult} {delay : Span}
      {backoff : Backoff} {interrupted : Bool} {next : Work}
      (reporting : Reporting settings agent id store first past before
        (.pausing result delay backoff))
      (leads : (Work.pausing result delay backoff).after agent (.paused interrupted) = some next) :
      Reporting settings agent id store first past before next

namespace Reporting

variable {settings : StoreSettings} {agent : Agent} {id : JobId} {first store last : Store}
  {reported : JobResult} {history past since : List Operation} {work : Work} {worker : WorkerId}
  {operation : Operation}

theorem course {begin : Work} (reporting : Reporting settings agent id store begin past last work)
    (before : Store.Course settings .empty history store) :
    Store.Course settings .empty (history ++ past) last := by
  induction reporting with
  | start =>
      rw [List.append_nil]
      exact before
  | aside _ fresh _ induction =>
      rw [← List.append_assoc]
      exact induction.step fresh
  | answered | lost =>
      rename_i induction
      rw [← List.append_assoc]
      exact induction.step fun _ never => nomatch never
  | failed _ _ _ induction => exact induction
  | pauses _ _ induction => exact induction

/-! ## Whether a report has been applied -/

/-- No report of the worker has changed the job, and the worker has not completed it. -/
structure Unapplied (settings : StoreSettings) (id : JobId) (worker : WorkerId)
    (past : List Operation) (store : Store) : Prop where
  unchanged : ∀ operation ∈ past, operation.call.Reports id worker →
    (operation.after settings).job? id = operation.before.job? id
  uncompleted : ∀ job, store.job? id = some job → job.Uncompleted worker

/-- The result is stored as the worker's. -/
def Applied (id : JobId) (worker : WorkerId) (reported : JobResult) (store : Store) : Prop :=
  ∃ job, store.job? id = some job ∧ job.owner = some worker ∧ job.result = some reported ∧
    job.status = reported.status

theorem Unapplied.snoc (unapplied : Unapplied settings id worker past operation.before)
    (unchanged : operation.call.Reports id worker →
      (operation.after settings).job? id = operation.before.job? id)
    (uncompleted : ∀ job, (operation.after settings).job? id = some job →
      job.Uncompleted worker) :
    Unapplied settings id worker (past ++ [operation]) (operation.after settings) := by
  refine ⟨fun other member reports => ?_, uncompleted⟩
  rcases List.mem_append.mp member with earlier | newest
  · exact unapplied.unchanged other earlier reports
  · cases List.mem_singleton.mp newest
    exact unchanged reports

theorem uncompleted_aside (foreign : ¬ operation.call.Reports id worker)
    (before : ∀ job, operation.before.job? id = some job → job.Uncompleted worker) :
    ∀ job, (operation.after settings).job? id = some job → job.Uncompleted worker := by
  refine operation.keeps before (fun _ _ ours => nomatch ours) fun job call addressed holds => ?_
  refine holds.perform fun result same => foreign ⟨result, ?_⟩
  rw [StoreCall.eq_on_of_addressed addressed, same]
  rfl

theorem Applied.after (applied : Applied id worker reported operation.before) :
    Applied id worker reported (operation.after settings) := by
  rcases applied with ⟨job, found, owner, result, status⟩
  have terminal : job.status.isTerminal = true := status ▸ Job.terminal_of_result reported
  exact ⟨job, operation.job?_after_of_terminal found terminal, owner, result, status⟩

section

variable {before : Store} {now : Instant} {job : Job} {result : JobResult}

theorem outcome_reportAt (found : before.job? id = some job) :
    (before.reportAt id worker result now).outcome settings =
      (job.complete worker result now).1.map fun _ => () :=
  Store.perform_on found (.complete worker result)

theorem job?_after_reportAt (found : before.job? id = some job) :
    ((before.reportAt id worker result now).after settings).job? id =
      some (job.complete worker result now).2 := by
  have sees : (before.reportAt id worker result now).onJob? id =
      some ⟨job, now, .complete worker result⟩ := by
    simp [Operation.onJob?, Store.reportAt, found, StoreCall.addressed?]
  exact Operation.job?_after_seen sees

/-- A result that has been applied is accepted again. -/
theorem Applied.again (applied : Applied id worker reported before) :
    (before.reportAt id worker result now).outcome settings = .done () := by
  rcases applied with ⟨job, found, owner, _, status⟩
  have ended : job.status = .succeeded ∨ job.status = .failed := by
    rw [status]
    unfold JobResult.status
    split
    · exact .inl rfl
    · exact .inr rfl
  rw [outcome_reportAt found, Job.complete, if_pos ⟨ended, Job.ownedBy_iff.mpr owner⟩]
  rfl

/-- The first report that is carried out is applied, or it is refused and changes nothing. -/
theorem Unapplied.report (unapplied : Unapplied settings id worker past before) :
    let operation := before.reportAt id worker reported now
    operation.outcome settings = .done () ∧
        Applied id worker reported (operation.after settings) ∨
      (∃ failure, operation.outcome settings = .failed failure) ∧
        Unapplied settings id worker (past ++ [operation]) (operation.after settings) := by
  intro operation
  cases found : before.job? id with
  | none =>
      have absent : operation.after settings = before :=
        congrArg (fun result => (Outcome.map (fun _ => ()) result.1, result.2).2)
          (Store.mutate_missing found)
      refine .inr ⟨⟨_, Store.perform_on_missing found (.complete worker reported)⟩,
        unapplied.snoc (fun _ => congrArg (Store.job? · id) absent) fun job there => ?_⟩
      rw [absent, found] at there
      cases there
  | some job =>
      have answered : operation.outcome settings =
          (job.complete worker reported now).1.map fun _ => () := outcome_reportAt found
      have left : (operation.after settings).job? id =
          some (job.complete worker reported now).2 := job?_after_reportAt found
      have step : Job.Step settings.maxAttempts now job (.complete worker reported)
          (job.complete worker reported now).1 (job.complete worker reported now).2 :=
        Job.perform_step fun beyond => by cases Job.perform_halt beyond
      generalize job.complete worker reported now = performed at answered left step
      rcases performed with ⟨outcome, after⟩
      cases step with
      | refused =>
          refine .inr ⟨⟨_, answered⟩, unapplied.snoc (fun _ => left.trans found.symm) ?_⟩
          intro later there
          cases left.symm.trans there
          exact unapplied.uncompleted _ found
      | repeated ended owned =>
          rcases unapplied.uncompleted _ found owned with ⟨unsucceeded, unfailed⟩
          exact (ended.elim unsucceeded unfailed).elim
      | completed running owned live => exact .inl ⟨answered, _, left, owned, rfl, rfl⟩

end

/-! ## Where the report stands -/

/-- The agent reports this result, or what it returns says whether it has been applied. -/
def Fits (reported : JobResult) (unapplied applied : Prop) : Work → Prop
  | .reporting result _ | .pausing result _ _ => result = reported ∧ (unapplied ∨ applied)
  | .ended (.ok (.completed status)) => status = reported.status ∧ applied
  | .ended (.ok .aborted) => unapplied
  | .ended _ => unapplied ∨ applied
  | _ => False

theorem Fits.imp {unapplied applied still now : Prop} (fits : Fits reported unapplied applied work)
    (left : unapplied → still) (right : applied → now) : Fits reported still now work := by
  cases work with
  | reporting | pausing => exact fits.imp_right (Or.imp left right)
  | ended outcome =>
      rcases outcome with failure | _ | _ | _ | _
      · exact Or.imp left right fits
      · exact fits.imp_right right
      · exact Or.imp left right fits
      · exact left fits
      · exact Or.imp left right fits
  | _ => exact fits

/-- A report that fails leaves the report to be repeated, or the work ends with it. -/
theorem fits_of_failure {backoff : Backoff} {failure : Failure} {unapplied applied : Prop}
    {next : Work} (stands : unapplied ∨ applied)
    (told : (∃ message, failure = .rejected message) → unapplied)
    (leads : (Work.reporting reported backoff).after agent (.reported (.error failure)) =
      some next) : Fits reported unapplied applied next := by
  cases leads
  cases failure with
  | rejected message => exact told ⟨message, rfl⟩
  | unavailable message => exact ⟨rfl, stands⟩
  | _ => exact stands

theorem fits_of_transient {backoff : Backoff} {failure : Failure} {unapplied applied : Prop}
    {next : Work} (stands : unapplied ∨ applied) (transient : failure.isTransient = true)
    (leads : (Work.reporting reported backoff).after agent (.reported (.error failure)) =
      some next) : Fits reported unapplied applied next := by
  refine fits_of_failure stands ?_ leads
  rintro ⟨message, rfl⟩
  cases transient

/-- Whatever gets lost, what the agent returns fits what has been applied. -/
theorem fits {backoff : Backoff}
    (reporting : Reporting settings agent id store (.reporting reported backoff) past last work)
    (uncompleted : ∀ job, store.job? id = some job → job.Uncompleted agent.info.id) :
    Fits reported (Unapplied settings id agent.info.id past last)
      (Applied id agent.info.id reported last) work := by
  -- As long as no report has been applied the worker has not completed the job, and
  -- once one has been applied every other is accepted.
  induction reporting with
  | start => exact ⟨rfl, .inl ⟨(fun _ member => nomatch member), uncompleted⟩⟩
  | aside _ _ foreign stands =>
      exact stands.imp (fun unapplied => unapplied.snoc (fun reports => absurd reports foreign)
        (uncompleted_aside foreign unapplied.uncompleted)) Applied.after
  | @answered past before now result backoff answer next _ answers leads stands =>
      rcases stands with ⟨rfl, unapplied | applied⟩
      · rcases unapplied.report with ⟨accepted, applied⟩ | ⟨⟨failure, refused⟩, unapplied⟩
        · cases answer with
          | error failure => cases accepted.symm.trans answers
          | ok =>
              cases leads
              exact ⟨rfl, applied⟩
        · cases answer with
          | error failure => exact fits_of_failure (.inl unapplied) (fun _ => unapplied) leads
          | ok => cases refused.symm.trans answers
      · cases answer with
        | error failure => cases applied.again.symm.trans answers
        | ok =>
            cases leads
            exact ⟨rfl, applied.after⟩
  | lost _ _ transient leads stands =>
      rcases stands with ⟨rfl, unapplied | applied⟩
      · rcases unapplied.report with ⟨_, applied⟩ | ⟨_, unapplied⟩
        · exact fits_of_transient (.inr applied) transient leads
        · exact fits_of_transient (.inl unapplied) transient leads
      · exact fits_of_transient (.inr applied.after) transient leads
  | failed _ transient leads stands =>
      rcases stands with ⟨rfl, stands⟩
      exact fits_of_transient stands transient leads
  | @pauses past before result delay backoff interrupted next _ leads stands =>
      cases interrupted <;> cases leads
      · exact stands
      · exact stands.2

/-! ## Exactly once -/

/-- What a report has come to, from the claim of the job on. -/
structure Once (settings : StoreSettings) (agent : Agent) (id : JobId) (reported : JobResult)
    (history past : List Operation) (store : Store) (work : Work) : Prop where
  /-- If the agent returns a status, the job has it and the result that was reported, and
  there is one event of the job, which tells so. -/
  completes : ∀ status, work = .ended (.ok (.completed status)) → ∃ job number,
    store.job? id = some job ∧ job.status = status ∧ job.result = some reported ∧
      store.events.filter (·.jobId == id) = [JobEvent.ofJob number job job.updatedAt]
  /-- If the agent gives the report up as rejected, none of its reports has changed the job. -/
  aborts : work = .ended (.ok .aborted) → ∀ operation ∈ past,
    operation.call.Reports id agent.info.id →
      (operation.after settings).job? id = operation.before.job? id
  /-- A result has been stored once at most. -/
  once : ((history ++ past).filter (·.stores settings id)).length ≤ 1
  /-- A result that was stored has stayed. -/
  kept : ∀ operation ∈ history ++ past, ∀ result, operation.before.result? id = some result →
    store.result? id = some result

theorem uncompleted_along (course : Store.Course settings first since store)
    (alone : ∀ operation ∈ since, ¬ operation.call.Reports id worker)
    (before : ∀ job, first.job? id = some job → job.Uncompleted worker) :
    ∀ job, store.job? id = some job → job.Uncompleted worker := by
  induction course with
  | start => exact before
  | step _ _ induction =>
      refine uncompleted_aside (alone _ (List.mem_append_right _ List.mem_cons_self)) (induction ?_)
      exact fun operation member => alone operation (List.mem_append_left _ member)

/-- Whichever answers get lost, a report is applied once at most, and the agent knows in
the end, provided that since its claim nobody else reports on the job in its name. -/
theorem exactly_once {earlier : List Operation} {before : Store} {now : Instant} {job : Job}
    {backoff : Backoff}
    (courses : Store.Course settings .empty
      (earlier ++ before.claimAt id agent.info.id agent.lease now :: since) store)
    (claimed : (before.claimAt id agent.info.id agent.lease now).outcome settings = .done job)
    (alone : ∀ operation ∈ since, ¬ operation.call.Reports id agent.info.id)
    (reporting : Reporting settings agent id store (.reporting reported backoff) past last work) :
    Once settings agent id reported
      (earlier ++ before.claimAt id agent.info.id agent.lease now :: since) past last work := by
  have whole := reporting.course courses
  -- The claim was granted, so the worker had not completed the job at that time.
  have uncompleted : ∀ job, store.job? id = some job → job.Uncompleted agent.info.id := by
    refine uncompleted_along courses.around.2.1 alone fun claimant found => ?_
    rcases Store.claim_granted claimed with ⟨left, _, _, step⟩
    cases found.symm.trans left
    cases step <;> exact Job.uncompleted_of_leased rfl
  have stands := reporting.fits uncompleted
  refine ⟨?_, ?_, ?_, fun operation member result => whole.result?_of_mem member⟩
  · rintro status rfl
    rcases stands with ⟨rfl, stored, found, owner, result, status⟩
    have terminal : stored.status.isTerminal = true :=
      status ▸ Job.terminal_of_result reported
    rcases ((whole.events_of_job id).2 stored found).1 terminal with ⟨number, events⟩
    rw [Store.job?_id found] at events
    exact ⟨stored, number, found, status, result, events⟩
  · rintro rfl
    exact stands.unchanged
  · rw [whole.length_stores id]
    split <;> decide

end Reporting

/-! ## A sample

The answer to the first report gets lost, and then somebody tries to cancel the job. -/

namespace Sample

def reporter : Agent :=
  ⟨⟨⟨"a"⟩, "host", ⟨"amd64"⟩, 1, moment 0⟩, lease, .ofSeconds 1, .ofSeconds 60, []⟩

def verdict : JobResult := { JobResult.succeeded (some 0) with worker := some ⟨"a"⟩ }

def creation : List Operation :=
  Store.empty.operations settings [(moment 0, .create firstJob ⟨"amd64"⟩ .null)]

def createdStore : Store :=
  Store.empty.afterCalls settings [(moment 0, .create firstJob ⟨"amd64"⟩ .null)]

def queuedJob : Job := .new firstJob ⟨"amd64"⟩ .null (moment 0)

def claimedJob : Job :=
  { queuedJob with
    status := .claimed, owner := some ⟨"a"⟩, leaseExpiry := some (moment 6)
    leaseMs := lease.milliseconds, updatedAt := moment 1 }

def claimOperation : Operation := createdStore.claimAt firstJob ⟨"a"⟩ lease (moment 1)

def heartbeatOperation : Operation :=
  ⟨claimOperation.after settings, moment 2, .heartbeat firstJob ⟨"a"⟩⟩

def runningStore : Store := heartbeatOperation.after settings

def firstReport : Operation := runningStore.reportAt firstJob ⟨"a"⟩ verdict (moment 3)

def lateCancel : Operation := ⟨firstReport.after settings, moment 4, .cancel firstJob⟩

def secondReport : Operation :=
  (lateCancel.after settings).reportAt firstJob ⟨"a"⟩ verdict (moment 5)

theorem runningCourse : Store.Course settings .empty
    (creation ++ claimOperation :: [heartbeatOperation]) runningStore := by
  have created : Store.Course settings .empty creation createdStore :=
    (Store.Run.of_calls (by decide)).course
  have claimed : claimOperation.Fresh settings := by rintro _ ⟨⟩
  have renewed : heartbeatOperation.Fresh settings := by rintro _ ⟨⟩
  have whole := (created.step claimed).step renewed
  rwa [List.append_assoc] at whole

theorem reporting : Reporting settings reporter firstJob runningStore
    (.reporting verdict .standard) [firstReport, lateCancel, secondReport]
    (secondReport.after settings) (.ended (.ok (.completed .succeeded))) := by
  have transient : (Failure.unavailable "store").isTransient = true := rfl
  have fresh : lateCancel.Fresh settings := by rintro _ ⟨⟩
  have foreign : ¬ lateCancel.call.Reports firstJob reporter.info.id := by rintro ⟨_, ⟨⟩⟩
  have lost : Reporting settings reporter firstJob runningStore (.reporting verdict .standard)
      [firstReport] lateCancel.before
      (.pausing verdict Backoff.standard.take.1 Backoff.standard.take.2) :=
    .lost (moment 3) .start transient rfl
  have again : Reporting settings reporter firstJob runningStore (.reporting verdict .standard)
      [firstReport, lateCancel] (lateCancel.after settings)
      (.reporting verdict Backoff.standard.take.2) :=
    (lost.aside fresh foreign).pauses (show (Work.pausing verdict _ _).after reporter
      (.paused false) = _ from rfl)
  have accepted : secondReport.outcome settings = .ofExcept (.ok ()) := by rfl
  exact again.answered accepted rfl

end Sample

/-- The job is completed once, by the report whose answer got lost. -/
theorem Reporting.sample_exactly_once :
    Reporting Sample.settings Sample.reporter Sample.firstJob Sample.runningStore
        (.reporting Sample.verdict .standard)
        [Sample.firstReport, Sample.lateCancel, Sample.secondReport]
        (Sample.secondReport.after Sample.settings) (.ended (.ok (.completed .succeeded))) ∧
      Once Sample.settings Sample.reporter Sample.firstJob Sample.verdict
        (Sample.creation ++ Sample.claimOperation :: [Sample.heartbeatOperation])
        [Sample.firstReport, Sample.lateCancel, Sample.secondReport]
        (Sample.secondReport.after Sample.settings) (.ended (.ok (.completed .succeeded))) := by
  have granted : Sample.claimOperation.outcome Sample.settings = .done Sample.claimedJob := by
    rfl
  refine ⟨Sample.reporting, exactly_once Sample.runningCourse granted ?_ Sample.reporting⟩
  rintro operation member ⟨result, reports⟩
  cases List.mem_singleton.mp member
  cases reports

end BuildFleet
