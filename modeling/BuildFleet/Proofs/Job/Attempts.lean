import BuildFleet.Proofs.Job.Record

/-!
# Attempts

Leases are lost in three ways: the monitor returns an expired job to the queue,
a worker takes an expired job over, and the last loss gives the job up. The
attempt count of a job counts all of them, and a job is given up exactly when
the count reaches its limit. So no more leases are granted than the limit.
-/

namespace BuildFleet

/-- Whether a call tells that this job lost a lease. A claim does if it gave the
job up, or if it was granted although the job was `leased`. -/
def StoreCall.losesLease (id : JobId) (leased : Bool) :
    (call : StoreCall) → Outcome call.Answer → Bool
  | .expireLease addressee, .done (some _) => addressee == id
  | .claim addressee _ _, .done _ => addressee == id && leased
  | .claim addressee _ _, .failed (.lost _) => addressee == id
  | _, _ => false

/-- Whether a call tells that this job was claimed. -/
def StoreCall.claims (id : JobId) : (call : StoreCall) → Outcome call.Answer → Bool
  | .claim addressee _ _, .done _ => addressee == id
  | _, _ => false

namespace Operation

/-- Whether this job was leased before the operation. -/
def leased (id : JobId) (operation : Operation) : Bool :=
  (operation.before.job? id).any (·.status.isLeased)

def losesLease (settings : StoreSettings) (id : JobId) (operation : Operation) : Bool :=
  operation.call.losesLease id (operation.leased id) (operation.outcome settings)

def claims (settings : StoreSettings) (id : JobId) (operation : Operation) : Bool :=
  operation.call.claims id (operation.outcome settings)

end Operation

namespace JobOperation

def losesLease (limit : Nat) (id : JobId) (operation : JobOperation) : Bool :=
  (operation.call.on id).losesLease id operation.before.status.isLeased
    (operation.call.report id (operation.outcome limit))

def claims (limit : Nat) (id : JobId) (operation : JobOperation) : Bool :=
  (operation.call.on id).claims id (operation.call.report id (operation.outcome limit))

end JobOperation

/-! ## One step -/

namespace Job

variable {limit : Nat} {now : Instant} {job after : Job} {call : JobCall}
  {outcome : Outcome call.Answer}

theorem countLoss_of_lt {attempts : Nat} (fits : attempts + 1 < 4294967296) :
    countLoss attempts = attempts + 1 := Nat.mod_eq_of_lt fits

/-- A job that was given up used all its attempts, any other one has some left. -/
structure AttemptsFit (limit : Nat) (job : Job) : Prop where
  exhausted : job.status = .lost → job.attemptCount = limit
  remaining : job.status ≠ .lost → job.attemptCount < limit

/-- How many leases a job can have been granted, going by its record. -/
def leasesTaken (job : Job) : Nat :=
  if job.status = .queued ∨ job.status = .lost then job.attemptCount else job.attemptCount + 1

theorem AttemptsFit.of_unfinished (fit : job.AttemptsFit limit)
    (unfinished : job.status.isTerminal = false) : job.attemptCount < limit :=
  fit.remaining fun lost => by simp [lost, JobStatus.isTerminal] at unfinished

theorem AttemptsFit.countLoss_eq (fit : job.AttemptsFit limit) (narrow : limit < 4294967296)
    (expired : job.leaseExpired now = true) :
    countLoss job.attemptCount = job.attemptCount + 1 := by
  have fewer := fit.of_unfinished (unfinished_of_expired expired)
  exact countLoss_of_lt (by omega)

theorem AttemptsFit.leasesTaken_le (fit : job.AttemptsFit limit) :
    job.leasesTaken ≤ limit := by
  unfold leasesTaken
  by_cases lost : job.status = .lost
  · simp [lost, fit.exhausted lost]
  · have fewer := fit.remaining lost
    split <;> omega

theorem AttemptsFit.le (fit : job.AttemptsFit limit) : job.attemptCount ≤ limit := by
  by_cases lost : job.status = .lost
  · exact Nat.le_of_eq (fit.exhausted lost)
  · exact Nat.le_of_lt (fit.remaining lost)

theorem AttemptsFit.lost_iff (fit : job.AttemptsFit limit) :
    job.status = .lost ↔ job.attemptCount = limit := by
  refine ⟨fit.exhausted, fun reached => ?_⟩
  by_cases lost : job.status = .lost
  · exact lost
  · exact absurd reached (Nat.ne_of_lt (fit.remaining lost))

theorem AttemptsFit.of_kept (kept : job.status ≠ .lost) (fewer : job.attemptCount < limit) :
    job.AttemptsFit limit :=
  ⟨fun lost => absurd lost kept, fun _ => fewer⟩

private theorem losesLease_refused {failure : Failure} (other : ∀ message, failure ≠ .lost message)
    (id : JobId) (leased : Bool) :
    (call.on id).losesLease id leased (call.report id (.failed failure)) = false := by
  cases call <;> cases failure <;> first
    | rfl
    | exact absurd rfl (other _)

private theorem claims_refused {failure : Failure} (id : JobId) :
    (call.on id).claims id (call.report id (.failed failure)) = false := by
  cases call <;> rfl

/-- A job whose last lease expires is given up at the limit. -/
private theorem giveUp_attempts (fit : job.AttemptsFit limit) (narrow : limit < 4294967296)
    (expired : job.leaseExpired now = true) (used : limit ≤ countLoss job.attemptCount) :
    (job.counted.giveUp now).AttemptsFit limit ∧
      (job.counted.giveUp now).attemptCount = job.attemptCount + 1 := by
  have fewer := fit.of_unfinished (unfinished_of_expired expired)
  have count : (job.counted.giveUp now).attemptCount = job.attemptCount + 1 :=
    fit.countLoss_eq narrow expired
  rw [fit.countLoss_eq narrow expired] at used
  exact ⟨⟨fun _ => by omega, fun kept => absurd rfl kept⟩, count⟩

/-- Each step counts the lease that it loses, and gives the job up at the limit. -/
theorem Step.attempts (step : Step limit now job call outcome after)
    (fit : job.AttemptsFit limit) (narrow : limit < 4294967296) (id : JobId) :
    after.AttemptsFit limit ∧
      after.attemptCount = job.attemptCount +
        ((call.on id).losesLease id job.status.isLeased (call.report id outcome)).toNat := by
  cases step with
  | refused other =>
      rw [losesLease_refused other]
      exact ⟨fit, rfl⟩
  | repeated => exact ⟨fit, rfl⟩
  | kept => exact ⟨fit, rfl⟩
  | granted queued ends =>
      have fewer := fit.of_unfinished (by rw [queued]; rfl)
      refine ⟨.of_kept (fun lost => by cases lost) fewer, ?_⟩
      simp [leasedTo, queued, StoreCall.losesLease, JobCall.on, JobCall.report,
        JobStatus.isLeased]
  | takenOver expired remaining ends =>
      refine ⟨.of_kept (fun lost => by cases lost) remaining, ?_⟩
      have count := fit.countLoss_eq narrow expired
      simp [leasedTo, counted, count, StoreCall.losesLease, JobCall.on, JobCall.report,
        (leaseExpired_iff.mp expired).1]
  | exhausted expired used =>
      rcases giveUp_attempts fit narrow expired used with ⟨fitAfter, count⟩
      refine ⟨fitAfter, count.trans ?_⟩
      simp [StoreCall.losesLease, JobCall.on, JobCall.report]
  | renewed owned live ends =>
      refine ⟨.of_kept (fun lost => by cases lost) ?_, rfl⟩
      exact fit.of_unfinished (unfinished_of_live live)
  | @completed worker result running owned live =>
      have kept : (job.endedWith result now).status ≠ .lost := by
        show result.status ≠ .lost
        unfold JobResult.status
        split <;> exact fun lost => by cases lost
      exact ⟨.of_kept kept (fit.of_unfinished (unfinished_of_live live)), rfl⟩
  | cancelled unfinished =>
      exact ⟨.of_kept (fun lost => by cases lost) (fit.of_unfinished unfinished), rfl⟩
  | requeued expired remaining =>
      refine ⟨.of_kept (fun lost => by cases lost) remaining, ?_⟩
      have count := fit.countLoss_eq narrow expired
      simp [requeuedAt, counted, count, StoreCall.losesLease, JobCall.on, JobCall.report]
  | lost expired used =>
      rcases giveUp_attempts fit narrow expired used with ⟨fitAfter, count⟩
      refine ⟨fitAfter, count.trans ?_⟩
      simp [StoreCall.losesLease, JobCall.on, JobCall.report]

/-- Each step counts the lease that it grants. -/
theorem Step.leasesTaken_le (step : Step limit now job call outcome after)
    (fit : job.AttemptsFit limit) (narrow : limit < 4294967296) (id : JobId) :
    job.leasesTaken + ((call.on id).claims id (call.report id outcome)).toNat ≤
      after.leasesTaken := by
  have atMost : job.leasesTaken ≤ job.attemptCount + 1 := by
    unfold leasesTaken
    split <;> omega
  cases step with
  | refused other =>
      rw [claims_refused]
      exact Nat.le_refl _
  | repeated => exact Nat.le_refl _
  | kept => exact Nat.le_refl _
  | granted queued ends =>
      simp [leasesTaken, leasedTo, queued, StoreCall.claims, JobCall.on, JobCall.report]
  | takenOver expired remaining ends =>
      have count := fit.countLoss_eq narrow expired
      simpa [leasesTaken, leasedTo, counted, count, StoreCall.claims, JobCall.on,
        JobCall.report] using atMost
  | exhausted expired used =>
      have count := fit.countLoss_eq narrow expired
      simpa [leasesTaken, giveUp, become, counted, count, StoreCall.claims, JobCall.on,
        JobCall.report] using atMost
  | renewed owned live ends => exact atMost
  | @completed worker result running owned live =>
      have ended : (job.endedWith result now).leasesTaken = job.attemptCount + 1 := by
        show (if result.status = .queued ∨ result.status = .lost then _ else _) = _
        unfold JobResult.status
        split <;> rfl
      rw [ended]
      exact atMost
  | cancelled unfinished => exact atMost
  | requeued expired remaining =>
      have count := fit.countLoss_eq narrow expired
      simpa [leasesTaken, requeuedAt, counted, count, StoreCall.claims, JobCall.on,
        JobCall.report] using atMost
  | lost expired used =>
      have count := fit.countLoss_eq narrow expired
      simpa [leasesTaken, giveUp, become, counted, count, StoreCall.claims, JobCall.on,
        JobCall.report] using atMost

/-! ## A run of one job -/

private theorem countP_snoc {α : Type} (test : α → Bool) (items : List α) (last : α) :
    (items ++ [last]).countP test = items.countP test + (test last).toNat := by
  rw [List.countP_append, List.countP_singleton]
  cases test last <;> rfl

theorem new_attemptsFit (id : JobId) (target : Target) (payload : Json) (time : Instant)
    (positive : 1 ≤ limit) : (Job.new id target payload time).AttemptsFit limit :=
  .of_kept (fun lost => by cases lost) positive

/-- In a run of a new job its record agrees with the losses and the claims. -/
theorem Run.attempts {id : JobId} {target : Target} {payload : Json} {time : Instant}
    {history : List JobOperation} (run : Run limit (Job.new id target payload time) history job)
    (positive : 1 ≤ limit) (narrow : limit < 4294967296) :
    job.AttemptsFit limit ∧ job.attemptCount = history.countP (·.losesLease limit id) ∧
      history.countP (·.claims limit id) ≤ job.leasesTaken := by
  induction run with
  | start => exact ⟨new_attemptsFit id target payload time positive, rfl, Nat.le_refl _⟩
  | @step history operation run inTime induction =>
      rcases induction with ⟨fit, losses, claims⟩
      have step := JobOperation.step inTime
      rcases step.attempts fit narrow id with ⟨fitAfter, count⟩
      have taken := step.leasesTaken_le fit narrow id
      rw [countP_snoc, countP_snoc, ← losses]
      exact ⟨fitAfter, count, Nat.le_trans (Nat.add_le_add_right claims _) taken⟩

end Job

/-! ## In every run of the store -/

namespace Operation

variable {settings : StoreSettings} {id : JobId} {operation : Operation}

/-- A test of answers about one job comes to a test of that job's own answers. -/
private theorem test_eq (id : JobId) (test : (call : StoreCall) → Outcome call.Answer → Bool)
    (addressed : ∀ call outcome, test call outcome = true →
      ∃ jobCall, call.addressed? = some (id, jobCall))
    (there : ∀ jobCall : JobCall, test (jobCall.on id) (.failed (Store.missing id)) = false) :
    test operation.call (operation.outcome settings) =
      ((operation.onJob? id).map fun seen =>
        test (seen.call.on id)
          (seen.call.report id (seen.outcome settings.maxAttempts))).getD false := by
  rcases operation with ⟨before, now, call⟩
  unfold outcome onJob?
  by_cases mine : ∃ jobCall, call.addressed? = some (id, jobCall)
  · rcases mine with ⟨jobCall, target⟩
    cases StoreCall.eq_on_of_addressed target
    simp only [JobCall.addressed?_on]
    cases found : before.job? id with
    | none =>
        rw [Store.perform_on_missing found]
        exact there jobCall
    | some job =>
        rw [Store.perform_on found]
        simp [JobOperation.outcome]
  · have refused : test call (before.perform settings now call).1 = false := by
      cases answer : test call (before.perform settings now call).1 with
      | false => rfl
      | true => exact absurd (addressed _ _ answer) mine
    rw [refused]
    split
    · rename_i job addressee jobCall found target
      have different : addressee ≠ id := fun equal => mine ⟨jobCall, equal ▸ target⟩
      rw [if_neg different]
      rfl
    · rfl

private theorem addressed_of_losesLease {leased : Bool} {call : StoreCall}
    {outcome : Outcome call.Answer} (answer : call.losesLease id leased outcome = true) :
    ∃ jobCall, call.addressed? = some (id, jobCall) := by
  unfold StoreCall.losesLease at answer
  split at answer
  · exact ⟨.expire, by rw [beq_iff_eq.mp answer]; rfl⟩
  · exact ⟨.claim _ _, by rw [beq_iff_eq.mp (Bool.and_eq_true_iff.mp answer).1]; rfl⟩
  · exact ⟨.claim _ _, by rw [beq_iff_eq.mp answer]; rfl⟩
  · cases answer

private theorem addressed_of_claims {call : StoreCall} {outcome : Outcome call.Answer}
    (answer : call.claims id outcome = true) :
    ∃ jobCall, call.addressed? = some (id, jobCall) := by
  unfold StoreCall.claims at answer
  split at answer
  · exact ⟨.claim _ _, by rw [beq_iff_eq.mp answer]; rfl⟩
  · cases answer

theorem losesLease_eq :
    operation.losesLease settings id =
      ((operation.onJob? id).map (·.losesLease settings.maxAttempts id)).getD false := by
  unfold losesLease
  rw [test_eq id (fun call => call.losesLease id (operation.leased id))
    (fun _ _ => addressed_of_losesLease) (fun jobCall => by cases jobCall <;> rfl)]
  cases seen : operation.onJob? id with
  | none => rfl
  | some jobOperation =>
      have leasedBefore : operation.leased id = jobOperation.before.status.isLeased := by
        rw [leased, (onJob?_eq_some seen).1]
        rfl
      rw [leasedBefore]
      rfl

theorem claims_eq :
    operation.claims settings id =
      ((operation.onJob? id).map (·.claims settings.maxAttempts id)).getD false := by
  unfold claims
  rw [test_eq id (fun call => call.claims id)
    (fun _ _ => addressed_of_claims) (fun jobCall => by cases jobCall <;> rfl)]
  rfl

end Operation

namespace Store.Run

variable {settings : StoreSettings} {history : List Operation} {store : Store} {job : Job}

/-- A job that has ended stays as it is. -/
theorem ended_stays {first last : Store} (run : Run settings first history last) {id : JobId}
    (found : first.job? id = some job) (ended : job.status.isTerminal = true) :
    last.job? id = some job := by
  rcases run.job_continues found with ⟨later, there, jobRun⟩
  have same : job = later := jobRun.keeps rfl fun step same => by
    subst same
    exact (step.eq_of_terminal ended).symm
  rw [there, ← same]

/-- The attempt count of a job is the number of leases it lost; it never passes
the limit, and the job is lost exactly when it reaches it. No more claims succeed
than the limit, a lost job stays lost, and counting one more loss of an
unfinished job stays within thirty-two bits. -/
theorem attempts_bounded (run : Run settings .empty history store)
    (positive : 1 ≤ settings.maxAttempts) (narrow : settings.maxAttempts < 4294967296)
    (member : job ∈ store.jobs) :
    job.attemptCount = history.countP (·.losesLease settings job.id) ∧
      job.attemptCount ≤ settings.maxAttempts ∧
      (job.status = .lost ↔ job.attemptCount = settings.maxAttempts) ∧
      history.countP (·.claims settings job.id) ≤ settings.maxAttempts ∧
      (job.status = .lost → ∀ later last, Run settings store later last →
        last.job? job.id = some job) ∧
      (job.status ≠ .lost → Job.countLoss job.attemptCount = job.attemptCount + 1) := by
  have found := job?_of_mem run.distinct_from_empty member
  rcases run.job_history rfl found with ⟨target, payload, time, _, jobRun⟩
  rcases jobRun.attempts positive narrow with ⟨fit, losses, claims⟩
  rw [List.countP_filterMap] at losses claims
  simp only [← Operation.losesLease_eq, ← Operation.claims_eq] at losses claims
  refine ⟨losses, fit.le, fit.lost_iff, Nat.le_trans claims fit.leasesTaken_le, ?_, ?_⟩
  · intro lost later last after
    exact after.ended_stays found (by rw [lost]; rfl)
  · intro kept
    have fewer := fit.remaining kept
    exact Job.countLoss_of_lt (by omega)

/-- The second job of the sample run loses both of its leases, once to the monitor
and once to a claim, and is lost. -/
theorem sample_attempts_bounded :
    Run Sample.settings .empty Sample.history Sample.store ∧
      1 ≤ Sample.settings.maxAttempts ∧ Sample.settings.maxAttempts < 4294967296 ∧
      ∃ job ∈ Sample.store.jobs, job.id = Sample.secondJob ∧ job.status = .lost ∧
        job.attemptCount = Sample.history.countP (·.losesLease Sample.settings job.id) ∧
        job.attemptCount = 2 ∧
        Sample.history.countP (·.claims Sample.settings job.id) ≤ 2 := by
  rcases Sample.secondJob_lost with ⟨job, found, lost⟩
  have bounded := Sample.run.attempts_bounded (by decide) (by decide) (mem_of_job? found)
  exact ⟨Sample.run, by decide, by decide, job, mem_of_job? found, job?_id found, lost,
    bounded.1, bounded.2.2.1.mp lost, bounded.2.2.2.1⟩

end Store.Run

end BuildFleet
