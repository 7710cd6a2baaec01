import BuildFleet.LeaseMonitor
import BuildFleet.Proofs.Queue.Pending
import BuildFleet.Proofs.Services.Calls
import BuildFleet.Proofs.Store.Expiry
import BuildFleet.Proofs.Store.Republication

/-!
# What one scan repairs

A scan that no call fails in expires every lease that is over and publishes
every queued job that is stale. No job falls between the two: one that the scan
itself returns to the queue is published at once, and it is not stale any more
when the second sweep looks.
-/

namespace BuildFleet

namespace LeaseMonitor

open BuildFleet.Action

variable {actor : Actor} {services : Services} {job : Job} {jobs : List Job}
  {report : ScanReport}

/-! ## The sweeps -/

/-- The report once jobs whose lease is over have been dealt with. -/
def reportExpiry (limit : Nat) (report : ScanReport) (jobs : List Job) : ScanReport :=
  { report with
    requeued := report.requeued + (jobs.filter (·.hasAttempts limit)).length
    lost := report.lost + (jobs.filter fun job => !job.hasAttempts limit).length }

theorem reportExpiry_returned {limit : Nat} (returned : job.hasAttempts limit = true)
    (rest : List Job) : reportExpiry limit report (job :: rest) =
      reportExpiry limit { report with requeued := report.requeued + 1 } rest := by
  simp [reportExpiry, returned, Nat.add_assoc, Nat.add_comm 1]

theorem reportExpiry_lost {limit : Nat} (lost : job.hasAttempts limit = false)
    (rest : List Job) : reportExpiry limit report (job :: rest) =
      reportExpiry limit { report with lost := report.lost + 1 } rest := by
  simp [reportExpiry, lost, Nat.add_assoc, Nat.add_comm 1]

theorem publishAgain_grows (job : Job) : (publishAgain job).Grows :=
  (Services.perform_grows _).attempt.bind fun _ => .pure ()

/-- How the first sweep goes on once the lease of a job was to expire. -/
def afterExpiry (job : Job) (rest : List Job) (report : ScanReport) :
    Except Failure (Option ExpiryOutcome) → Action ScanReport
  | .ok (some .requeued) => do
    publishAgain job
    expireEach rest { report with requeued := report.requeued + 1 }
  | .ok (some .lost) => expireEach rest { report with lost := report.lost + 1 }
  | .ok none => expireEach rest report
  | .error failure => if failure.isTransient then .fail failure else expireEach rest report

theorem expireEach_cons (job : Job) (rest : List Job) (report : ScanReport) :
    expireEach (job :: rest) report =
      ((Services.expireLease job.id).attempt >>= afterExpiry job rest report) := by
  rw [expireEach]
  congr 1

theorem afterExpiry_grows {rest : List Job} (grows : ∀ report, (expireEach rest report).Grows)
    (job : Job) (report : ScanReport) (answer : Except Failure (Option ExpiryOutcome)) :
    (afterExpiry job rest report answer).Grows := by
  unfold afterExpiry
  split
  · exact (publishAgain_grows job).bind fun _ => grows _
  · exact grows _
  · exact grows _
  · split
    · exact .fail _
    · exact grows _

theorem expireEach_grows (jobs : List Job) (report : ScanReport) :
    (expireEach jobs report).Grows := by
  induction jobs generalizing report with
  | nil => exact .pure report
  | cons job rest induction =>
      rw [expireEach_cons]
      exact (Services.perform_grows _).attempt.bind (afterExpiry_grows induction job report)

theorem republishEach_grows (jobs : List Job) (report : ScanReport) :
    (republishEach jobs report).Grows := by
  induction jobs generalizing report with
  | nil => exact .pure report
  | cons job rest induction => exact (publishAgain_grows job).bind fun _ => induction _

theorem publishAgain_yields (unfailing : (publishAgain job).Unfailing actor services) :
    (publishAgain job).Yields actor services () services.store
      (services.queue.publish job.target job.id).2 := by
  have published := (unfailing.parts (Services.perform_grows _).attempt fun _ => .pure ()).1
  have yields := (Services.publish_yields published.of_attempt).attempt
  have last := Yields.pure () actor
    ((Services.publish job.target job.id).attempt actor services).2
  rw [yields.store, yields.queue] at last
  exact yields.bind last

theorem republishEach_yields (unfailing : (republishEach jobs report).Unfailing actor services) :
    (republishEach jobs report).Yields actor services
      { report with republished := report.republished + jobs.length } services.store
      (services.queue.publishEach jobs) := by
  induction jobs generalizing report services with
  | nil => exact .pure report actor services
  | cons job rest induction =>
      rcases unfailing.parts (publishAgain_grows job) fun _ => republishEach_grows rest _ with
        ⟨published, later⟩
      have first := publishAgain_yields published
      have second := induction (later () first.outcome)
      rw [first.store, first.queue, Nat.add_assoc, Nat.add_comm 1] at second
      exact first.bind second

theorem expireLease_yields (unfailing : (Services.expireLease job.id).Unfailing actor services)
    (found : services.store.job? job.id = some job) :
    (Services.expireLease job.id).Yields actor services
      (job.expire services.settings.maxAttempts services.now).1
      (services.store.expireLease services.settings job.id services.now).2 services.queue :=
  Services.store_yields unfailing
    (Prod.ext (Store.expireLease_found services.settings services.now found).1 rfl)

/-- The first sweep expires every lease in its list and publishes the jobs that
return to the queue. -/
theorem expireEach_yields {settings : StoreSettings} {now : Instant} {store : Store}
    (sameSettings : services.settings = settings) (sameNow : services.now = now)
    (sameStore : services.store = store) (found : ∀ job ∈ jobs, store.job? job.id = some job)
    (apart : (jobs.map (·.id)).Nodup) (expired : ∀ job ∈ jobs, job.leaseExpired now = true)
    (unfailing : (expireEach jobs report).Unfailing actor services) :
    (expireEach jobs report).Yields actor services
      (reportExpiry settings.maxAttempts report jobs) (store.expireAll settings jobs now)
      (services.queue.publishEach (jobs.filter (·.hasAttempts settings.maxAttempts))) := by
  induction jobs generalizing report services store with
  | nil =>
      rw [← sameStore]
      exact .pure report actor services
  | cons job rest induction =>
      rw [expireEach_cons] at unfailing ⊢
      rcases unfailing.parts (Services.perform_grows _).attempt
        (afterExpiry_grows (expireEach_grows rest) job report) with ⟨expiry, later⟩
      have first := (expireLease_yields expiry.of_attempt
        (sameStore ▸ found job List.mem_cons_self)).attempt
      rw [sameSettings, sameNow, sameStore] at first
      rcases List.nodup_cons.mp apart with ⟨absent, restApart⟩
      -- The expiry of one job leaves the others in the list as they are.
      have restFound : ∀ other ∈ rest,
          (store.expireLease settings job.id now).2.job? other.id = some other := by
        intro other member
        have different : job.id ≠ other.id := fun same =>
          absent (List.mem_map.mpr ⟨other, member, same.symm⟩)
        rw [Store.job?_expireLease_other _ _ different]
        exact found other (List.mem_cons_of_mem _ member)
      have restExpired : ∀ other ∈ rest, other.leaseExpired now = true :=
        fun other member => expired other (List.mem_cons_of_mem _ member)
      refine first.bind ?_
      have going := later _ first.outcome
      rcases Job.expire_cases settings.maxAttempts now job with
        ⟨unexpired, _⟩ | ⟨_, returned, expires⟩ | ⟨_, lost, expires⟩
      · rw [expired job List.mem_cons_self] at unexpired
        cases unexpired
      · rw [expires] at going ⊢
        rcases Unfailing.parts going (publishAgain_grows job) fun _ => expireEach_grows rest _ with
          ⟨published, restUnfailing⟩
        have second := publishAgain_yields published
        have third := induction (second.settings.trans (first.settings.trans sameSettings))
          (second.now.trans (first.now.trans sameNow)) (second.store.trans first.store)
          restFound restApart restExpired (restUnfailing () second.outcome)
        rw [second.queue, first.queue] at third
        rw [reportExpiry_returned returned, List.filter_cons_of_pos returned]
        exact second.bind third
      · rw [expires] at going ⊢
        have second := induction (first.settings.trans sameSettings) (first.now.trans sameNow)
          first.store restFound restApart restExpired going
        rw [first.queue] at second
        rw [reportExpiry_lost lost, List.filter_cons_of_neg (by simp [lost])]
        exact second

/-- A scan that no call fails in publishes what it returns to the queue and what
is stale after that. -/
theorem scan_yields {monitor : LeaseMonitor} {cutoff : Instant}
    (distinct : (services.store.jobs.map (·.id)).Nodup)
    (moved : services.now.before? monitor.scanInterval = some cutoff)
    (unfailing : monitor.scan.Unfailing actor services) :
    let limit := services.settings.maxAttempts
    let expired := services.store.expiredLeases monitor.batchSize services.now
    let swept := services.store.expireAll services.settings expired services.now
    let stale := (swept.backlog cutoff).take monitor.batchSize.toNat
    monitor.scan.Yields actor services
      { reportExpiry limit ⟨0, 0, 0⟩ expired with republished := stale.length }
      (swept.staleQueued monitor.scanInterval monitor.batchSize services.now).2
      ((services.queue.publishEach (expired.filter (·.hasAttempts limit))).publishEach stale) := by
  intro limit expired swept stale
  have lastGrows : ∀ report stale, (republishEach stale report).Grows :=
    fun report stale => republishEach_grows stale report
  have staleGrows : ∀ report, (Services.staleQueued monitor.scanInterval monitor.batchSize >>=
      fun stale => republishEach stale report).Grows :=
    fun report => (Services.perform_grows _).bind (lastGrows report)
  rcases unfailing.parts (Services.perform_grows _) (fun expired =>
    (expireEach_grows expired _).bind staleGrows) with ⟨listing, sweeping⟩
  have listed : (Services.expiredLeases monitor.batchSize).Yields actor services expired
      services.store services.queue := Services.store_yields listing rfl
  rcases Unfailing.parts (sweeping expired listed.outcome) (expireEach_grows expired _)
    staleGrows with ⟨expiring, looking⟩
  have sweeps := expireEach_yields listed.settings listed.now listed.store
    (fun job member => Store.job?_of_mem distinct (Store.mem_expiredLeases member).1)
    (Store.expiredLeases_apart distinct _ _)
    (fun job member => (Store.mem_expiredLeases member).2) expiring
  rcases Unfailing.parts (looking _ sweeps.outcome) (Services.perform_grows _)
    (lastGrows _) with ⟨asking, republishing⟩
  have asked : (Services.staleQueued monitor.scanInterval monitor.batchSize).Yields actor _ stale
      (swept.staleQueued monitor.scanInterval monitor.batchSize services.now).2 _ :=
    Services.store_yields asking (by
      rw [sweeps.settings, sweeps.now, sweeps.store, listed.settings, listed.now]
      exact Prod.ext (by rw [Store.perform, Store.staleQueued_eq moved]) rfl)
  -- The clock stands still between the sweeps, so both go by one reading.
  have republished := republishEach_yields (republishing _ asked.outcome)
  rw [asked.store, asked.queue, sweeps.queue, listed.queue] at republished
  rw [Nat.add_comm] at republished
  exact listed.bind (sweeps.bind (asked.bind republished))

/-- A scan that is large enough deals with every expired lease and every stale job. -/
theorem scan_whole {monitor : LeaseMonitor} {cutoff : Instant}
    (distinct : (services.store.jobs.map (·.id)).Nodup) (earlier : cutoff < services.now)
    (moved : services.now.before? monitor.scanInterval = some cutoff)
    (expiredFit : ((services.store.jobs.filter (·.leaseExpired services.now)).length : Int) ≤
      monitor.batchSize)
    (staleFit : ((services.store.staleJobs cutoff).length : Int) ≤ monitor.batchSize)
    (unfailing : monitor.scan.Unfailing actor services) :
    ∃ expired stale : List Job,
      expired.Perm (services.store.jobs.filter (·.leaseExpired services.now)) ∧
      stale.Perm (services.store.staleJobs cutoff) ∧
      (monitor.scan actor services).1 = .done
        { reportExpiry services.settings.maxAttempts ⟨0, 0, 0⟩ expired with
          republished := stale.length } ∧
      (monitor.scan actor services).2.store.jobs = services.store.jobs.map (fun job =>
        (job.expire services.settings.maxAttempts services.now).2) ∧
      (monitor.scan actor services).2.queue = (services.queue.publishEach
        (expired.filter (·.hasAttempts services.settings.maxAttempts))).publishEach stale := by
  let expired := services.store.expiredLeases monitor.batchSize services.now
  let swept := services.store.expireAll services.settings expired services.now
  have listed : expired.Perm (services.store.jobs.filter (·.leaseExpired services.now)) :=
    Store.expiredLeases_perm expiredFit
  have jobs : swept.jobs = services.store.jobs.map (fun job =>
      (job.expire services.settings.maxAttempts services.now).2) :=
    Store.jobs_expireAll_whole distinct
      (fun job member => Store.job?_of_mem distinct (Store.mem_expiredLeases member).1)
      (Store.expiredLeases_apart distinct _ _)
      (fun job member elapsed => listed.mem_iff.mpr (List.mem_filter.mpr ⟨member, elapsed⟩))
  have waiting : (swept.backlog cutoff).Perm (services.store.staleJobs cutoff) :=
    (Store.backlog_perm swept cutoff).trans
      (List.Perm.of_eq (Store.staleJobs_expired earlier jobs Store.published_expireAll))
  have whole : (swept.backlog cutoff).take monitor.batchSize.toNat = swept.backlog cutoff :=
    List.take_of_length_le (by rw [waiting.length_eq]; omega)
  have yields := scan_yields distinct moved unfailing
  refine ⟨expired, _, listed, ?_, yields.outcome, ?_, yields.queue⟩
  · exact (List.Perm.of_eq whole).trans waiting
  · rw [yields.store, Store.jobs_staleQueued]
    exact jobs

theorem filter_hasAttempts {limit : Nat} {now : Instant} (narrow : limit < 4294967296)
    (left : ∀ job ∈ jobs, job.AttemptsLeft limit)
    (elapsed : ∀ job ∈ jobs, job.leaseExpired now = true) :
    jobs.filter (·.hasAttempts limit) = jobs.filter (·.attemptCount + 1 < limit) ∧
      jobs.filter (fun job => !job.hasAttempts limit) =
        jobs.filter (limit ≤ ·.attemptCount + 1) := by
  have counted : ∀ job ∈ jobs, job.hasAttempts limit = decide (job.attemptCount + 1 < limit) := by
    intro job member
    rw [Job.hasAttempts, (left job member).countLoss_eq narrow (elapsed job member)]
  refine ⟨List.filter_congr counted, List.filter_congr ?_⟩
  intro job member
  rw [counted job member, ← decide_not]
  exact decide_eq_decide.mpr Nat.not_lt

/-- A job that is queued after both sweeps waits, or it had been made known lately. -/
theorem waits_or_known {settings : StoreSettings} {store : Store} {history : List Operation}
    {now cutoff : Instant} {queue : Queue} {expired stale : List Job}
    (course : Store.Course settings .empty history store) (sound : queue.Sound)
    (expiredPerm : expired.Perm (store.jobs.filter (·.leaseExpired now)))
    (stalePerm : stale.Perm (store.staleJobs cutoff)) (there : job ∈ store.jobs)
    (queued : (job.expire settings.maxAttempts now).2.status = .queued) :
    let after := (job.expire settings.maxAttempts now).2
    after.id ∈ ((queue.publishEach
        (expired.filter (·.hasAttempts settings.maxAttempts))).publishEach stale).pending
          after.target ∨
      (after ∈ store.jobs ∧ ∃ operation ∈ history,
        operation.makesKnown settings after.id = true ∧
        operation.now = store.lastPublished after ∧ cutoff < operation.now) := by
  intro after
  unfold after
  rcases Job.queued_expire queued with ⟨_, same⟩ | ⟨elapsed, remaining, returns⟩
  · rw [same] at queued ⊢
    -- A job that the first sweep left alone is as stale as it was before the scan.
    rcases lt_or_ge cutoff (store.lastPublished job) with recent | old
    · have found := Store.job?_of_mem course.distinct_from_empty there
      rcases course.known_since found queued with ⟨operation, past, known, reading⟩
      exact .inr ⟨there, operation, past, known, reading, reading ▸ recent⟩
    · have isStale : job ∈ stale :=
        stalePerm.mem_iff.mpr (Store.mem_staleJobs.mpr ⟨there, queued, old⟩)
      exact .inl ((sound.publishEach _).mem_publishEach isStale)
  · have isExpired : job ∈ expired :=
      expiredPerm.mem_iff.mpr (List.mem_filter.mpr ⟨there, elapsed⟩)
    have published := sound.mem_publishEach (List.mem_filter.mpr ⟨isExpired, remaining⟩)
    rw [returns]
    exact .inl (Queue.pending_subset_publishEach _ stale job.target published)

/-- A scan that no call fails in, and that is large enough for all there is to do,
leaves no lease that is over and no queued job unheard of: each of them waits in
the queue of its target, unless it was made known within the interval before the
scan. Jobs that have ended or have a live lease stay as they are, and the report
counts every job once at most. -/
theorem scan_repairs {monitor : LeaseMonitor} {history : List Operation} {cutoff : Instant}
    (course : Store.Course services.settings .empty history services.store)
    (reached : services.queue.Reached) (narrow : services.settings.maxAttempts < 4294967296)
    (least : 1 ≤ monitor.scanInterval.milliseconds)
    (most : monitor.scanInterval.milliseconds < 9223372036854775808)
    (moved : services.now.before? monitor.scanInterval = some cutoff)
    (expiredFit : ((services.store.jobs.filter (·.leaseExpired services.now)).length : Int) ≤
      monitor.batchSize)
    (staleFit : ((services.store.staleJobs cutoff).length : Int) ≤ monitor.batchSize)
    (unfailing : monitor.scan.Unfailing actor services) :
    let after := (monitor.scan actor services).2
    let expired := services.store.jobs.filter (·.leaseExpired services.now)
    let returned := expired.filter (·.attemptCount + 1 < services.settings.maxAttempts)
    let lost := expired.filter (services.settings.maxAttempts ≤ ·.attemptCount + 1)
    let stale := services.store.staleJobs cutoff
    (monitor.scan actor services).1 = .done ⟨returned.length, lost.length, stale.length⟩ ∧
      ((returned ++ lost ++ stale).map (·.id)).Nodup ∧
      (∀ job ∈ after.store.jobs, job.leaseExpired services.now = false) ∧
      (∀ job ∈ after.store.jobs, job.status = .queued →
        job.id ∈ after.queue.pending job.target ∨
          (job ∈ services.store.jobs ∧ ∃ operation ∈ history,
            operation.makesKnown services.settings job.id = true ∧
            operation.now = services.store.lastPublished job ∧ cutoff < operation.now)) ∧
      ∀ job ∈ services.store.jobs,
        job.status.isTerminal = true ∨ job.leaseLive services.now = true →
        after.store.job? job.id = some job := by
  intro after expired returned lost stale
  have distinct := course.distinct_from_empty
  have earlier := Instant.before?_lt least most moved
  have elapsed : ∀ job ∈ expired, job.leaseExpired services.now = true :=
    fun job member => (List.mem_filter.mp member).2
  rcases scan_whole distinct earlier moved expiredFit staleFit unfailing with
    ⟨listed, waiting, samePerm, stalePerm, outcome, jobs, queue⟩
  have counts := filter_hasAttempts narrow
    (fun job (member : job ∈ expired) =>
      course.attemptsLeft job (List.mem_filter.mp member).1) elapsed
  refine ⟨?_, ?_, ?_, ?_, ?_⟩
  · rw [outcome, stalePerm.length_eq, reportExpiry, (samePerm.filter _).length_eq,
      (samePerm.filter _).length_eq, counts.1, counts.2]
    simp [returned, lost, stale]
  · exact Store.nodup_returned_lost_stale distinct _ _ _
  · intro job member
    rw [jobs] at member
    rcases List.mem_map.mp member with ⟨before, _, rfl⟩
    exact Job.unexpired_of_expire _ _ before
  · intro job member isQueued
    rw [jobs] at member
    rcases List.mem_map.mp member with ⟨before, there, rfl⟩
    rw [queue]
    exact waits_or_known course reached.sound samePerm stalePerm there isQueued
  · intro job member safe
    exact Store.job?_expired distinct jobs member (Job.unexpired_of_safe safe)

end LeaseMonitor

/-! ## A sample scan

The worker of the first job has vanished, the notification of the second one was
taken for nothing, and the third one is being built. -/

namespace Sample

def deserted : List (Instant × StoreCall) := [
  (moment 0, .create firstJob ⟨"amd64"⟩ .null),
  (moment 1, .create secondJob ⟨"amd64"⟩ .null),
  (moment 2, .claim firstJob ⟨"a"⟩ lease),
  (moment 3, .create thirdJob ⟨"amd64"⟩ .null),
  (moment 17, .claim thirdJob ⟨"b"⟩ lease)]

def desertedHistory : List Operation := Store.empty.operations settings deserted

/-- The services at second twenty. -/
def services : Services :=
  { Services.start settings (moment 20) with
    store := Store.empty.afterCalls settings deserted
    queue := ((Queue.empty.publish ⟨"amd64"⟩ secondJob).2.pop ⟨"amd64"⟩).2 }

def monitor : LeaseMonitor := ⟨lease, 100⟩

theorem desertedCourse :
    Store.Course services.settings .empty desertedHistory services.store :=
  (Store.Run.of_calls (by decide)).course

theorem monitor_unfailing : monitor.scan.Unfailing .monitor services := by
  unfold Action.Unfailing
  cbv

theorem pending_after_scan :
    (monitor.scan .monitor services).2.queue.pending ⟨"amd64"⟩ = [firstJob, secondJob] := by
  cbv

theorem thirdJob_live : ∃ job ∈ services.store.jobs,
    job.id = thirdJob ∧ job.leaseLive services.now = true := by decide

end Sample

/-- The first job returns to the queue, the second one is published again and the
third one is left alone. -/
theorem LeaseMonitor.sample_scan_repairs :
    let after := (Sample.monitor.scan .monitor Sample.services).2
    Sample.monitor.scan.Unfailing .monitor Sample.services ∧
      (Sample.monitor.scan .monitor Sample.services).1 = .done ⟨1, 0, 1⟩ ∧
      (∀ job ∈ after.store.jobs, job.leaseExpired (Sample.moment 20) = false) ∧
      after.queue.pending ⟨"amd64"⟩ = [Sample.firstJob, Sample.secondJob] ∧
      ∃ job ∈ Sample.services.store.jobs, job.id = Sample.thirdJob ∧
        after.store.job? Sample.thirdJob = some job := by
  intro after
  have reached : Sample.services.queue.Reached := (Queue.Reached.empty.publish _ _).pop _
  have moved : Sample.services.now.before? Sample.monitor.scanInterval =
    some (Sample.moment 15) := by decide
  rcases scan_repairs Sample.desertedCourse reached (by decide) (by decide) (by decide) moved
    (by decide) (by decide) Sample.monitor_unfailing with ⟨outcome, _, repaired, _, unchanged⟩
  rcases Sample.thirdJob_live with ⟨job, member, isThird, live⟩
  exact ⟨Sample.monitor_unfailing, outcome.trans (by decide), repaired, Sample.pending_after_scan,
    job, member, isThird, isThird ▸ unchanged job member (.inr live)⟩

end BuildFleet
