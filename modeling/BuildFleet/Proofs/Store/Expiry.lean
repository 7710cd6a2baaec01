import BuildFleet.Proofs.Job.Expiry
import BuildFleet.Proofs.Store.Backlog

/-!
# Expiry of several leases

The list of expired leases names every job whose lease is over once. When they
have all expired the jobs of the store are as expiry leaves each of them, and
the same ones are stale as before.
-/

namespace BuildFleet

namespace Store

variable {settings : StoreSettings} {now cutoff : Instant} {store : Store} {id : JobId}
  {job : Job} {jobs : List Job}

/-! ## Expiring several leases -/

theorem expireLease_found (settings : StoreSettings) (now : Instant)
    (found : store.job? id = some job) :
    (store.expireLease settings id now).1 = .done (job.expire settings.maxAttempts now).1 ∧
      (store.expireLease settings id now).2.jobs =
        (store.replace (job.expire settings.maxAttempts now).2).jobs :=
  ⟨mutate_outcome found, jobs_mutate found⟩

theorem job?_expireLease_other {other : JobId} (settings : StoreSettings) (now : Instant)
    (different : id ≠ other) :
    (store.expireLease settings id now).2.job? other = store.job? other :=
  job?_mutate_other different fun job _ => Job.id_expire settings.maxAttempts now job

theorem mem_expiredLeases {limit : Int} (member : job ∈ store.expiredLeases limit now) :
    job ∈ store.jobs ∧ job.leaseExpired now = true := by
  have sorted := List.mem_of_mem_take member
  rw [List.mem_mergeSort] at sorted
  exact List.mem_filter.mp sorted

theorem expiredLeases_apart (distinct : (store.jobs.map (·.id)).Nodup) (limit : Int)
    (now : Instant) : ((store.expiredLeases limit now).map (·.id)).Nodup := by
  have expired : ((store.jobs.filter (·.leaseExpired now)).map (·.id)).Nodup :=
    distinct.sublist (List.filter_sublist.map _)
  have sorted := ((List.mergeSort_perm _ endsNoLater).map (·.id)).nodup_iff.mpr expired
  exact sorted.sublist ((List.take_sublist _ _).map _)

/-- A limit that is large enough leaves no expired lease out. -/
theorem expiredLeases_perm {limit : Int}
    (fits : ((store.jobs.filter (·.leaseExpired now)).length : Int) ≤ limit) :
    (store.expiredLeases limit now).Perm (store.jobs.filter (·.leaseExpired now)) := by
  have sorted := List.mergeSort_perm (store.jobs.filter (·.leaseExpired now)) endsNoLater
  rw [expiredLeases, List.take_of_length_le (by rw [sorted.length_eq]; omega)]
  exact sorted

/-- No job is returned and given up, and none that has a lease is stale. -/
theorem nodup_returned_lost_stale (distinct : (store.jobs.map (·.id)).Nodup) (limit : Nat)
    (now cutoff : Instant) :
    let expired := store.jobs.filter (·.leaseExpired now)
    ((expired.filter (·.attemptCount + 1 < limit) ++ expired.filter (limit ≤ ·.attemptCount + 1) ++
      store.staleJobs cutoff).map (·.id)).Nodup := by
  intro expired
  have once : store.jobs.Nodup := List.Nodup.of_map _ distinct
  have isExpired : ∀ {test : Job → Bool}, ∀ job ∈ expired.filter test,
      job ∈ store.jobs ∧ job.leaseExpired now = true :=
    fun job member => List.mem_filter.mp (List.mem_filter.mp member).1
  refine nodup_map_id distinct ?_ ?_
  · intro job member
    rcases List.mem_append.mp member with sooner | isStale
    · rcases List.mem_append.mp sooner with isReturned | isLost
      · exact (isExpired job isReturned).1
      · exact (isExpired job isLost).1
    · exact (mem_staleJobs.mp isStale).1
  · refine List.nodup_append'.mpr ⟨List.nodup_append'.mpr ⟨?_, ?_, ?_⟩, once.filter _, ?_⟩
    · exact (once.filter _).filter _
    · exact (once.filter _).filter _
    · intro job isReturned isLost
      have few := of_decide_eq_true (List.mem_filter.mp isReturned).2
      have many := of_decide_eq_true (List.mem_filter.mp isLost).2
      omega
    · intro job sooner isStale
      have elapsed : job.leaseExpired now = true := by
        rcases List.mem_append.mp sooner with isReturned | isLost
        · exact (isExpired job isReturned).2
        · exact (isExpired job isLost).2
      rw [Job.unexpired_of_queued (mem_staleJobs.mp isStale).2.1] at elapsed
      cases elapsed

/-- Expire the leases of jobs, one after the other. -/
def expireAll (settings : StoreSettings) (store : Store) (jobs : List Job) (now : Instant) :
    Store :=
  jobs.foldl (fun store job => (store.expireLease settings job.id now).2) store

theorem published_expireAll : (store.expireAll settings jobs now).published = store.published := by
  induction jobs generalizing store with
  | nil => rfl
  | cons head tail induction => exact induction.trans published_mutate

theorem jobs_expireAll (distinct : (store.jobs.map (·.id)).Nodup)
    (found : ∀ job ∈ jobs, store.job? job.id = some job) (apart : (jobs.map (·.id)).Nodup) :
    (store.expireAll settings jobs now).jobs = store.jobs.map fun job =>
      if job.id ∈ jobs.map (·.id) then (job.expire settings.maxAttempts now).2 else job := by
  induction jobs generalizing store with
  | nil => simp [expireAll]
  | cons head tail induction =>
      rcases List.nodup_cons.mp apart with ⟨notLater, tailApart⟩
      have headFound := found head List.mem_cons_self
      have replaced := (expireLease_found settings now headFound).2
      have stillFound : ∀ job ∈ tail,
          (store.expireLease settings head.id now).2.job? job.id = some job := by
        intro job member
        have different : head.id ≠ job.id := fun same =>
          notLater (List.mem_map.mpr ⟨job, member, same.symm⟩)
        rw [job?_expireLease_other settings now different]
        exact found job (List.mem_cons_of_mem _ member)
      have stillDistinct : ((store.expireLease settings head.id now).2.jobs.map (·.id)).Nodup := by
        rw [replaced, map_id_replace]
        exact distinct
      show ((store.expireLease settings head.id now).2.expireAll settings tail now).jobs = _
      rw [induction stillDistinct stillFound tailApart, replaced, replace, List.map_map]
      apply List.map_congr_left
      intro job member
      simp only [Function.comp_apply, Job.id_expire, List.map_cons, List.mem_cons]
      -- The head has expired and is not met again, since no identifier is repeated.
      by_cases isHead : job.id = head.id
      · have same := job?_of_mem distinct member
        rw [isHead, headFound] at same
        cases same
        simp [Job.id_expire, notLater]
      · simp [isHead]

/-- If the list holds every job whose lease is over, all jobs are as expiry leaves them. -/
theorem jobs_expireAll_whole (distinct : (store.jobs.map (·.id)).Nodup)
    (found : ∀ job ∈ jobs, store.job? job.id = some job) (apart : (jobs.map (·.id)).Nodup)
    (whole : ∀ job ∈ store.jobs, job.leaseExpired now = true → job ∈ jobs) :
    (store.expireAll settings jobs now).jobs =
      store.jobs.map fun job => (job.expire settings.maxAttempts now).2 := by
  rw [jobs_expireAll distinct found apart]
  apply List.map_congr_left
  intro job member
  split
  · rfl
  · rename_i absent
    have unexpired : job.leaseExpired now = false := by
      cases expired : job.leaseExpired now with
      | false => rfl
      | true => exact absurd (List.mem_map_of_mem (whole job member expired)) absent
    rw [Job.expire_unexpired _ unexpired]

theorem job?_expired {expired : Store} {limit : Nat} (distinct : (store.jobs.map (·.id)).Nodup)
    (changed : expired.jobs = store.jobs.map fun job => (job.expire limit now).2)
    (member : job ∈ store.jobs) (unexpired : job.leaseExpired now = false) :
    expired.job? job.id = some job := by
  have sameIds : expired.jobs.map (·.id) = store.jobs.map (·.id) := by
    rw [changed, List.map_map]
    exact List.map_congr_left fun job _ => Job.id_expire limit now job
  refine job?_of_mem (sameIds ▸ distinct) ?_
  rw [changed]
  exact List.mem_map.mpr ⟨job, member, by rw [Job.expire_unexpired limit unexpired]⟩

/-- What expiry returns to the queue is not stale, and what is stale has no lease
to expire. -/
theorem stale_expire_iff {expired : Store} (earlier : cutoff < now)
    (marks : expired.published = store.published) (limit : Nat) (job : Job) :
    ((job.expire limit now).2.status = .queued ∧
        expired.lastPublished (job.expire limit now).2 ≤ cutoff) ↔
      (job.status = .queued ∧ store.lastPublished job ≤ cutoff) := by
  constructor
  · rintro ⟨queued, old⟩
    rcases Job.queued_expire queued with ⟨_, same⟩ | ⟨_, _, returned⟩
    · rw [same] at queued old
      rw [lastPublished, marks, ← lastPublished] at old
      exact ⟨queued, old⟩
    · rw [returned] at old
      exact absurd ((updatedAt_le_lastPublished expired _).trans old) (not_le_of_gt earlier)
  · rintro ⟨queued, old⟩
    rw [Job.expire_unexpired limit (Job.unexpired_of_queued queued), lastPublished, marks]
    exact ⟨queued, old⟩

theorem staleJobs_expired {expired : Store} {limit : Nat} (earlier : cutoff < now)
    (changed : expired.jobs = store.jobs.map fun job => (job.expire limit now).2)
    (marks : expired.published = store.published) :
    expired.staleJobs cutoff = store.staleJobs cutoff := by
  have sameTest : ((fun job : Job => job.status == .queued &&
        decide (expired.lastPublished job ≤ cutoff)) ∘ fun job => (job.expire limit now).2) =
      fun job => job.status == .queued && decide (store.lastPublished job ≤ cutoff) := by
    funext job
    rw [Bool.eq_iff_iff]
    simpa using stale_expire_iff earlier marks limit job
  unfold staleJobs
  rw [changed, List.filter_map, sameTest]
  conv_rhs => rw [← List.map_id (List.filter _ store.jobs)]
  apply List.map_congr_left
  intro job member
  have queued := (Bool.and_eq_true_iff.mp (List.mem_filter.mp member).2).1
  rw [Job.expire_unexpired limit (Job.unexpired_of_queued (beq_iff_eq.mp queued)), id_eq]

end Store

end BuildFleet
