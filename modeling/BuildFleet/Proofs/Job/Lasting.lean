import BuildFleet.Proofs.Job.Expiry
import BuildFleet.Proofs.Job.Keeping
import BuildFleet.Proofs.Time.Elapsed

/-!
# Leases that last

No call gives out or renews a lease that is over before the call, and expiry leaves none
that is over. So a lease that was not over at some reading lasts beyond it, whatever is
asked later on.
-/

namespace BuildFleet

namespace Job

variable {limit : Nat} {now reading : Instant} {job : Job}

/-- No lease ends before it begins. -/
def LeaseNonneg (job : Job) : Prop := 0 ≤ job.leaseMs

/-- The lease of the job, if it has one, was not over before this reading. -/
structure Lasts (reading : Instant) (job : Job) : Prop where
  nonneg : job.LeaseNonneg
  ends : job.status.isLeased = true → ∃ expiry, job.leaseExpiry = some expiry ∧ reading ≤ expiry

theorem Lasts.of_unleased (nonneg : job.LeaseNonneg) (unleased : job.status.isLeased = false) :
    job.Lasts reading := by
  refine ⟨nonneg, fun leased => ?_⟩
  rw [unleased] at leased
  cases leased

/-- Every lease is given out or renewed from the reading of the call on. -/
theorem Lasts.law (past : reading ≤ now) : Law (fun _ => True) now (Lasts reading) where
  made _ _ _ := .of_unleased (Int.le_refl 0) rfl
  kept limit job call _ lasts := by
    refine perform_leaves (fun step => ?_) fun halt => ?_
    · cases step with
      | refused | repeated | kept => exact lasts
      | granted _ ends | takenOver _ _ ends =>
          exact ⟨leaseMilliseconds_nonneg _, fun _ => ⟨_, rfl,
            le_trans past (Instant.le_of_addMilliseconds? (leaseMilliseconds_nonneg _) ends)⟩⟩
      | renewed _ _ ends =>
          exact ⟨lasts.nonneg, fun _ => ⟨_, rfl,
            le_trans past (Instant.le_of_addMilliseconds? lasts.nonneg ends)⟩⟩
      | completed => exact .of_unleased lasts.nonneg (unleased_of_result _)
      | exhausted | cancelled | requeued | lost => exact .of_unleased lasts.nonneg rfl
    · cases halt with
      | granting queued =>
          refine .of_unleased (leaseMilliseconds_nonneg _) ?_
          rw [assignedTo, queued]
          rfl
      | takingOver => exact ⟨leaseMilliseconds_nonneg _, lasts.ends⟩
      | renewing => exact lasts

theorem leaseNonneg_law (now : Instant) : Law (fun _ => True) now LeaseNonneg where
  made _ _ _ := Int.le_refl 0
  kept limit job call _ nonneg := by
    refine perform_leaves (fun step => ?_) fun halt => ?_
    · cases step with
      | granted | takenOver => exact leaseMilliseconds_nonneg _
      | _ => exact nonneg
    · cases halt with
      | granting | takingOver => exact leaseMilliseconds_nonneg _
      | renewing => exact nonneg

/-- A lease that is over at no reading up to now lasts. -/
theorem Lasts.of_expire (nonneg : job.LeaseNonneg) :
    (job.expire limit now).2.Lasts now := by
  rcases job.expire_cases limit now with ⟨current, expires⟩ | ⟨_, _, expires⟩ | ⟨_, _, expires⟩
  · rw [expires]
    refine ⟨nonneg, fun leased => ?_⟩
    have live : job.leaseLive now = true := by
      unfold leaseExpired at current
      rw [leased, Bool.true_and, Bool.not_eq_false'] at current
      exact current
    rcases (leaseLive_iff.mp live).2 with ⟨expiry, ends, later⟩
    exact ⟨expiry, ends, le_of_lt later⟩
  · rw [expires]
    exact .of_unleased nonneg rfl
  · rw [expires]
    exact .of_unleased nonneg rfl

theorem Lasts.unexpired (lasts : job.Lasts reading) (before : now < reading) :
    job.leaseExpired now = false := by
  rw [Bool.eq_false_iff]
  intro expired
  rcases leaseExpired_iff.mp expired with ⟨leased, passed⟩
  rcases lasts.ends leased with ⟨expiry, ends, later⟩
  exact absurd (passed expiry ends) (not_le.mpr (lt_of_lt_of_le before later))

end Job

end BuildFleet
