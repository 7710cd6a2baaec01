import BuildFleet.Proofs.Job.Halt

/-!
# Expiry of a lease

Expiry changes a job only if its lease is over. Then the job is queued, or it is
lost, and in either case it has no lease any more.
-/

namespace BuildFleet

namespace Job

variable {limit : Nat} {now : Instant} {job : Job}

/-- The job is not given up when its lease expires. -/
def hasAttempts (limit : Nat) (job : Job) : Bool := decide (countLoss job.attemptCount < limit)

theorem expire_remaining (expired : job.leaseExpired now = true)
    (remaining : countLoss job.attemptCount < limit) :
    job.expire limit now = (some .requeued, job.requeuedAt now) := by
  simp only [expire, expired, remaining, Bool.not_true, Bool.false_eq_true, if_false, if_true]
  rfl

theorem expire_used (expired : job.leaseExpired now = true)
    (used : limit ≤ countLoss job.attemptCount) :
    job.expire limit now = (some .lost, job.counted.giveUp now) := by
  have spent : ¬ countLoss job.attemptCount < limit := Nat.not_lt.mpr used
  simp only [expire, expired, spent, Bool.not_true, Bool.false_eq_true, if_false]
  rfl

theorem expire_unexpired (limit : Nat) (unexpired : job.leaseExpired now = false) :
    job.expire limit now = (none, job) := by
  simp only [expire, unexpired, Bool.not_false, if_true]

theorem expire_cases (limit : Nat) (now : Instant) (job : Job) :
    (job.leaseExpired now = false ∧ job.expire limit now = (none, job)) ∨
      (job.leaseExpired now = true ∧ job.hasAttempts limit = true ∧
        job.expire limit now = (some .requeued, job.requeuedAt now)) ∨
      (job.leaseExpired now = true ∧ job.hasAttempts limit = false ∧
        job.expire limit now = (some .lost, job.counted.giveUp now)) := by
  cases expired : job.leaseExpired now with
  | false => exact .inl ⟨rfl, expire_unexpired limit expired⟩
  | true =>
      rcases Nat.lt_or_ge (countLoss job.attemptCount) limit with remaining | used
      · exact .inr (.inl ⟨rfl, decide_eq_true remaining, expire_remaining expired remaining⟩)
      · exact .inr (.inr ⟨rfl, decide_eq_false (Nat.not_lt.mpr used), expire_used expired used⟩)

/-- Expiry leaves no lease that is over. -/
theorem unexpired_of_expire (limit : Nat) (now : Instant) (job : Job) :
    (job.expire limit now).2.leaseExpired now = false := by
  rcases expire_cases limit now job with ⟨unexpired, same⟩ | ⟨_, _, returned⟩ | ⟨_, _, lost⟩
  · rw [same, unexpired]
  · rw [returned]
    rfl
  · rw [lost]
    rfl

/-- A job that expiry leaves queued was queued before, or has just been returned. -/
theorem queued_expire (queued : (job.expire limit now).2.status = .queued) :
    (job.leaseExpired now = false ∧ (job.expire limit now).2 = job) ∨
      (job.leaseExpired now = true ∧ job.hasAttempts limit = true ∧
        (job.expire limit now).2 = job.requeuedAt now) := by
  rcases expire_cases limit now job with
    ⟨unexpired, same⟩ | ⟨expired, remaining, returned⟩ | ⟨_, _, lost⟩
  · exact .inl ⟨unexpired, congrArg Prod.snd same⟩
  · exact .inr ⟨expired, remaining, congrArg Prod.snd returned⟩
  · rw [lost] at queued
    cases queued

theorem unexpired_of_queued (queued : job.status = .queued) : job.leaseExpired now = false := by
  rw [leaseExpired, queued]
  rfl

theorem unexpired_of_safe (safe : job.status.isTerminal = true ∨ job.leaseLive now = true) :
    job.leaseExpired now = false := by
  rcases safe with ended | live
  · rw [Bool.eq_false_iff]
    intro expired
    rw [unfinished_of_expired expired] at ended
    cases ended
  · rw [leaseExpired, live, Bool.not_true, Bool.and_false]

theorem id_expire (limit : Nat) (now : Instant) (job : Job) :
    (job.expire limit now).2.id = job.id := perform_id limit now job .expire

end Job

end BuildFleet
