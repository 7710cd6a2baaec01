import BuildFleet.Proofs.Job.Expiry
import BuildFleet.Proofs.Store.Run

/-!
# Takeover of an expired lease

A worker may claim a job whose lease has expired before the monitor looks at
it. The store is then the same as if the monitor had expired the lease first
and the worker had claimed the job afterwards: the lost attempt is counted
once, the last one gives the job up, and its end is announced once.
-/

namespace BuildFleet

namespace Store

variable {settings : StoreSettings} {now : Instant} {store : Store} {id : JobId}
  {job : Job} {worker : WorkerId} {lease : Span}

/-! ## Changing one job twice -/

theorem replace_replace {middle changed : Job} (sameId : middle.id = changed.id) :
    (store.replace middle).replace changed = store.replace changed := by
  simp only [replace, List.map_map]
  congr 1
  apply List.map_congr_left
  intro job _
  simp only [Function.comp_apply, sameId]
  split <;> rfl

/-- A change that ends nothing leaves no event. -/
theorem mutate_unfinished {transition : Job → Outcome α × Job}
    (found : store.job? id = some job) (unfinished : (transition job).2.status.isTerminal = false) :
    store.mutate id transition now = ((transition job).1, store.replace (transition job).2) := by
  by_cases beyond : (transition job).1 = .outOfTime
  · rw [mutate_outOfTime found beyond, beyond]
  · rw [mutate_found found beyond, if_neg (by simp [unfinished])]

/-! ## The two ways -/

/-- What a claim does that ends no job. -/
theorem claim_unfinished {outcome : Outcome Unit} {after : Job}
    (found : store.job? id = some job)
    (answer : job.claim worker lease settings.maxAttempts now = (outcome, after))
    (unfinished : after.status.isTerminal = false) :
    store.claim settings id worker lease now =
      (outcome.map fun _ => after, store.replace after) := by
  rw [claim, mutate_unfinished found (by rw [answer]; exact unfinished), answer]

/-- A job whose last attempt is lost ends by a claim as it does by expiry, and a
claim that follows is refused. -/
theorem takeover_used (worker : WorkerId) (lease : Span)
    (found : store.job? id = some job) (expired : job.leaseExpired now = true)
    (used : settings.maxAttempts ≤ Job.countLoss job.attemptCount) :
    ∃ loss refusal ended,
      store.claim settings id worker lease now = (.failed (.lost loss), ended) ∧
      store.expireLease settings id now = (.done (some .lost), ended) ∧
      ended.claim settings id worker lease now = (.failed (.conflict refusal), ended) := by
  let lost := job.counted.giveUp now
  rcases Job.claim_used worker lease expired used with ⟨loss, claimed⟩
  rcases Job.claim_terminal settings.maxAttempts now worker lease
    (show lost.status.isTerminal = true from rfl) with ⟨refusal, refused⟩
  have newEnd : lost.status ≠ job.status ∧ lost.status.isTerminal = true := by
    refine ⟨fun same => ?_, rfl⟩
    have unfinished := Job.unfinished_of_expired expired
    rw [← same] at unfinished
    cases unfinished
  have present : ((store.replace lost).announce lost now).job? id = some lost :=
    (job?_announce lost).trans (job?_replace_self found rfl)
  have unchanged : ((store.replace lost).announce lost now).replace lost =
      (store.replace lost).announce lost now :=
    congrArg (·.announce lost now) (replace_replace rfl)
  refine ⟨loss, refusal, (store.replace lost).announce lost now, ?_, ?_, ?_⟩
  · rw [claim, mutate_found found (by simp [claimed, Outcome.map])]
    simp only [claimed, Outcome.map]
    rw [if_pos newEnd]
  · rw [expireLease, mutate_found found (by simp)]
    simp only [Job.expire_used expired used]
    rw [if_pos newEnd]
  · rw [claim, mutate_found present (by simp [refused, Outcome.map])]
    simp only [refused, Outcome.map, ne_eq, not_true_eq_false, false_and, if_false, unchanged]

theorem expireLease_remaining (found : store.job? id = some job)
    (expired : job.leaseExpired now = true)
    (remaining : Job.countLoss job.attemptCount < settings.maxAttempts) :
    store.expireLease settings id now =
      (.done (some .requeued), store.replace (job.requeuedAt now)) := by
  have requeued := Job.expire_remaining expired remaining
  rw [expireLease, mutate_unfinished found (by rw [requeued]; rfl), requeued]

/-- A job with attempts left goes to the worker in either way, or both claims
stop for want of an end of the lease. -/
theorem takeover_remaining (worker : WorkerId) (lease : Span)
    (found : store.job? id = some job) (expired : job.leaseExpired now = true)
    (remaining : Job.countLoss job.attemptCount < settings.maxAttempts) :
    ∃ requeued, store.expireLease settings id now = (.done (some .requeued), requeued) ∧
      ((∃ leased, store.claim settings id worker lease now = (.done leased, store.replace leased) ∧
          requeued.claim settings id worker lease now = (.done leased, store.replace leased)) ∨
        ∃ taken retaken,
          store.claim settings id worker lease now = (.outOfTime, store.replace taken) ∧
          requeued.claim settings id worker lease now = (.outOfTime, store.replace retaken)) := by
  refine ⟨store.replace (job.requeuedAt now), expireLease_remaining found expired remaining, ?_⟩
  have present : (store.replace (job.requeuedAt now)).job? id = some (job.requeuedAt now) :=
    job?_replace_self found rfl
  have taking := Job.claim_remaining worker lease expired remaining
  have retaking : (job.requeuedAt now).claim worker lease settings.maxAttempts now =
    (job.requeuedAt now).grant worker lease now := Job.claim_queued rfl
  rcases job.counted.grant_cases worker lease now with ⟨expiry, ends, granted⟩ | ⟨beyond, halted⟩
  · rw [granted] at taking
    rw [Job.grant_done ends] at retaking
    have sameId : (job.requeuedAt now).id =
      ((job.requeuedAt now).leasedTo worker lease expiry now).id := rfl
    refine .inl ⟨job.counted.leasedTo worker lease expiry now,
      claim_unfinished found taking rfl, ?_⟩
    rw [claim_unfinished present retaking rfl, replace_replace sameId]
    rfl
  · rw [halted] at taking
    rw [Job.grant_halted beyond] at retaking
    have sameId : (job.requeuedAt now).id =
      ((job.requeuedAt now).assignedTo worker lease).id := rfl
    refine .inr ⟨job.counted.assignedTo worker lease, (job.requeuedAt now).assignedTo worker lease,
      claim_unfinished found taking (Job.unfinished_of_expired expired), ?_⟩
    rw [claim_unfinished present retaking rfl, replace_replace sameId]
    rfl

/-- A claim of a job whose lease has expired does what expiry and a claim after
it do: it leaves the same store and gives the same job, and it tells of the lost
job exactly when the expiry does. If one of the two claims computes a time
outside the calendar, so does the other. -/
theorem takeover_agrees_with_recovery (settings : StoreSettings) (worker : WorkerId) (lease : Span)
    (found : store.job? id = some job) (expired : job.leaseExpired now = true) :
    let taken := store.claim settings id worker lease now
    let recovered := store.expireLease settings id now
    let retaken := recovered.2.claim settings id worker lease now
    recovered.1 ≠ .outOfTime ∧
      (taken.1 = .outOfTime ↔ retaken.1 = .outOfTime) ∧
      (taken.1 ≠ .outOfTime → taken.2 = retaken.2) ∧
      taken.2.outbox = retaken.2.outbox ∧
      (∀ leased, taken.1 = .done leased ↔ retaken.1 = .done leased) ∧
      ((∃ message, taken.1 = .failed (.lost message)) ↔ recovered.1 = .done (some .lost)) := by
  dsimp only
  rcases Nat.lt_or_ge (Job.countLoss job.attemptCount) settings.maxAttempts with remaining | used
  · rcases takeover_remaining worker lease found expired remaining with
      ⟨requeued, expiry, ⟨leased, taken, retaken⟩ | ⟨left, right, taken, retaken⟩⟩
    · rw [taken, expiry, retaken]
      simp
    · rw [taken, expiry, retaken]
      simp [replace]
  · rcases takeover_used worker lease found expired used with
      ⟨loss, refusal, ended, taken, expiry, refused⟩
    rw [taken, expiry, refused]
    simp

/-- In the sample run the second job holds its last lease from second 13 to 18. -/
theorem sample_takeover_agrees :
    let store := Store.empty.afterCalls Sample.settings (Sample.calls.take 12)
    let now := Sample.reading 18
    let taken := store.claim Sample.settings Sample.secondJob ⟨"a"⟩ Sample.lease now
    let recovered := store.expireLease Sample.settings Sample.secondJob now
    (∃ job, store.job? Sample.secondJob = some job ∧ job.leaseExpired now = true) ∧
      taken.1 ≠ .outOfTime ∧
      taken.2 = (recovered.2.claim Sample.settings Sample.secondJob ⟨"a"⟩ Sample.lease now).2 ∧
      recovered.1 = .done (some .lost) ∧ ∃ message, taken.1 = .failed (.lost message) := by
  intro store now taken recovered
  have expiredLease : (store.job? Sample.secondJob).any (·.leaseExpired now) = true := by decide
  rcases (Option.any_eq_true _ _).mp expiredLease with ⟨job, found, expired⟩
  rcases takeover_agrees_with_recovery Sample.settings ⟨"a"⟩ Sample.lease found expired with
    ⟨_, _, same, _, _, lost⟩
  have inTime : taken.1 ≠ .outOfTime := by decide
  have recoveredLost : recovered.1 = .done (some .lost) := by decide
  exact ⟨⟨job, found, expired⟩, inTime, same inTime, recoveredLost, lost.mpr recoveredLost⟩

end Store

end BuildFleet
