import BuildFleet.Proofs.Job.Lasting
import BuildFleet.Proofs.Services.Laws

/-!
# Workers that have lost their job

A worker that holds no live lease on a job can neither extend a lease on it nor complete
it. Only a claim of its own that is granted brings the job back to it, whatever the others
ask in the meantime.
-/

namespace BuildFleet

/-- What is asked of a job, but not in this worker's name. -/
def JobCall.Apart (worker : WorkerId) : JobCall → Prop
  | .claim other _ | .heartbeat other | .complete other _ => other ≠ worker
  | _ => True

/-- The worker has been granted this job. -/
def Happening.Grants (worker : WorkerId) (id : JobId) (happening : Happening) : Prop :=
  ∃ lease job, happening = .called (.store (.claim id worker lease)) (.done job)

/-- The result that the worker reports for this job has been accepted. -/
def Happening.Completes (worker : WorkerId) (id : JobId) (happening : Happening) : Prop :=
  ∃ result, happening = .called (.store (.complete id worker result)) (.done ())

theorem Happening.Completes.answers {worker : WorkerId} {id : JobId} {happening : Happening}
    (completes : happening.Completes worker id) : happening.Answers id := by
  rcases completes with ⟨result, rfl⟩
  exact ⟨.complete worker result, (), rfl⟩

theorem JobCall.Apart.not_grants {worker : WorkerId} {id : JobId} {call : JobCall}
    (apart : call.Apart worker) (outcome : Outcome (call.on id).Answer) :
    ¬ (Happening.called (.store (call.on id)) outcome).Grants worker id := by
  rintro ⟨lease, job, same⟩
  cases call <;> cases same
  exact apart rfl

theorem JobCall.not_completes {worker : WorkerId} {id : JobId} {call : JobCall}
    (other : ∀ result, call ≠ .complete worker result) (outcome : Outcome (call.on id).Answer) :
    ¬ (Happening.called (.store (call.on id)) outcome).Completes worker id := by
  rintro ⟨result, same⟩
  cases call <;> cases same
  exact other result rfl

namespace Job

variable {limit : Nat} {now reading : Instant} {job : Job} {worker : WorkerId}

/-! ## Jobs that are lost to a worker -/

/-- The worker has no live lease on the job and has not completed it. -/
structure Parted (worker : WorkerId) (now : Instant) (job : Job) : Prop where
  uncompleted : job.Uncompleted worker
  unheld : job.owner = some worker → job.leaseLive now = false

theorem leaseLive_of_unleased (unleased : job.status.isLeased = false) :
    job.leaseLive now = false := by
  rw [leaseLive, unleased, Bool.false_and]

theorem leaseLive_of_expired (expired : job.leaseExpired now = true) :
    job.leaseLive now = false := by
  unfold leaseExpired at expired
  rw [Bool.and_eq_true, Bool.not_eq_true'] at expired
  exact expired.2

theorem leaseLive_later {next : Instant} (dead : job.leaseLive now = false) (ordered : now ≤ next) :
    job.leaseLive next = false := by
  rw [Bool.eq_false_iff] at dead ⊢
  intro live
  rcases leaseLive_iff.mp live with ⟨leased, expiry, ends, ahead⟩
  exact dead (leaseLive_iff.mpr ⟨leased, expiry, ends, lt_of_le_of_lt ordered ahead⟩)

theorem Parted.later {next : Instant} (parted : job.Parted worker now) (ordered : now ≤ next) :
    job.Parted worker next :=
  ⟨parted.uncompleted, fun ours => leaseLive_later (parted.unheld ours) ordered⟩

theorem Parted.of_owner {owner : Option WorkerId} (owns : job.owner = owner)
    (other : owner ≠ some worker) : job.Parted worker now :=
  ⟨fun ours => absurd (owns.symm.trans ours) other, fun ours => absurd (owns.symm.trans ours) other⟩

theorem Parted.other (parted : job.Parted worker now) {owner : WorkerId}
    (owned : job.owner = some owner) (live : job.leaseLive now = true) : owner ≠ worker := by
  rintro rfl
  rw [parted.unheld owned] at live
  cases live

/-- The worker does not complete the job, and it does not come to hold it but by a claim. -/
theorem Parted.perform (parted : job.Parted worker now) (id : JobId) (call : JobCall) :
    let performed := job.perform limit now call
    let happening := Happening.called (.store (call.on id)) (call.report id performed.1)
    happening.Grants worker id ∨
      ¬ happening.Completes worker id ∧ performed.2.Parted worker now := by
  let comes (outcome : Outcome call.Answer) (after : Job) : Prop :=
    let happening := Happening.called (.store (call.on id)) (call.report id outcome)
    happening.Grants worker id ∨ ¬ happening.Completes worker id ∧ after.Parted worker now
  have silent : (∀ result, call ≠ .complete worker result) → ∀ {outcome after},
      after.Parted worker now → comes outcome after := fun other _ _ parted =>
    .inr ⟨JobCall.not_completes other _, parted⟩
  have all : comes (job.perform limit now call).1 (job.perform limit now call).2 := by
    refine perform_comes (fun step => ?_) fun halt => ?_
    · cases step with
      | refused =>
          refine .inr ⟨?_, parted⟩
          rintro ⟨result, same⟩
          cases call <;> cases same
      | @granted other lease | @takenOver other lease =>
          by_cases ours : other = worker
          · subst ours
            exact .inl ⟨lease, _, rfl⟩
          · exact silent (by simp) (.of_owner rfl fun same => ours (Option.some.inj same))
      | exhausted | requeued | lost => exact silent (by simp) (.of_owner rfl nofun)
      | renewed owned live =>
          have other := parted.other owned live
          exact silent (by simp) (.of_owner owned fun same => other (Option.some.inj same))
      | repeated ended owned =>
          refine silent (fun result same => ?_) parted
          cases same
          rcases parted.uncompleted owned with ⟨unsuccessful, unfailed⟩
          exact ended.elim unsuccessful unfailed
      | completed _ owned live =>
          have other := parted.other owned live
          refine silent (fun result same => ?_)
            (.of_owner owned fun same => other (Option.some.inj same))
          cases same
          exact other rfl
      | cancelled => exact silent (by simp) ⟨fun _ => ⟨nofun, nofun⟩, fun _ => rfl⟩
      | kept => exact silent (by simp) parted
    · cases halt with
      | @granting other lease queued =>
          have waits : (job.assignedTo other lease).status = .queued := queued
          refine silent (by simp) ⟨fun _ => ?_, fun _ => leaseLive_of_unleased ?_⟩
          · rw [waits]
            exact ⟨nofun, nofun⟩
          · rw [waits]
            rfl
      | takingOver expired =>
          exact silent (by simp) ⟨uncompleted_of_leased (leaseExpired_iff.mp expired).1,
            fun _ => leaseLive_of_expired expired⟩
      | renewing => exact silent (by simp) parted
  exact all

/-- What others ask does not bring the job back. -/
theorem Parted.law (worker : WorkerId) (now : Instant) :
    Law (JobCall.Apart worker) now (Parted worker now) where
  made _ _ _ := .of_owner rfl nofun
  kept limit job call apart parted := by
    exact ((parted.perform job.id call).resolve_left (apart.not_grants _)).2

/-! ## Leases that a worker has extended -/

/-- The worker has not completed the job, and the lease that it holds, if any, was given
out or extended at this reading or later. -/
structure Extended (worker : WorkerId) (reading : Instant) (job : Job) : Prop where
  uncompleted : job.Uncompleted worker
  ends : job.owner = some worker → job.status.isLeased = true →
    ∃ expiry, job.leaseExpiry = some expiry ∧ reading ≤ expiry

theorem Extended.of_owner {owner : Option WorkerId} (owns : job.owner = owner)
    (other : owner ≠ some worker) : job.Extended worker reading :=
  ⟨fun ours => absurd (owns.symm.trans ours) other, fun ours => absurd (owns.symm.trans ours) other⟩

/-- What others ask does not shorten the lease of the worker. -/
theorem Extended.law (worker : WorkerId) (reading now : Instant) :
    Law (JobCall.Apart worker) now (Extended worker reading) where
  made _ _ _ := .of_owner rfl nofun
  kept limit job call apart extended := by
    have foreign : ∀ {other}, other ≠ worker → some other ≠ some worker := fun other same =>
      other (Option.some.inj same)
    refine perform_leaves (fun step => ?_) fun halt => ?_
    · cases step with
      | refused | repeated | kept => exact extended
      | granted | takenOver => exact .of_owner rfl (foreign apart)
      | exhausted | requeued | lost => exact .of_owner rfl nofun
      | renewed owned | completed _ owned => exact .of_owner owned (foreign apart)
      | cancelled => exact ⟨fun _ => ⟨nofun, nofun⟩, nofun⟩
    · cases halt with
      | granting | takingOver => exact .of_owner rfl (foreign apart)
      | renewing => exact extended

theorem Extended.of_renewed {expiry : Instant} (nonneg : job.LeaseNonneg)
    (ends : now.addMilliseconds? job.leaseMs = some expiry) :
    (job.renewedUntil expiry now).Extended worker now :=
  ⟨uncompleted_of_leased rfl, fun _ _ =>
    ⟨expiry, rfl, Instant.le_of_addMilliseconds? nonneg ends⟩⟩

theorem Parted.result_eq (parted : job.Parted worker now) (reported : job.Reported)
    (ours : job.owner = some worker) : job.result = none := by
  rcases parted.uncompleted ours with ⟨unsuccessful, unfailed⟩
  exact reported.result_eq unsuccessful unfailed

end Job

end BuildFleet
