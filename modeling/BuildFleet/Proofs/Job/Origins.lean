import BuildFleet.Proofs.Job.Halt
import BuildFleet.Proofs.Job.Written

/-!
# Where jobs come from

Jobs are submitted or read, and calls change them. Whatever calls are made, also those
that stop because a time leaves the calendar, a job keeps members that can be written
and read again; and so does the event that tells of it.
-/

namespace BuildFleet

open Json (Obtained)

/-- The result that a call reports fits its members. -/
def JobCall.Fits (call : JobCall) : Prop :=
  ∀ worker result, call = .complete worker result → result.Fits

/-- The jobs that readers and the state machine produce. -/
inductive Job.Arises : Job → Prop
  | submitted (id : JobId) (target : Target) {payload : Json} (sorted : payload.Sorted)
      (now : Instant) : Job.Arises (.new id target payload now)
  | read {job : Job} (obtained : Obtained Job.reader job) : Job.Arises job
  | called {job : Job} (before : Job.Arises job) (limit : Nat) (now : Instant) {call : JobCall}
      (fits : call.Fits) : Job.Arises (job.perform limit now call).2

/-- The events that are read or that tell of a job. -/
inductive JobEvent.Arises : JobEvent → Prop
  | read {event : JobEvent} (obtained : Obtained JobEvent.reader event) : JobEvent.Arises event
  | announced {number : Int} (above : -9223372036854775808 ≤ number)
      (below : number ≤ 9223372036854775807) {job : Job} (arises : job.Arises) (now : Instant) :
      JobEvent.Arises (.ofJob number job now)

/-- The results that are read or reported. -/
inductive JobResult.Arises : JobResult → Prop
  | read {result : JobResult} (obtained : Obtained JobResult.reader result) :
      JobResult.Arises result
  | reported {result : JobResult} (fits : result.Fits) : JobResult.Arises result

theorem JobResult.Arises.fits {result : JobResult} (arises : result.Arises) : result.Fits := by
  cases arises with
  | reported fits => exact fits
  | read obtained =>
      rcases obtained.found with ⟨_, _, plain, read⟩
      exact JobResult.fits_of_read plain read

namespace Job

variable {limit : Nat} {now : Instant} {job after : Job} {call : JobCall}

/-- The status, the owner and the times of a job are of no account. -/
theorem Fits.congr (fits : job.Fits) (payload : after.payload = job.payload)
    (leaseMs : after.leaseMs = job.leaseMs) (attempts : after.attemptCount = job.attemptCount)
    (result : after.result = job.result) : after.Fits := by
  constructor
  · rw [payload]
    exact fits.payload
  · rw [leaseMs]
    exact fits.leaseMs
  · rw [attempts]
    exact fits.attemptCount
  · rw [result]
    exact fits.result

theorem new_fits (id : JobId) (target : Target) {payload : Json} (sorted : payload.Sorted)
    (now : Instant) : (Job.new id target payload now).Fits where
  payload := sorted
  leaseMs := (by decide : -9223372036854775808 ≤ (0 : Int) ∧ (0 : Int) ≤ 9223372036854775807)
  attemptCount := Nat.zero_le _
  result := fun _ none => by cases none

theorem Fits.counted (fits : job.Fits) : job.counted.Fits where
  payload := fits.payload
  leaseMs := fits.leaseMs
  attemptCount := Nat.le_of_lt_succ (Nat.mod_lt _ (by decide))
  result := fits.result

theorem leaseMilliseconds_le (lease : Span) :
    leaseMilliseconds lease ≤ 9223372036854775807 := by
  unfold leaseMilliseconds
  split <;> omega

theorem Fits.assignedTo (fits : job.Fits) (worker : WorkerId) (lease : Span) :
    (job.assignedTo worker lease).Fits where
  payload := fits.payload
  leaseMs := ⟨Int.le_trans (by decide) (leaseMilliseconds_nonneg lease), leaseMilliseconds_le lease⟩
  attemptCount := fits.attemptCount
  result := fits.result

theorem Fits.endedWith (fits : job.Fits) {result : JobResult} (reported : result.Fits)
    (now : Instant) : (job.endedWith result now).Fits where
  payload := fits.payload
  leaseMs := fits.leaseMs
  attemptCount := fits.attemptCount
  result := fun _ same => Option.some.inj same ▸ reported

theorem Step.fits {outcome : Outcome call.Answer} (step : Step limit now job call outcome after)
    (reported : call.Fits) (fits : job.Fits) : after.Fits := by
  cases step with
  | refused => exact fits
  | repeated => exact fits
  | kept => exact fits
  | @granted worker lease => exact (fits.assignedTo worker lease).congr rfl rfl rfl rfl
  | @takenOver worker lease => exact (fits.counted.assignedTo worker lease).congr rfl rfl rfl rfl
  | exhausted => exact fits.counted.congr rfl rfl rfl rfl
  | renewed => exact fits.congr rfl rfl rfl rfl
  | @completed worker result => exact fits.endedWith (reported worker result rfl) now
  | cancelled => exact fits.congr rfl rfl rfl rfl
  | requeued => exact fits.counted.congr rfl rfl rfl rfl
  | lost => exact fits.counted.congr rfl rfl rfl rfl

theorem Halt.fits (halt : Halt limit now job call after) (fits : job.Fits) : after.Fits := by
  cases halt with
  | @granting worker lease => exact fits.assignedTo worker lease
  | @takingOver worker lease => exact fits.counted.assignedTo worker lease
  | renewing => exact fits

theorem perform_fits (limit : Nat) (now : Instant) (reported : call.Fits) (fits : job.Fits) :
    (job.perform limit now call).2.Fits := by
  by_cases beyond : (job.perform limit now call).1 = .outOfTime
  · exact (perform_halt beyond).fits fits
  · exact (perform_step beyond).fits reported fits

theorem Arises.fits (arises : job.Arises) : job.Fits := by
  induction arises with
  | submitted id target sorted now => exact new_fits id target sorted now
  | read obtained =>
      rcases obtained.found with ⟨_, _, plain, read⟩
      exact (fits_of_read plain read).1
  | called _ limit now reported fits => exact perform_fits limit now reported fits

end Job

theorem JobEvent.Arises.fits {event : JobEvent} (arises : event.Arises) : event.Fits := by
  cases arises with
  | read obtained =>
      rcases obtained.found with ⟨_, _, plain, read⟩
      exact JobEvent.fits_of_read plain read
  | announced above below arises now => exact ⟨⟨above, below⟩, arises.fits.result⟩

end BuildFleet
