import BuildFleet.Proofs.Job.Origins
import BuildFleet.Proofs.Job.Rows
import BuildFleet.Proofs.Payload.Written

/-!
# Records survive

Jobs, events, results and requests are found again in what is written for them. They
may be kept as values, with their members as they were written or in order, or as
texts, as long as what the fleet does not look into can be spelled. Jobs are also found
again in the rows of a table.
-/

namespace BuildFleet

open Json (Obtained ReadsBack readAs readText)

/-! ## All that fits arises -/

theorem JobResult.arises_iff_fits {result : JobResult} : result.Arises ↔ result.Fits :=
  ⟨Arises.fits, .reported⟩

/-- Readers produce every job whose members fit: it is read from its own JSON. -/
theorem Job.arises_iff_fits {job : Job} : job.Arises ↔ job.Fits :=
  ⟨Arises.fits, fun fits =>
    .read (.fromValue (fits.echoes .value _ .written (Json.Context.admits_value _)))⟩

theorem JobEvent.arises_iff_fits {event : JobEvent} : event.Arises ↔ event.Fits :=
  ⟨Arises.fits, fun fits =>
    .read (.fromValue (fits.echoes .value _ .written (Json.Context.admits_value _)))⟩

theorem BuildRequest.obtained_iff_fits {request : BuildRequest} :
    Obtained reader request ↔ request.Fits := by
  constructor
  · intro obtained
    rcases obtained.found with ⟨_, _, plain, read⟩
    exact (fits_of_read plain read).1
  · intro fits
    exact .fromValue (fits.echoes .value _ .written (Json.Context.admits_value _))

/-! ## Reading back -/

/-- A build in a leap second whose environment failed. -/
def Job.sampleFailed : Job where
  id := .ofNat 7
  target := ⟨"x86_64"⟩
  payload := .object [("git_ref", .string "v1\n"), ("packages", .array [])]
  status := .failed
  owner := some ⟨"host/x86_64/1"⟩
  leaseExpiry := none
  leaseMs := 60000
  attemptCount := 1
  createdAt := .epoch
  updatedAt := ⟨1483228799, 1500000000, by decide, by decide⟩
  result := some (.failed (.environment "no \"space\""))

theorem Job.sampleFailed_fits : Job.sampleFailed.Fits where
  payload :=
    have ascending : ["git_ref", "packages"].Pairwise (· < ·) := by decide
    ⟨ascending, trivial, trivial, trivial⟩
  leaseMs := by decide
  attemptCount := by decide
  result := by
    rintro result ⟨⟩
    exact ⟨fun _ none => (by cases none), by decide⟩

theorem Job.sampleFailed_spelled : Job.sampleFailed.payload.Spelled 126 :=
  Json.spelled_object (List.forall_mem_cons.mpr ⟨Json.spelled_string _,
    List.forall_mem_cons.mpr ⟨Json.spelled_strings [], fun _ none => by cases none⟩⟩)

end BuildFleet
