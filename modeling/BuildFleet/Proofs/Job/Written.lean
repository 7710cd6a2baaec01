import BuildFleet.Job.Event
import BuildFleet.Proofs.Identity.Written
import BuildFleet.Proofs.Json.Copies
import BuildFleet.Proofs.Json.Found
import BuildFleet.Proofs.Time.Written

/-!
# Jobs survive writing and reading

The reader of each part of a job understands what is written for it, as long as its
numbers have the width of their members and the objects of its payload are in order.
Results, events and jobs are put together from such parts.
-/

namespace BuildFleet

open Json (Context Copy Copies Echoes Source)
open Json.RecordReader (Lawful lawful_required lawful_nullable seq_builds map_builds
  seq_build_iff required_build_iff
  nullable_build mem_of_lookup)

/-! ## Parts -/

theorem JobStatus.echoes (status : JobStatus) : Echoes toJson reader status :=
  Json.echoes_of_sorted (by trivial) fun _ _ => by cases status <;> rfl

theorem WorkerId.echoes (worker : WorkerId) : Echoes toJson reader worker :=
  Json.echoes_of_sorted (by trivial) fun _ _ => rfl

theorem Target.echoes (target : Target) : Echoes toJson reader target :=
  Json.echoes_of_sorted (by trivial) fun _ _ => rfl

theorem JobId.echoes (id : JobId) : Echoes toJson reader id := by
  apply Json.echoes_of_sorted (by trivial)
  intro context _
  simp only [reader, toJson, Json.source, Json.readString, Json.bind_eq_ok]
  exact ⟨_, rfl, by rw [ofText?_text]⟩

theorem Instant.echoes (instant : Instant) : Echoes toJson reader instant := by
  apply Json.echoes_of_sorted (by trivial)
  intro context _
  simp only [reader, toJson, Json.source, Json.readString, Json.bind_eq_ok]
  exact ⟨_, rfl, by rw [ofText?_text]⟩

theorem FailureCause.sorted_toJson (cause : FailureCause) : cause.toJson.Sorted := by
  cases cause with
  | exit => exact ⟨List.pairwise_singleton _ _, trivial, trivial⟩
  | timeout => exact ⟨List.pairwise_singleton _ _, trivial, trivial⟩
  | environment message =>
      have ascending : ["kind", "message"].Pairwise (· < ·) := by decide
      exact ⟨ascending, trivial, trivial, trivial⟩

theorem FailureCause.echoes (cause : FailureCause) : Echoes toJson reader cause := by
  apply Json.echoes_of_sorted cause.sorted_toJson
  intro context admits
  have levels : cause.toJson.nesting = 0 + 1 := by cases cause <;> rfl
  rw [levels] at admits
  rcases admits.enter with ⟨inner, entered, _⟩
  cases cause <;>
  · show (context.enter >>= fun inner => _) = _
    rw [entered]
    rfl

theorem FailureCause.spelled (cause : FailureCause) : cause.toJson.Spelled 1 := by
  cases cause <;> exact Json.spelled_object (by simp [Json.spelled_string])

/-! ## Results -/

namespace JobResult

/-- How the members of a result are read. -/
def record : Json.RecordReader JobResult :=
  JobResult.mk <$>
    .required "success" Json.readBool <*>
    .nullable "exit_code" Json.readInt32 <*>
    .nullable "log_ref" Json.readString <*>
    .nullable "artifact_ref" Json.readString <*>
    .nullable "cause" FailureCause.reader <*>
    .required "elapsed_ms" Json.readNat64 <*>
    .nullable "worker" WorkerId.reader

theorem lawful : record.Lawful :=
  (((((((lawful_required _ _).map _).seq (lawful_nullable _ _)).seq (lawful_nullable _ _)).seq
    (lawful_nullable _ _)).seq (lawful_nullable _ _)).seq (lawful_required _ _)).seq
    (lawful_nullable _ _)

/-- The numbers have the width of their members. -/
structure Fits (result : JobResult) : Prop where
  exitCode : ∀ code ∈ result.exitCode, -2147483648 ≤ code ∧ code ≤ 2147483647
  elapsedMs : result.elapsedMs ≤ 18446744073709551615

theorem Fits.echoes {result : JobResult} (fits : result.Fits) : Echoes toJson reader result := by
  refine lawful.echoes rfl (by simp) ?_ "JobResult"
  intro inner others copies admits
  cases result
  refine seq_builds (seq_builds (seq_builds (seq_builds (seq_builds (seq_builds (map_builds ?_)
    ?_) ?_) ?_) ?_) ?_) ?_
  · exact copies.required rfl (Json.echoes_bool _) admits
  · apply copies.nullable rfl _ admits
    exact fun code given => ⟨Json.noConfusion,
      Json.echoes_integer (fits.exitCode code given).1 (fits.exitCode code given).2⟩
  · exact copies.nullable rfl (fun text _ => ⟨Json.noConfusion, Json.echoes_string text⟩) admits
  · exact copies.nullable rfl (fun text _ => ⟨Json.noConfusion, Json.echoes_string text⟩) admits
  · exact copies.nullable rfl (fun cause _ => ⟨by cases cause <;> exact Json.noConfusion,
      cause.echoes⟩) admits
  · exact copies.required rfl (Json.echoes_nat64 fits.elapsedMs) admits
  · exact copies.nullable rfl (fun worker _ => ⟨Json.noConfusion, worker.echoes⟩) admits

theorem Fits.spelled {result : JobResult} (fits : result.Fits) : result.toJson.Spelled 2 := by
  apply Json.spelled_object
  simp only [List.forall_mem_cons, List.not_mem_nil, false_implies, implies_true, and_true]
  refine ⟨Json.spelled_bool _, ?_, ?_, ?_, ?_, Json.spelled_natural fits.elapsedMs, ?_⟩
  · apply Json.spelled_ofOption
    intro code given
    have bounds := fits.exitCode code given
    exact Json.spelled_integer (by omega) (by omega)
  · exact Json.spelled_ofOption fun text _ => Json.spelled_string text
  · exact Json.spelled_ofOption fun text _ => Json.spelled_string text
  · exact Json.spelled_ofOption fun cause _ => cause.spelled
  · exact Json.spelled_ofOption fun worker _ => Json.spelled_string worker.text

theorem fits_of_read {context : Context} {found : Source} {result : JobResult}
    (plain : found.Plain) (read : reader context found = .ok result) : result.Fits := by
  rcases Json.RecordReader.read_builds plain read with ⟨_, _, _, built, _⟩
  rcases seq_build_iff.mp built with ⟨_, worker, six, _, rfl⟩
  rcases seq_build_iff.mp six with ⟨_, elapsed, five, elapsedRead, rfl⟩
  rcases seq_build_iff.mp five with ⟨_, cause, four, _, rfl⟩
  rcases seq_build_iff.mp four with ⟨_, artifact, three, _, rfl⟩
  rcases seq_build_iff.mp three with ⟨_, log, two, _, rfl⟩
  rcases seq_build_iff.mp two with ⟨_, exitCode, one, exitRead, rfl⟩
  rcases Json.map_eq_ok.mp one with ⟨success, _, rfl⟩
  constructor
  · intro code given
    rcases nullable_build exitRead code given with ⟨_, _, answer⟩
    exact Json.readInteger_bounds answer
  · rcases required_build_iff.mp elapsedRead with ⟨_, _, answer⟩
    exact Int.ofNat_le.mp (Json.readNatural_bound answer)

end JobResult

/-! ## Events -/

namespace JobEvent

/-- How the members of an event are read. -/
def record : Json.RecordReader JobEvent :=
  JobEvent.mk <$>
    .required "id" Json.readInt64 <*>
    .required "job_id" JobId.reader <*>
    .required "target" Target.reader <*>
    .required "status" JobStatus.reader <*>
    .nullable "result" JobResult.reader <*>
    .required "created_at" Instant.reader

theorem lawful : record.Lawful :=
  ((((((lawful_required _ _).map _).seq (lawful_required _ _)).seq (lawful_required _ _)).seq
    (lawful_required _ _)).seq (lawful_nullable _ _)).seq (lawful_required _ _)

/-- The numbers have the width of their members. -/
structure Fits (event : JobEvent) : Prop where
  number : -9223372036854775808 ≤ event.number ∧ event.number ≤ 9223372036854775807
  result : ∀ result ∈ event.result, result.Fits

theorem Fits.echoes {event : JobEvent} (fits : event.Fits) : Echoes toJson reader event := by
  refine lawful.echoes rfl (by simp) ?_ "JobEvent"
  intro inner others copies admits
  cases event
  refine seq_builds (seq_builds (seq_builds (seq_builds (seq_builds (map_builds ?_) ?_) ?_) ?_)
    ?_) ?_
  · exact copies.required rfl (Json.echoes_integer fits.number.1 fits.number.2) admits
  · exact copies.required rfl (JobId.echoes _) admits
  · exact copies.required rfl (Target.echoes _) admits
  · exact copies.required rfl (JobStatus.echoes _) admits
  · exact copies.nullable rfl (fun result given =>
      ⟨Json.noConfusion, (fits.result result given).echoes⟩) admits
  · exact copies.required rfl (Instant.echoes _) admits

theorem Fits.spelled {event : JobEvent} (fits : event.Fits) : event.toJson.Spelled 127 := by
  apply Json.spelled_object
  simp only [List.forall_mem_cons, List.not_mem_nil, false_implies, implies_true, and_true]
  have number := fits.number
  refine ⟨Json.spelled_integer (by omega) (by omega), Json.spelled_string _, Json.spelled_string _,
    Json.spelled_string _, ?_, Json.spelled_string _⟩
  apply Json.spelled_ofOption
  intro result given
  exact (fits.result result given).spelled.mono (by decide)

theorem fits_of_read {context : Context} {found : Source} {event : JobEvent}
    (plain : found.Plain) (read : reader context found = .ok event) : event.Fits := by
  rcases Json.RecordReader.read_builds plain read with ⟨inner, members, _, built, parts⟩
  rcases seq_build_iff.mp built with ⟨_, created, five, _, rfl⟩
  rcases seq_build_iff.mp five with ⟨_, result, four, resultRead, rfl⟩
  rcases seq_build_iff.mp four with ⟨_, status, three, _, rfl⟩
  rcases seq_build_iff.mp three with ⟨_, target, two, _, rfl⟩
  rcases seq_build_iff.mp two with ⟨_, job, one, _, rfl⟩
  rcases Json.map_eq_ok.mp one with ⟨number, numberRead, rfl⟩
  constructor
  · rcases required_build_iff.mp numberRead with ⟨_, _, read⟩
    exact Json.readInteger_bounds read
  · intro result given
    rcases nullable_build resultRead result given with ⟨found, there, read⟩
    exact JobResult.fits_of_read (parts _ (mem_of_lookup there)) read

end JobEvent

/-! ## Jobs -/

namespace Job

/-- How the members of a job are read. -/
def record : Json.RecordReader Job :=
  Job.mk <$>
    .required "id" JobId.reader <*>
    .required "target" Target.reader <*>
    .required "payload" Json.readValue <*>
    .required "status" JobStatus.reader <*>
    .nullable "owner" WorkerId.reader <*>
    .nullable "lease_expiry" Instant.reader <*>
    .required "lease_ms" Json.readInt64 <*>
    .required "attempt_count" Json.readNat32 <*>
    .required "created_at" Instant.reader <*>
    .required "updated_at" Instant.reader <*>
    .nullable "result" JobResult.reader

theorem lawful : record.Lawful :=
  (((((((((((lawful_required _ _).map _).seq (lawful_required _ _)).seq (lawful_required _ _)).seq
    (lawful_required _ _)).seq (lawful_nullable _ _)).seq (lawful_nullable _ _)).seq
    (lawful_required _ _)).seq (lawful_required _ _)).seq (lawful_required _ _)).seq
    (lawful_required _ _)).seq (lawful_nullable _ _)

/-- The numbers have the width of their members, and the objects of the payload are in
order. -/
structure Fits (job : Job) : Prop where
  payload : job.payload.Sorted
  leaseMs : -9223372036854775808 ≤ job.leaseMs ∧ job.leaseMs ≤ 9223372036854775807
  attemptCount : job.attemptCount ≤ 4294967295
  result : ∀ result ∈ job.result, result.Fits

theorem Fits.echoes {job : Job} (fits : job.Fits) : Echoes toJson reader job := by
  refine lawful.echoes rfl (by simp) ?_ "Job"
  intro inner others copies admits
  cases job
  refine seq_builds (seq_builds (seq_builds (seq_builds (seq_builds (seq_builds (seq_builds
    (seq_builds (seq_builds (seq_builds (map_builds ?_) ?_) ?_) ?_) ?_) ?_) ?_) ?_) ?_) ?_) ?_
  · exact copies.required rfl (JobId.echoes _) admits
  · exact copies.required rfl (Target.echoes _) admits
  · exact copies.required rfl (Json.echoes_value fits.payload) admits
  · exact copies.required rfl (JobStatus.echoes _) admits
  · exact copies.nullable rfl (fun owner _ => ⟨Json.noConfusion, owner.echoes⟩) admits
  · exact copies.nullable rfl (fun expiry _ => ⟨Json.noConfusion, expiry.echoes⟩) admits
  · exact copies.required rfl (Json.echoes_integer fits.leaseMs.1 fits.leaseMs.2) admits
  · exact copies.required rfl (Json.echoes_nat32 fits.attemptCount) admits
  · exact copies.required rfl (Instant.echoes _) admits
  · exact copies.required rfl (Instant.echoes _) admits
  · exact copies.nullable rfl (fun result given =>
      ⟨Json.noConfusion, (fits.result result given).echoes⟩) admits

theorem Fits.spelled {job : Job} (fits : job.Fits) (payload : job.payload.Spelled 126) :
    job.toJson.Spelled 127 := by
  apply Json.spelled_object
  simp only [List.forall_mem_cons, List.not_mem_nil, false_implies, implies_true, and_true]
  have leaseMs := fits.leaseMs
  refine ⟨Json.spelled_string _, Json.spelled_string _, payload, Json.spelled_string _, ?_, ?_,
    Json.spelled_integer (by omega) (by omega),
    Json.spelled_natural (Nat.le_trans fits.attemptCount (by decide)), Json.spelled_string _,
    Json.spelled_string _, ?_⟩
  · exact Json.spelled_ofOption fun owner _ => Json.spelled_string owner.text
  · exact Json.spelled_ofOption fun expiry _ => Json.spelled_string expiry.text
  · apply Json.spelled_ofOption
    intro result given
    exact (fits.result result given).spelled.mono (by decide)

theorem fits_of_read {context : Context} {found : Source} {job : Job}
    (plain : found.Plain) (read : reader context found = .ok job) :
    job.Fits ∧ context.Admits (job.payload.nesting + 1) := by
  rcases Json.RecordReader.read_builds plain read with ⟨inner, members, entered, built, parts⟩
  rcases seq_build_iff.mp built with ⟨_, result, ten, resultRead, rfl⟩
  rcases seq_build_iff.mp ten with ⟨_, updated, nine, _, rfl⟩
  rcases seq_build_iff.mp nine with ⟨_, created, eight, _, rfl⟩
  rcases seq_build_iff.mp eight with ⟨_, attempts, seven, attemptsRead, rfl⟩
  rcases seq_build_iff.mp seven with ⟨_, lease, six, leaseRead, rfl⟩
  rcases seq_build_iff.mp six with ⟨_, expiry, five, _, rfl⟩
  rcases seq_build_iff.mp five with ⟨_, owner, four, _, rfl⟩
  rcases seq_build_iff.mp four with ⟨_, status, three, _, rfl⟩
  rcases seq_build_iff.mp three with ⟨_, payload, two, payloadRead, rfl⟩
  rcases seq_build_iff.mp two with ⟨_, target, one, _, rfl⟩
  rcases Json.map_eq_ok.mp one with ⟨id, _, rfl⟩
  have settled : Json.Settled inner payload := by
    rcases required_build_iff.mp payloadRead with ⟨found, there, read⟩
    exact Json.readValue_settled found (parts _ (mem_of_lookup there)) read
  refine ⟨⟨settled.sorted, ?_, ?_, ?_⟩, .leave entered settled.admitted⟩
  · rcases required_build_iff.mp leaseRead with ⟨_, _, read⟩
    exact Json.readInteger_bounds read
  · rcases required_build_iff.mp attemptsRead with ⟨_, _, read⟩
    exact Int.ofNat_le.mp (Json.readNatural_bound read)
  · intro result given
    rcases nullable_build resultRead result given with ⟨found, there, read⟩
    exact JobResult.fits_of_read (parts _ (mem_of_lookup there)) read

end Job

end BuildFleet
