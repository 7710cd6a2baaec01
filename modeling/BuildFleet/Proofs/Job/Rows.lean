import BuildFleet.Job.Row
import BuildFleet.Proofs.Job.Written

/-!
# Jobs survive as rows

A row with the columns of a job describes that job and no other. A row describes no
job exactly if its status has no name, its attempts are negative or its result cannot
be read, and it is corrupt then.
-/

namespace BuildFleet.JobRow

open Json (Copy readAs)

variable {row : JobRow} {job : Job} {fault : StorageFailure}

/-- The column of a result is empty without a result, and holds what is written for it
otherwise. -/
inductive Keeps : Option JobResult → Option Json → Prop
  | empty : Keeps none none
  | filled {result : JobResult} {copy : Json} (copied : Copy result.toJson copy) :
      Keeps (some result) (some copy)

theorem keeps_written (result : Option JobResult) : Keeps result (result.map JobResult.toJson) := by
  cases result with
  | none => exact .empty
  | some result => exact .filled .written

/-! ## Columns -/

theorem readStatus_name (status : JobStatus) : readStatus status.name = .ok status := by
  cases status <;> rfl

theorem readAttempts_natCast (count : Nat) : readAttempts count = .ok count := by
  rw [readAttempts, if_pos (Int.natCast_nonneg count), Int.toNat_natCast]

theorem readResult_of_keeps {result : Option JobResult} {column : Option Json}
    (keeps : Keeps result column) (fits : ∀ given ∈ result, given.Fits) :
    readResult column = .ok result := by
  cases keeps with
  | empty => rfl
  | @filled result copy copied =>
      have read : readAs JobResult.reader copy = .ok result :=
        (fits result rfl).echoes .value copy copied (Json.Context.admits_value _)
      simp only [readResult, read]

/-- A row with the columns of a job describes the job. -/
theorem toJob_ofJob {column : Option Json} (fits : job.Fits) (keeps : Keeps job.result column) :
    { ofJob job with result := column }.toJob = .ok job := by
  have owner : (job.owner.map WorkerId.text).map WorkerId.mk = job.owner := by
    cases job.owner <;> rfl
  simp only [toJob, ofJob, readStatus_name, readAttempts_natCast,
    readResult_of_keeps keeps fits.result, owner]
  rfl

/-! ## Corrupt rows -/

theorem readStatus_cases (name : String) :
    (∃ status : JobStatus, name = status.name ∧ readStatus name = .ok status) ∨
      ((∀ status : JobStatus, name ≠ status.name) ∧
        ∃ what, readStatus name = .error (.corrupt what)) := by
  cases looked : JobStatus.choices.lookup name with
  | some status =>
      rcases List.lookup_eq_some_iff.mp looked with ⟨before, rest, split, _⟩
      have there : (name, status) ∈ JobStatus.choices :=
        split ▸ List.mem_append_right before List.mem_cons_self
      rcases List.mem_map.mp there with ⟨other, _, same⟩
      cases same
      exact .inl ⟨status, rfl, readStatus_name status⟩
  | none =>
      refine .inr ⟨?_, "unknown status '" ++ name ++ "'", ?_⟩
      · rintro status rfl
        cases status <;> cases looked
      · simp only [readStatus, JobStatus.ofName, looked]

theorem readAttempts_cases (count : Int) :
    (0 ≤ count ∧ ∃ attempts, readAttempts count = .ok attempts) ∨
      (count < 0 ∧ ∃ what, readAttempts count = .error (.corrupt what)) := by
  by_cases counted : 0 ≤ count
  · exact .inl ⟨counted, _, if_pos counted⟩
  · exact .inr ⟨Int.not_le.mp counted, _, if_neg counted⟩

/-- There is something in the column of the result, but no result. -/
def Unreadable (column : Option Json) : Prop :=
  ∃ value, column = some value ∧ ∀ result, readAs JobResult.reader value ≠ .ok result

theorem readResult_cases (column : Option Json) :
    (¬ Unreadable column ∧ ∃ result, readResult column = .ok result) ∨
      (Unreadable column ∧ ∃ what, readResult column = .error (.corrupt what)) := by
  cases column with
  | none =>
      refine .inl ⟨?_, none, rfl⟩
      rintro ⟨value, there, _⟩
      cases there
  | some value =>
      cases read : readAs JobResult.reader value with
      | ok result =>
          refine .inl ⟨?_, some result, by simp only [readResult, read]⟩
          rintro ⟨other, there, unreadable⟩
          cases there
          exact unreadable result read
      | error fault =>
          refine .inr ⟨⟨value, rfl, fun result same => ?_⟩, ?_⟩
          · rw [read] at same
            cases same
          · cases fault with
            | form => exact ⟨"invalid result: not JSON", by simp only [readResult, read]⟩
            | kind message =>
                exact ⟨"invalid result: " ++ message, by simp only [readResult, read]⟩

/-- A row describes a job or is corrupt. -/
theorem toJob_cases (row : JobRow) :
    (((∃ status : JobStatus, row.status = status.name) ∧ 0 ≤ row.attemptCount ∧
        ¬ Unreadable row.result) ∧ ∃ job, row.toJob = .ok job) ∨
      (((∀ status : JobStatus, row.status ≠ status.name) ∨ row.attemptCount < 0 ∨
        Unreadable row.result) ∧ ∃ what, row.toJob = .error (.corrupt what)) := by
  rcases readStatus_cases row.status with ⟨status, named, read⟩ | ⟨unnamed, what, read⟩
  · rcases readAttempts_cases row.attemptCount with ⟨counted, attempts, count⟩ |
      ⟨negative, what, count⟩
    · rcases readResult_cases row.result with ⟨readable, result, given⟩ |
        ⟨unreadable, what, given⟩
      · exact .inl ⟨⟨⟨status, named⟩, counted, readable⟩, _, by rw [toJob, read, count, given]; rfl⟩
      · exact .inr ⟨.inr (.inr unreadable), what, by rw [toJob, read, count, given]; rfl⟩
    · exact .inr ⟨.inr (.inl negative), what, by rw [toJob, read, count]; rfl⟩
  · exact .inr ⟨.inl unnamed, what, by rw [toJob, read]; rfl⟩

theorem toJob_corrupt_iff :
    (∃ what, row.toJob = .error (.corrupt what)) ↔
      (∀ status : JobStatus, row.status ≠ status.name) ∨ row.attemptCount < 0 ∨
        Unreadable row.result := by
  constructor
  · rintro ⟨what, corrupt⟩
    rcases row.toJob_cases with ⟨_, job, described⟩ | ⟨flawed, _⟩
    · rw [corrupt] at described
      cases described
    · exact flawed
  · intro flawed
    rcases row.toJob_cases with ⟨⟨⟨status, named⟩, counted, readable⟩, _⟩ | ⟨_, corrupt⟩
    · rcases flawed with unnamed | negative | unreadable
      · exact absurd named (unnamed status)
      · exact absurd negative (Int.not_lt.mpr counted)
      · exact absurd unreadable readable
    · exact corrupt

/-- There is no other way to refuse a row. -/
theorem corrupt_of_toJob (refused : row.toJob = .error fault) : ∃ what, fault = .corrupt what := by
  rcases row.toJob_cases with ⟨_, job, described⟩ | ⟨_, what, corrupt⟩
  · rw [refused] at described
    cases described
  · rw [refused] at corrupt
    exact ⟨what, Except.error.inj corrupt⟩

end BuildFleet.JobRow
