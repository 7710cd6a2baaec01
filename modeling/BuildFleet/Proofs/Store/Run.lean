import BuildFleet.Proofs.Job.Halt
import BuildFleet.Proofs.Store.Lookup

/-!
# Runs of the store

A run is a sequence of operations in the order in which they take effect, each
with the clock reading that it takes. What a run does to one job is a run of
that job alone: the calls addressed to it, at the same readings, on the job as
it was made. Laws of single jobs carry over to every run of the store by this.
-/

namespace BuildFleet

/-! ## Runs of one job -/

/-- A call on a job as it took effect: the job that it met, the clock reading
and the call. -/
structure JobOperation where
  before : Job
  now : Instant
  call : JobCall

namespace JobOperation

def outcome (limit : Nat) (operation : JobOperation) : Outcome operation.call.Answer :=
  (operation.before.perform limit operation.now operation.call).1

def after (limit : Nat) (operation : JobOperation) : Job :=
  (operation.before.perform limit operation.now operation.call).2

/-- The operation computes no time outside the calendar. -/
def InTime (limit : Nat) (operation : JobOperation) : Prop :=
  operation.outcome limit ≠ .outOfTime

theorem step {limit : Nat} {operation : JobOperation} (inTime : operation.InTime limit) :
    Job.Step limit operation.now operation.before operation.call (operation.outcome limit)
      (operation.after limit) :=
  Job.perform_step inTime

end JobOperation

/-- Runs of a job: the operations on it, the oldest first, and the job after them. -/
inductive Job.Run (limit : Nat) (first : Job) : List JobOperation → Job → Prop
  | start : Run limit first [] first
  | step {history : List JobOperation} {operation : JobOperation}
      (run : Run limit first history operation.before) (inTime : operation.InTime limit) :
      Run limit first (history ++ [operation]) (operation.after limit)

/-- What every step of a job keeps, every run keeps. -/
theorem Job.Run.keeps {limit : Nat} {first last : Job} {history : List JobOperation}
    (run : Job.Run limit first history last) {Holds : Job → Prop} (start : Holds first)
    (kept : ∀ {now : Instant} {job : Job} {call : JobCall} {outcome : Outcome call.Answer}
      {after : Job}, Job.Step limit now job call outcome after → Holds job → Holds after) :
    Holds last := by
  induction run with
  | start => exact start
  | step run inTime induction => exact kept (JobOperation.step inTime) induction

/-! ## Runs of the store -/

/-- An operation on the store as it took effect: the store that it met, the
clock reading and the call. -/
structure Operation where
  before : Store
  now : Instant
  call : StoreCall

namespace Operation

def outcome (settings : StoreSettings) (operation : Operation) :
    Outcome operation.call.Answer :=
  (operation.before.perform settings operation.now operation.call).1

def after (settings : StoreSettings) (operation : Operation) : Store :=
  (operation.before.perform settings operation.now operation.call).2

/-- The operation computes no time outside the calendar, and a job that it makes
gets an identifier of its own. -/
structure Regular (settings : StoreSettings) (operation : Operation) : Prop where
  inTime : operation.outcome settings ≠ .outOfTime
  fresh : ∀ job ∈ operation.call.created? settings operation.now,
    operation.before.job? job.id = none

/-- The operation as the job with this identifier sees it. -/
def onJob? (id : JobId) (operation : Operation) : Option JobOperation :=
  match operation.before.job? id, operation.call.addressed? with
  | some job, some (addressee, call) =>
    if addressee = id then some ⟨job, operation.now, call⟩ else none
  | _, _ => none

end Operation

/-- Runs of the store: the operations, the oldest first, and the store after them. -/
inductive Store.Run (settings : StoreSettings) (first : Store) : List Operation → Store → Prop
  | start : Run settings first [] first
  | step {history : List Operation} {operation : Operation}
      (run : Run settings first history operation.before)
      (regular : operation.Regular settings) :
      Run settings first (history ++ [operation]) (operation.after settings)

/-- The operations that calls at these readings come to. -/
def Store.operations (settings : StoreSettings) :
    Store → List (Instant × StoreCall) → List Operation
  | _, [] => []
  | store, (now, call) :: rest =>
    ⟨store, now, call⟩ :: operations settings (store.perform settings now call).2 rest

/-- The store after calls at these readings. -/
def Store.afterCalls (settings : StoreSettings) :
    Store → List (Instant × StoreCall) → Store
  | store, [] => store
  | store, (now, call) :: rest => afterCalls settings (store.perform settings now call).2 rest

namespace Operation

variable {settings : StoreSettings} {id : JobId} {operation : Operation}

theorem onJob?_eq_some {jobOperation : JobOperation}
    (seen : operation.onJob? id = some jobOperation) :
    operation.before.job? id = some jobOperation.before ∧
      operation.call.addressed? = some (id, jobOperation.call) ∧
      operation.now = jobOperation.now := by
  unfold onJob? at seen
  split at seen
  · rename_i job addressee call found addressed
    split at seen
    · rename_i equal
      cases seen
      exact ⟨found, by rw [addressed, equal], rfl⟩
    · cases seen
  · cases seen

/-- An operation that a job sees leaves the job as its call does. -/
theorem job?_after_seen {jobOperation : JobOperation}
    (seen : operation.onJob? id = some jobOperation) :
    (operation.after settings).job? id = some (jobOperation.after settings.maxAttempts) := by
  rcases onJob?_eq_some seen with ⟨found, addressed, reading⟩
  unfold JobOperation.after after
  rw [← reading, Store.perform_addressed addressed]
  exact Store.job?_mutate_self found (Job.perform_id _ _ _ _)

/-- An operation that a job does not see leaves it as it is. -/
theorem job?_after_unseen {job : Job} (found : operation.before.job? id = some job)
    (unseen : operation.onJob? id = none) : (operation.after settings).job? id = some job := by
  unfold after
  cases addressed : operation.call.addressed? with
  | none =>
      rw [Store.job?, (Store.perform_unaddressed addressed).1, List.find?_append]
      rw [Store.job?] at found
      rw [found]
      rfl
  | some target =>
      rcases target with ⟨addressee, call⟩
      have different : addressee ≠ id := by
        intro equal
        simp [onJob?, found, addressed, equal] at unseen
      rw [Store.perform_addressed addressed, ← found]
      exact Store.job?_mutate_other different fun _ _ => Job.perform_id _ _ _ _

/-- What a job sees of a regular operation is in time. -/
theorem job?_after_of_seen (regular : operation.Regular settings) {jobOperation : JobOperation}
    (seen : operation.onJob? id = some jobOperation) :
    jobOperation.InTime settings.maxAttempts ∧
      (operation.after settings).job? id = some (jobOperation.after settings.maxAttempts) := by
  rcases onJob?_eq_some seen with ⟨found, addressed, reading⟩
  refine ⟨?_, job?_after_seen seen⟩
  unfold JobOperation.InTime JobOperation.outcome
  rw [← reading]
  exact Store.perform_addressed_inTime addressed found regular.inTime

theorem job?_after_of_unseen (_ : operation.Regular settings) {job : Job}
    (found : operation.before.job? id = some job) (unseen : operation.onJob? id = none) :
    (operation.after settings).job? id = some job := job?_after_unseen found unseen

/-- An operation continues the run of each job that is there. -/
theorem continues_job (regular : operation.Regular settings) {first job : Job}
    {past : List JobOperation} (found : operation.before.job? id = some job)
    (run : Job.Run settings.maxAttempts first past job) :
    ∃ later, (operation.after settings).job? id = some later ∧
      Job.Run settings.maxAttempts first (past ++ (operation.onJob? id).toList) later := by
  cases seen : operation.onJob? id with
  | none =>
      refine ⟨job, job?_after_of_unseen regular found seen, ?_⟩
      rw [Option.toList_none, List.append_nil]
      exact run
  | some jobOperation =>
      rcases job?_after_of_seen regular seen with ⟨inTime, result⟩
      have sameJob := (onJob?_eq_some seen).1
      rw [found] at sameJob
      cases sameJob
      exact ⟨_, result, run.step inTime⟩

/-- A job appears by being made. -/
theorem created_of_appeared {job : Job} (absent : operation.before.job? id = none)
    (found : (operation.after settings).job? id = some job) :
    operation.call.created? settings operation.now = some job := by
  unfold after at found
  cases addressed : operation.call.addressed? with
  | none =>
      rw [Store.job?, (Store.perform_unaddressed addressed).1, List.find?_append] at found
      rw [Store.job?] at absent
      rw [absent, Option.none_or] at found
      exact Option.mem_toList.mp (List.mem_of_find?_eq_some found)
  | some target =>
      rcases target with ⟨addressee, call⟩
      rw [Store.perform_addressed addressed] at found
      by_cases equal : addressee = id
      · subst equal
        rw [Store.mutate_missing absent, absent] at found
        cases found
      · rw [Store.job?_mutate_other equal fun _ _ => Job.perform_id _ _ _ _, absent] at found
        cases found

theorem onJob?_of_absent (absent : operation.before.job? id = none) :
    operation.onJob? id = none := by
  simp [onJob?, absent]

/-- The identifiers of the jobs after an operation. -/
theorem map_id_after (settings : StoreSettings) (operation : Operation) :
    (operation.after settings).jobs.map (·.id) =
      operation.before.jobs.map (·.id) ++
        (operation.call.created? settings operation.now).toList.map (·.id) := by
  unfold after
  cases addressed : operation.call.addressed? with
  | none => rw [(Store.perform_unaddressed addressed).1, List.map_append]
  | some target =>
      rcases target with ⟨addressee, call⟩
      rw [Store.perform_addressed addressed, StoreCall.created?_of_addressed addressed,
        Option.toList_none, List.map_nil, List.append_nil]
      exact Store.map_id_mutate

/-- An operation that makes no second job of one identifier keeps them apart. -/
theorem distinct_after
    (fresh : ∀ job ∈ operation.call.created? settings operation.now,
      operation.before.job? job.id = none)
    (distinct : (operation.before.jobs.map (·.id)).Nodup) :
    ((operation.after settings).jobs.map (·.id)).Nodup := by
  rw [operation.map_id_after settings]
  cases created : operation.call.created? settings operation.now with
  | none => simpa using distinct
  | some job =>
      have unused : job.id ∉ operation.before.jobs.map (·.id) := by
        intro member
        rcases List.mem_map.mp member with ⟨other, there, equal⟩
        have found := Store.job?_of_mem distinct there
        rw [equal, fresh job created] at found
        cases found
      apply List.nodup_append.mpr
      refine ⟨distinct, by simp, ?_⟩
      intro left leftMember right rightMember equal
      simp only [Option.toList_some, List.map_cons, List.map_nil,
        List.mem_singleton] at rightMember
      exact unused (rightMember ▸ equal ▸ leftMember)

/-- What can be seen of a history is seen of its last operation in the end. -/
theorem filterMap_snoc {β : Type} (view : Operation → Option β) (history : List Operation)
    (operation : Operation) : (history ++ [operation]).filterMap view =
      history.filterMap view ++ (view operation).toList := by
  rw [List.filterMap_append]
  cases seen : view operation <;> simp [seen]

end Operation

private theorem map_ne_outOfTime {outcome : Outcome α} :
    outcome.map (fun _ => ()) ≠ .outOfTime ↔ outcome ≠ .outOfTime := by
  cases outcome <;> simp [Outcome.map]

instance (outcome : Outcome α) : Decidable (outcome ≠ .outOfTime) :=
  decidable_of_iff _ map_ne_outOfTime

instance (settings : StoreSettings) (operation : Operation) :
    Decidable (operation.Regular settings) :=
  decidable_of_iff
    (operation.outcome settings ≠ .outOfTime ∧
      ∀ job ∈ operation.call.created? settings operation.now,
        operation.before.job? job.id = none)
    ⟨fun parts => ⟨parts.1, parts.2⟩, fun regular => ⟨regular.inTime, regular.fresh⟩⟩

namespace Store.Run

variable {settings : StoreSettings} {id : JobId} {first last : Store}
  {history : List Operation} {job : Job}

/-- An operation in front of a run makes a run. -/
theorem cons {operation : Operation} (regular : operation.Regular settings)
    (run : Run settings (operation.after settings) history last) :
    Run settings operation.before (operation :: history) last := by
  induction run with
  | start => exact Run.start.step regular
  | step run laterRegular induction =>
      rw [← List.cons_append]
      exact induction.step laterRegular

theorem of_calls {calls : List (Instant × StoreCall)}
    (regular : ∀ operation ∈ first.operations settings calls, operation.Regular settings) :
    Run settings first (first.operations settings calls) (first.afterCalls settings calls) := by
  induction calls generalizing first with
  | nil => exact .start
  | cons head tail induction =>
      rcases head with ⟨now, call⟩
      have parts := List.forall_mem_cons.mp regular
      exact cons parts.1 (induction parts.2)

/-- Every operation of a run takes effect after a run of its own. -/
theorem of_mem (run : Run settings first history last) {operation : Operation}
    (member : operation ∈ history) :
    operation.Regular settings ∧ ∃ past, Run settings first past operation.before := by
  induction run with
  | start => cases member
  | @step history latest run regular induction =>
      rcases List.mem_append.mp member with earlier | newest
      · exact induction earlier
      · rw [List.mem_singleton.mp newest]
        exact ⟨regular, history, run⟩

/-- No two jobs share an identifier. -/
theorem distinct (run : Run settings first history last)
    (start : (first.jobs.map (·.id)).Nodup) : (last.jobs.map (·.id)).Nodup := by
  induction run with
  | start => exact start
  | step run regular induction => exact Operation.distinct_after regular.fresh induction

theorem distinct_from_empty (run : Run settings .empty history last) :
    (last.jobs.map (·.id)).Nodup :=
  run.distinct List.nodup_nil

/-- A job is never removed, and what becomes of it is a run of its own. -/
theorem job_continues (run : Run settings first history last)
    (found : first.job? id = some job) :
    ∃ later, last.job? id = some later ∧
      Job.Run settings.maxAttempts job (history.filterMap (·.onJob? id)) later := by
  induction run with
  | start => exact ⟨job, found, .start⟩
  | @step history operation run regular induction =>
      rcases induction with ⟨middle, there, jobRun⟩
      rw [Operation.filterMap_snoc]
      exact operation.continues_job regular there jobRun

/-- No operation is seen by a job that is not there yet. -/
theorem unseen_of_absent (run : Run settings first history last)
    (absent : last.job? id = none) : history.filterMap (·.onJob? id) = [] := by
  induction run with
  | start => rfl
  | @step history operation run regular induction =>
      have before : operation.before.job? id = none := by
        cases found : operation.before.job? id with
        | none => rfl
        | some job =>
            rcases operation.continues_job regular found .start with ⟨later, there, _⟩
            rw [absent] at there
            cases there
      rw [Operation.filterMap_snoc, induction before, operation.onJob?_of_absent before]
      rfl

/-- Every job was made by the run, and what became of it is a run of its own. -/
theorem job_history (run : Run settings first history last)
    (absent : first.job? id = none) (found : last.job? id = some job) :
    ∃ target payload time, settings.targets.contains target = true ∧
      Job.Run settings.maxAttempts (Job.new id target payload time)
        (history.filterMap (·.onJob? id)) job := by
  induction run generalizing job with
  | start =>
      rw [absent] at found
      cases found
  | @step history operation run regular induction =>
      rw [Operation.filterMap_snoc]
      cases before : operation.before.job? id with
      | none =>
          have created := operation.created_of_appeared before found
          rcases StoreCall.created?_eq_some created with ⟨newId, target, payload, _, accepted, made⟩
          have sameId : newId = id := by
            have idOf := job?_id found
            rw [made] at idOf
            exact idOf
          subst sameId
          refine ⟨target, payload, operation.now, accepted, ?_⟩
          rw [run.unseen_of_absent before, operation.onJob?_of_absent before, made]
          exact .start
      | some middle =>
          rcases induction before with ⟨target, payload, time, accepted, jobRun⟩
          rcases operation.continues_job regular before jobRun with ⟨later, there, continued⟩
          rw [found] at there
          cases there
          exact ⟨target, payload, time, accepted, continued⟩

end Store.Run

/-! ## A sample run

One job goes from a worker that falls silent to another one that completes it;
a second job loses both of its leases. -/

namespace Sample

def settings : StoreSettings := ⟨⟨[⟨"amd64"⟩], []⟩, 2⟩

def firstJob : JobId := .ofNat 1

def secondJob : JobId := .ofNat 2

/-- A reading within the first minute of 1970. -/
def reading (second : Fin 60) : Instant :=
  ⟨second, 0, by
    have start : firstSecond ≤ 0 := by decide
    have finish : 60 ≤ lastSecond := by decide
    omega, .inl (by decide)⟩

/-- The reading at a second of that minute. -/
def moment (second : Nat) : Instant := reading (Fin.ofNat 60 second)

def lease : Span := .ofSeconds 5

def calls : List (Instant × StoreCall) := [
  (reading 0, .create firstJob ⟨"amd64"⟩ .null),
  (reading 1, .claim firstJob ⟨"a"⟩ lease),
  (reading 2, .heartbeat firstJob ⟨"a"⟩),
  (reading 3, .create secondJob ⟨"amd64"⟩ .null),
  (reading 4, .claim secondJob ⟨"a"⟩ lease),
  (reading 7, .claim firstJob ⟨"b"⟩ lease),
  (reading 8, .heartbeat firstJob ⟨"b"⟩),
  (reading 9, .expireLease secondJob),
  (reading 10, .complete firstJob ⟨"b"⟩ (.succeeded (some 0))),
  (reading 11, .complete firstJob ⟨"b"⟩ (.succeeded (some 0))),
  (reading 12, .acknowledge 1),
  (reading 13, .claim secondJob ⟨"b"⟩ lease),
  (reading 18, .claim secondJob ⟨"a"⟩ lease),
  (reading 19, .cancel secondJob)]

def history : List Operation := Store.empty.operations settings calls

def store : Store := Store.empty.afterCalls settings calls

theorem run : Store.Run settings .empty history store := .of_calls (by decide)

theorem secondJob_lost : ∃ job, store.job? secondJob = some job ∧ job.status = .lost := by
  have exhausted : (store.job? secondJob).any (·.status == .lost) = true := by decide
  rcases (Option.any_eq_true _ _).mp exhausted with ⟨job, found, lost⟩
  exact ⟨job, found, beq_iff_eq.mp lost⟩

end Sample

end BuildFleet
