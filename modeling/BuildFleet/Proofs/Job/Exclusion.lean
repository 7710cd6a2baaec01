import BuildFleet.Proofs.Job.Record

/-!
# Leases exclude each other

A grant gives a worker a job until an instant. Whatever happens to the job
after it, another worker comes to hold the job at that instant or later. What
carries this through a run is `Protects`: each earlier grant has run out, or its
worker still holds a lease that covers it, or the job has ended.

A heartbeat must not be taken inside a leap second: there the same length of
lease can end before the lease it was to extend.
-/

namespace BuildFleet

/-- The answer grants the job to this worker until this instant. -/
def JobCall.Grants (worker : WorkerId) (expiry : Instant) :
    (call : JobCall) → Outcome call.Answer → Prop
  | .claim claimant _, .done job => claimant = worker ∧ job.leaseExpiry = some expiry
  | .heartbeat owner, .done finish => owner = worker ∧ finish = expiry
  | _, _ => False

/-- The answer shows that this worker holds the job. -/
def JobCall.Uses (worker : WorkerId) : (call : JobCall) → Outcome call.Answer → Prop
  | .claim claimant _, .done _ => claimant = worker
  | .heartbeat owner, .done _ => owner = worker
  | .complete owner _, .done .applied => owner = worker
  | _, _ => False

namespace Job

/-- What has become of a grant after the clock was read so often. -/
inductive Protects (readings : List Instant) (job : Job) (worker : WorkerId)
    (expiry : Instant) : Prop
  | ended (terminal : job.status.isTerminal = true)
  | elapsed (reading : Instant) (member : reading ∈ readings) (reached : expiry ≤ reading)
  | held (leased : job.status.isLeased = true) (owned : job.owner = some worker)
      (current : Instant) (ends : job.leaseExpiry = some current) (covers : expiry ≤ current)

/-- A lease ends its length after a reading of the clock. -/
structure LeaseMeasured (readings : List Instant) (job : Job) : Prop where
  nonneg : 0 ≤ job.leaseMs
  origin : ∀ expiry, job.leaseExpiry = some expiry →
    ∃ reading ∈ readings, reading.addMilliseconds? job.leaseMs = some expiry

variable {limit : Nat} {now : Instant} {job after : Job} {call : JobCall}
  {outcome : Outcome call.Answer} {readings : List Instant} {worker : WorkerId}
  {expiry : Instant}

theorem Protects.later (protects : job.Protects readings worker expiry) :
    job.Protects (readings ++ [now]) worker expiry := by
  cases protects with
  | ended terminal => exact .ended terminal
  | elapsed reading member reached => exact .elapsed reading (List.mem_append_left _ member) reached
  | held leased owned current ends covers => exact .held leased owned current ends covers

theorem Protects.elapsed_now (reached : expiry ≤ now) :
    job.Protects (readings ++ [now]) worker expiry :=
  .elapsed now (List.mem_append_right _ (List.mem_singleton_self now)) reached

/-- When a lease has expired, so has every grant that led to it. -/
theorem Protects.reached_of_expired (protects : job.Protects readings worker expiry)
    (ordered : ∀ reading ∈ readings, reading ≤ now) (expired : job.leaseExpired now = true) :
    expiry ≤ now := by
  rcases leaseExpired_iff.mp expired with ⟨leased, passed⟩
  cases protects with
  | ended terminal =>
      rw [unfinished_of_leased leased] at terminal
      cases terminal
  | elapsed reading member reached => exact le_trans reached (ordered reading member)
  | held _ owned current ends covers => exact le_trans covers (passed current ends)

/-- When a job is queued, every grant on it has run out. -/
theorem Protects.reached_of_queued (protects : job.Protects readings worker expiry)
    (ordered : ∀ reading ∈ readings, reading ≤ now) (queued : job.status = .queued) :
    expiry ≤ now := by
  cases protects with
  | ended terminal => simp [queued, JobStatus.isTerminal] at terminal
  | elapsed reading member reached => exact le_trans reached (ordered reading member)
  | held leased owned current ends covers => simp [queued, JobStatus.isLeased] at leased

/-- When another worker holds a live lease, every grant to this one has run out. -/
theorem Protects.reached_of_other (protects : job.Protects readings worker expiry)
    (ordered : ∀ reading ∈ readings, reading ≤ now) (live : job.leaseLive now = true)
    {other : WorkerId} (owned : job.owner = some other) (different : worker ≠ other) :
    expiry ≤ now := by
  cases protects with
  | ended terminal =>
      rw [unfinished_of_live live] at terminal
      cases terminal
  | elapsed reading member reached => exact le_trans reached (ordered reading member)
  | held _ held current ends covers =>
      rw [held] at owned
      exact absurd (Option.some.inj owned) different

/-- A grant leaves the job with its worker until its end. -/
theorem Step.protects_granted (step : Step limit now job call outcome after)
    (grants : call.Grants worker expiry outcome) :
    after.Protects (readings ++ [now]) worker expiry := by
  cases step with
  | refused => cases call <;> cases grants
  | granted =>
      rcases grants with ⟨rfl, ends⟩
      exact .held rfl rfl expiry ends le_rfl
  | takenOver =>
      rcases grants with ⟨rfl, ends⟩
      exact .held rfl rfl expiry ends le_rfl
  | renewed owned live ends =>
      rcases grants with ⟨rfl, rfl⟩
      exact .held rfl owned _ rfl le_rfl
  | exhausted => cases grants
  | repeated => cases grants
  | completed => cases grants
  | cancelled => cases grants
  | kept => cases grants
  | requeued => cases grants
  | lost => cases grants

/-- No step takes away the protection of an earlier grant. -/
theorem Step.protects (step : Step limit now job call outcome after)
    (protects : job.Protects readings worker expiry) (measured : job.LeaseMeasured readings)
    (ordered : ∀ reading ∈ readings, reading ≤ now)
    (ordinary : ∀ owner, call = .heartbeat owner → ¬ now.InLeapSecond) :
    after.Protects (readings ++ [now]) worker expiry := by
  cases step with
  | refused => exact protects.later
  | repeated => exact protects.later
  | kept => exact protects.later
  | granted queued ends => exact .elapsed_now (protects.reached_of_queued ordered queued)
  | takenOver expired => exact .elapsed_now (protects.reached_of_expired ordered expired)
  | requeued expired => exact .elapsed_now (protects.reached_of_expired ordered expired)
  | exhausted => exact .ended rfl
  | lost => exact .ended rfl
  | cancelled => exact .ended rfl
  | @completed owner result running owned live =>
      refine .ended ?_
      show result.status.isTerminal = true
      unfold JobResult.status
      split <;> rfl
  | @renewed owner extended owned live ends =>
      by_cases mine : worker = owner
      · -- The new lease has the length of the one it extends, and starts no earlier.
        subst mine
        cases protects with
        | ended terminal =>
            rw [unfinished_of_live live] at terminal
            cases terminal
        | elapsed reading member reached =>
            exact .elapsed reading (List.mem_append_left _ member) reached
        | held leased _ current currentEnds covers =>
            rcases measured.origin current currentEnds with ⟨reading, member, started⟩
            have extends' := Instant.addMilliseconds?_mono (ordered reading member)
              (ordinary worker rfl) measured.nonneg started ends
            exact .held rfl owned extended rfl (le_trans covers extends')
      · exact .elapsed_now (protects.reached_of_other ordered live owned mine)

theorem LeaseMeasured.of_unleased (nonneg : 0 ≤ job.leaseMs) (unleased : job.leaseExpiry = none) :
    job.LeaseMeasured readings where
  nonneg := nonneg
  origin expiry ends := by
    rw [unleased] at ends
    cases ends

/-- A step measures a new lease from its own reading. -/
theorem Step.leaseMeasured (step : Step limit now job call outcome after)
    (measured : job.LeaseMeasured readings) : after.LeaseMeasured (readings ++ [now]) := by
  have older : ∀ finish, job.leaseExpiry = some finish → ∃ reading ∈ readings ++ [now],
      reading.addMilliseconds? job.leaseMs = some finish := by
    intro finish ends
    rcases measured.origin finish ends with ⟨reading, member, started⟩
    exact ⟨reading, List.mem_append_left _ member, started⟩
  have newest : now ∈ readings ++ [now] := List.mem_append_right _ (List.mem_singleton_self now)
  cases step with
  | refused => exact ⟨measured.nonneg, older⟩
  | repeated => exact ⟨measured.nonneg, older⟩
  | kept => exact ⟨measured.nonneg, older⟩
  | granted queued ends =>
      refine ⟨leaseMilliseconds_nonneg _, fun finish equal => ⟨now, newest, ?_⟩⟩
      cases equal
      exact ends
  | takenOver expired remaining ends =>
      refine ⟨leaseMilliseconds_nonneg _, fun finish equal => ⟨now, newest, ?_⟩⟩
      cases equal
      exact ends
  | renewed owned live ends =>
      refine ⟨measured.nonneg, fun finish equal => ⟨now, newest, ?_⟩⟩
      cases equal
      exact ends
  | exhausted => exact .of_unleased measured.nonneg rfl
  | completed => exact .of_unleased measured.nonneg rfl
  | cancelled => exact .of_unleased measured.nonneg rfl
  | requeued => exact .of_unleased measured.nonneg rfl
  | lost => exact .of_unleased measured.nonneg rfl

/-- A worker comes to hold a job when every grant to another one has run out. -/
theorem Step.reached_of_uses (step : Step limit now job call outcome after)
    (protects : job.Protects readings worker expiry)
    (ordered : ∀ reading ∈ readings, reading ≤ now) {other : WorkerId}
    (uses : call.Uses other outcome) (different : worker ≠ other) : expiry ≤ now := by
  cases step with
  | refused => cases call <;> cases uses
  | granted queued ends => exact protects.reached_of_queued ordered queued
  | takenOver expired => exact protects.reached_of_expired ordered expired
  | renewed owned live ends =>
      cases uses
      exact protects.reached_of_other ordered live owned different
  | completed running owned live =>
      cases uses
      exact protects.reached_of_other ordered live owned different
  | exhausted => cases uses
  | repeated => cases uses
  | cancelled => cases uses
  | kept => cases uses
  | requeued => cases uses
  | lost => cases uses

/-! ## A run of one job -/

/-- What a run of one job keeps about its grants, with the clock readings of
the run: they protect the job, and they were used by their own worker only. -/
structure Exclusive (limit : Nat) (history : List JobOperation) (job : Job) : Prop where
  measured : job.LeaseMeasured (history.map (·.now))
  protects : ∀ operation ∈ history, ∀ worker expiry,
    operation.call.Grants worker expiry (operation.outcome limit) →
      job.Protects (history.map (·.now)) worker expiry
  apart : history.Pairwise fun earlier later => ∀ worker other expiry,
    earlier.call.Grants worker expiry (earlier.outcome limit) →
      later.call.Uses other (later.outcome limit) → worker ≠ other → expiry ≤ later.now

theorem Run.exclusive {id : JobId} {target : Target} {payload : Json} {time : Instant}
    {history : List JobOperation} (run : Run limit (Job.new id target payload time) history job)
    (ordered : history.Pairwise (·.now ≤ ·.now))
    (ordinary : ∀ operation ∈ history, ∀ owner, operation.call = .heartbeat owner →
      ¬ operation.now.InLeapSecond) :
    Exclusive limit history job := by
  induction run with
  | start =>
      refine ⟨.of_unleased (Int.le_refl 0) rfl, ?_, .nil⟩
      intro granting member
      cases member
  | @step history operation run inTime induction =>
      rcases List.pairwise_append.mp ordered with ⟨orderedBefore, _, orderedLast⟩
      -- The readings grow with the history: what held of the past is carried over to
      -- the longer list, and only the last operation has to be looked at.
      have past := induction orderedBefore fun earlier member =>
        ordinary earlier (List.mem_append_left _ member)
      have newest : operation ∈ [operation] := List.mem_singleton_self operation
      have readings : ∀ reading ∈ history.map (·.now), reading ≤ operation.now := by
        intro reading member
        rcases List.mem_map.mp member with ⟨earlier, there, rfl⟩
        exact orderedLast earlier there operation newest
      have step := JobOperation.step inTime
      have mapped : (history ++ [operation]).map (·.now) =
          history.map (·.now) ++ [operation.now] := by simp
      refine ⟨?_, ?_, ?_⟩
      · rw [mapped]
        exact step.leaseMeasured past.measured
      · intro granting member worker expiry grants
        rw [mapped]
        rcases List.mem_append.mp member with earlier | latest
        · exact step.protects (past.protects granting earlier worker expiry grants) past.measured
            readings (ordinary operation (List.mem_append_right _ newest))
        · cases List.mem_singleton.mp latest
          exact step.protects_granted grants
      · refine List.pairwise_append.mpr ⟨past.apart, List.pairwise_singleton _ _, ?_⟩
        intro granting member latest isLatest worker other expiry grants uses different
        cases List.mem_singleton.mp isLatest
        exact step.reached_of_uses (past.protects granting member worker expiry grants)
          readings uses different

end Job

/-! ## In every run of the store -/

namespace Operation

/-- The operation grants the job to this worker until this instant. -/
inductive Grants (settings : StoreSettings) (id : JobId) (worker : WorkerId)
    (expiry : Instant) : Operation → Prop
  | claim {before : Store} {now : Instant} {lease : Span} {job : Job}
      (answer : (before.claim settings id worker lease now).1 = .done job)
      (ends : job.leaseExpiry = some expiry) :
      Grants settings id worker expiry ⟨before, now, .claim id worker lease⟩
  | heartbeat {before : Store} {now : Instant}
      (answer : (before.heartbeat id worker now).1 = .done expiry) :
      Grants settings id worker expiry ⟨before, now, .heartbeat id worker⟩

/-- The operation succeeds for this worker because it comes to hold the job or
holds it: a claim, a heartbeat, or a completion that is applied. -/
inductive Uses (settings : StoreSettings) (id : JobId) (worker : WorkerId) : Operation → Prop
  | claim {before : Store} {now : Instant} {lease : Span} {job : Job}
      (answer : (before.claim settings id worker lease now).1 = .done job) :
      Uses settings id worker ⟨before, now, .claim id worker lease⟩
  | heartbeat {before : Store} {now expiry : Instant}
      (answer : (before.heartbeat id worker now).1 = .done expiry) :
      Uses settings id worker ⟨before, now, .heartbeat id worker⟩
  | complete {before : Store} {now : Instant} {result : JobResult}
      (answer : (before.complete id worker result now).1 = .done .applied) :
      Uses settings id worker ⟨before, now, .complete id worker result⟩

variable {settings : StoreSettings} {id : JobId} {worker : WorkerId} {expiry : Instant}
  {operation : Operation}

/-- A call that is answered is seen by its job, which gave the answer. -/
theorem seen_of_done {before : Store} {now : Instant} (call : JobCall) {value : call.Answer}
    (answer : (before.mutate id
      (fun job => job.perform settings.maxAttempts now call) now).1 = .done value) :
    ∃ job, (⟨before, now, call.on id⟩ : Operation).onJob? id = some ⟨job, now, call⟩ ∧
      (JobOperation.mk job now call).outcome settings.maxAttempts = .done value := by
  rcases Store.mutate_done answer with ⟨job, found, answered⟩
  exact ⟨job, by simp [onJob?, found], answered⟩

theorem Grants.onJob (grants : operation.Grants settings id worker expiry) :
    ∃ jobOperation, operation.onJob? id = some jobOperation ∧
      jobOperation.call.Grants worker expiry (jobOperation.outcome settings.maxAttempts) := by
  cases grants with
  | @claim before now lease granted answer ends =>
      rcases seen_of_done (.claim worker lease) answer with ⟨job, seen, outcome⟩
      refine ⟨_, seen, ?_⟩
      rw [outcome]
      exact ⟨rfl, ends⟩
  | heartbeat answer =>
      rcases seen_of_done (.heartbeat worker) answer with ⟨job, seen, outcome⟩
      refine ⟨_, seen, ?_⟩
      rw [outcome]
      exact ⟨rfl, rfl⟩

theorem Uses.onJob (uses : operation.Uses settings id worker) :
    ∃ jobOperation, operation.onJob? id = some jobOperation ∧
      jobOperation.call.Uses worker (jobOperation.outcome settings.maxAttempts) := by
  cases uses with
  | @claim before now lease granted answer =>
      rcases seen_of_done (.claim worker lease) answer with ⟨job, seen, outcome⟩
      refine ⟨_, seen, ?_⟩
      rw [outcome]
      exact rfl
  | heartbeat answer =>
      rcases seen_of_done (.heartbeat worker) answer with ⟨job, seen, outcome⟩
      refine ⟨_, seen, ?_⟩
      rw [outcome]
      exact rfl
  | @complete before now result answer =>
      rcases seen_of_done (.complete worker result) answer with ⟨job, seen, outcome⟩
      refine ⟨_, seen, ?_⟩
      rw [outcome]
      exact rfl

end Operation

namespace Store.Run

variable {settings : StoreSettings} {id : JobId} {history : List Operation} {store : Store}

/-- Leases of different workers on one job do not overlap, if the clock never
goes back and no heartbeat on the job is taken inside a leap second. -/
theorem leases_exclusive (run : Run settings .empty history store)
    (ordered : history.Pairwise (·.now ≤ ·.now))
    (ordinary : ∀ operation ∈ history, ∀ owner, operation.call = .heartbeat id owner →
      ¬ operation.now.InLeapSecond) :
    history.Pairwise fun earlier later => ∀ worker other expiry,
      earlier.Grants settings id worker expiry → later.Uses settings id other →
        worker ≠ other → expiry ≤ later.now := by
  have apart : (history.filterMap (·.onJob? id)).Pairwise fun earlier later =>
      ∀ worker other expiry,
        earlier.call.Grants worker expiry (earlier.outcome settings.maxAttempts) →
          later.call.Uses other (later.outcome settings.maxAttempts) →
            worker ≠ other → expiry ≤ later.now := by
    cases found : store.job? id with
    | none =>
        rw [run.unseen_of_absent found]
        exact .nil
    | some job =>
        rcases run.job_history rfl found with ⟨target, payload, time, _, jobRun⟩
        refine (jobRun.exclusive ?_ ?_).apart
        · refine List.pairwise_filterMap.mpr (ordered.imp ?_)
          intro earlier later inOrder seenEarlier isEarlier seenLater isLater
          rw [← (Operation.onJob?_eq_some isEarlier).2.2,
            ← (Operation.onJob?_eq_some isLater).2.2]
          exact inOrder
        · intro seen member owner heartbeat
          rcases List.mem_filterMap.mp member with ⟨operation, there, isSeen⟩
          rcases Operation.onJob?_eq_some isSeen with ⟨_, addressed, reading⟩
          rw [heartbeat] at addressed
          rw [← reading]
          exact ordinary operation there owner (StoreCall.eq_on_of_addressed addressed)
  refine (List.pairwise_filterMap.mp apart).imp ?_
  intro earlier later separated worker other expiry grants uses different
  rcases grants.onJob with ⟨seenEarlier, isEarlier, granted⟩
  rcases uses.onJob with ⟨seenLater, isLater, used⟩
  rw [(Operation.onJob?_eq_some isLater).2.2]
  exact separated seenEarlier isEarlier seenLater isLater worker other expiry granted used different

/-- In the sample run the second worker takes the first job at the instant at
which the last lease of the first worker ends. -/
theorem sample_leases_exclusive :
    Run Sample.settings .empty Sample.history Sample.store ∧
      Sample.history.Pairwise (·.now ≤ ·.now) ∧
      (∀ operation ∈ Sample.history, ∀ owner,
        operation.call = .heartbeat Sample.firstJob owner → ¬ operation.now.InLeapSecond) ∧
      (Sample.history.Pairwise fun earlier later => ∀ worker other expiry,
        earlier.Grants Sample.settings Sample.firstJob worker expiry →
          later.Uses Sample.settings Sample.firstJob other →
            worker ≠ other → expiry ≤ later.now) ∧
      ∃ earlier ∈ Sample.history, ∃ later ∈ Sample.history,
        earlier.Grants Sample.settings Sample.firstJob ⟨"a"⟩ (Sample.reading 7) ∧
          later.Uses Sample.settings Sample.firstJob ⟨"b"⟩ ∧ later.now = Sample.reading 7 := by
  have ordered : Sample.history.Pairwise (·.now ≤ ·.now) := by decide
  have ordinary : ∀ operation ∈ Sample.history, ¬ operation.now.InLeapSecond := by decide
  have ordinaryHeartbeats : ∀ operation ∈ Sample.history, ∀ owner,
      operation.call = .heartbeat Sample.firstJob owner → ¬ operation.now.InLeapSecond :=
    fun operation member _ _ => ordinary operation member
  exact ⟨Sample.run, ordered, ordinaryHeartbeats,
    Sample.run.leases_exclusive ordered ordinaryHeartbeats,
    _, .tail _ (.tail _ (.head _)),
    _, .tail _ (.tail _ (.tail _ (.tail _ (.tail _ (.head _))))),
    .heartbeat rfl, .claim rfl, rfl⟩

end Store.Run

/-! ## In a leap second

A lease of half a second that starts just before a leap second ends after it. A
heartbeat at the start of the leap second has it end within it, so earlier. -/

namespace Sample

/-- A reading within the last ordinary second of a minute, or the leap second
after it. -/
def leapReading (milliseconds : Fin 2000) : Instant :=
  ⟨59, milliseconds * 1000000, by
    have start : firstSecond ≤ 0 := by decide
    have finish : 60 ≤ lastSecond := by decide
    omega, .inr (by omega)⟩

def leapLease : Span := ⟨500000000, by decide⟩

def leapCalls : List (Instant × StoreCall) := [
  (leapReading 0, .create firstJob ⟨"amd64"⟩ .null),
  (leapReading 900, .claim firstJob ⟨"a"⟩ leapLease),
  (leapReading 1000, .heartbeat firstJob ⟨"a"⟩),
  (leapReading 1500, .claim firstJob ⟨"b"⟩ leapLease)]

def leapHistory : List Operation := Store.empty.operations settings leapCalls

def leapStore : Store := Store.empty.afterCalls settings leapCalls

end Sample

namespace Store.Run

/-- The first lease was to end in the next minute; in the leap second before it
another worker takes the job. -/
theorem leases_overlap_in_leap_second :
    ¬ ∀ (settings : StoreSettings) (id : JobId) (history : List Operation) (store : Store),
      Run settings .empty history store → history.Pairwise (·.now ≤ ·.now) →
        history.Pairwise fun earlier later => ∀ worker other expiry,
          earlier.Grants settings id worker expiry → later.Uses settings id other →
            worker ≠ other → expiry ≤ later.now := by
  intro exclusive
  have run : Run Sample.settings .empty Sample.leapHistory Sample.leapStore :=
    .of_calls (by decide)
  have ordered : Sample.leapHistory.Pairwise (·.now ≤ ·.now) := by decide
  have apart := exclusive Sample.settings Sample.firstJob _ _ run ordered
  have afterGrant := (List.pairwise_cons.mp (List.pairwise_cons.mp apart).2).1
  have reached := afterGrant _ (.tail _ (.head _)) ⟨"a"⟩ ⟨"b"⟩
    ⟨60, 400000000, by decide, by decide⟩ (.claim rfl rfl) (.claim rfl) (by decide)
  exact absurd reached (by decide)

end Store.Run

end BuildFleet
