import BuildFleet.Store.Call
import BuildFleet.Proofs.Job.Step

/-!
# What a call changes in the store

A call is either addressed to one job, which it changes by a step of that job,
or it leaves all jobs as they are and at most adds a new one. The statements
here say which, through the view `Store.job?` of the jobs and the view
`Store.events` of the outbox.
-/

namespace BuildFleet

/-- The job that a call is addressed to, and what is asked of it. -/
def StoreCall.addressed? : StoreCall → Option (JobId × JobCall)
  | claim id worker lease => some (id, .claim worker lease)
  | heartbeat id worker => some (id, .heartbeat worker)
  | complete id worker result => some (id, .complete worker result)
  | cancel id => some (id, .cancel)
  | expireLease id => some (id, .expire)
  | create _ _ _ | get _ | expiredLeases _ | staleQueued _ _ | pendingEvents _ | acknowledge _
  | recordWorker _ | workers _ | summary => none

/-- The call to the store that asks this of a job. -/
def JobCall.on (id : JobId) : JobCall → StoreCall
  | claim worker lease => .claim id worker lease
  | heartbeat worker => .heartbeat id worker
  | complete worker result => .complete id worker result
  | cancel => .cancel id
  | expire => .expireLease id

/-- How the store answers when the job answers so. The store does not tell a
repeated completion from the first one. -/
def JobCall.report (id : JobId) : (call : JobCall) → Outcome call.Answer →
    Outcome (call.on id).Answer
  | .claim _ _, outcome => outcome
  | .heartbeat _, outcome => outcome
  | .complete _ _, outcome => outcome.map fun _ => ()
  | .cancel, outcome => outcome
  | .expire, outcome => outcome

theorem StoreCall.eq_on_of_addressed {call : StoreCall} {id : JobId} {jobCall : JobCall}
    (addressed : call.addressed? = some (id, jobCall)) : call = jobCall.on id := by
  cases call <;> cases addressed <;> rfl

@[simp] theorem JobCall.addressed?_on (id : JobId) (call : JobCall) :
    (call.on id).addressed? = some (id, call) := by
  cases call <;> rfl

/-- The job that a call adds. -/
def StoreCall.created? (settings : StoreSettings) (now : Instant) : StoreCall → Option Job
  | create id target payload =>
    if settings.targets.contains target then some (Job.new id target payload now) else none
  | _ => none

theorem StoreCall.created?_eq_some {settings : StoreSettings} {now : Instant} {call : StoreCall}
    {job : Job} (created : call.created? settings now = some job) :
    ∃ id target payload, call = .create id target payload ∧
      settings.targets.contains target = true ∧ job = Job.new id target payload now := by
  cases call <;> simp only [created?, reduceCtorEq] at created
  case create id target payload =>
    split at created
    · rename_i accepted
      exact ⟨id, target, payload, rfl, accepted, (Option.some.inj created).symm⟩
    · cases created

theorem StoreCall.created?_of_addressed {settings : StoreSettings} {now : Instant}
    {call : StoreCall} {target : JobId × JobCall} (addressed : call.addressed? = some target) :
    call.created? settings now = none := by
  cases call <;> first
    | rfl
    | cases addressed

namespace Store

/-- The events of the outbox, delivered or not. -/
def events (store : Store) : List JobEvent := store.outbox.map (·.event)

variable {settings : StoreSettings} {now : Instant} {store : Store} {id : JobId}

/-! ## Looking jobs up -/

theorem job?_id {job : Job} (found : store.job? id = some job) : job.id = id := by
  have matched := List.find?_some found
  exact beq_iff_eq.mp matched

theorem mem_of_job? {job : Job} (found : store.job? id = some job) : job ∈ store.jobs :=
  List.mem_of_find?_eq_some found

theorem job?_of_mem {job : Job} (distinct : (store.jobs.map (·.id)).Nodup)
    (member : job ∈ store.jobs) : store.job? job.id = some job := by
  unfold job?
  generalize store.jobs = jobs at distinct member ⊢
  induction jobs with
  | nil => cases member
  | cons head tail induction =>
      have parts := List.nodup_cons.mp distinct
      rcases List.mem_cons.mp member with equal | later
      · subst head
        simp
      · have different : head.id ≠ job.id := fun equal =>
          parts.1 (List.mem_map.mpr ⟨job, later, equal.symm⟩)
        rw [List.find?_cons_of_neg (by simpa using different)]
        exact induction parts.2 later

theorem job?_replace (changed : Job) :
    (store.replace changed).job? id =
      (store.job? id).map fun job => if job.id = changed.id then changed else job := by
  have sameTest : ((fun job : Job => job.id == id) ∘
      fun job => if job.id = changed.id then changed else job) = fun job => job.id == id := by
    funext job
    simp only [Function.comp_apply]
    split
    · rename_i equal
      rw [equal]
    · rfl
  simp only [job?, replace, List.find?_map, sameTest]

theorem map_id_replace (changed : Job) :
    (store.replace changed).jobs.map (·.id) = store.jobs.map (·.id) := by
  simp only [replace, List.map_map]
  apply List.map_congr_left
  intro job _
  simp only [Function.comp_apply]
  split
  · rename_i equal
    exact equal.symm
  · rfl

@[simp] theorem events_replace (changed : Job) :
    (store.replace changed).events = store.events := rfl

@[simp] theorem job?_announce (job : Job) : (store.announce job now).job? id = store.job? id := rfl

theorem events_announce (job : Job) :
    (store.announce job now).events =
      store.events ++ [JobEvent.ofJob (store.events.length + 1) job now] := by
  simp [announce, events]

/-! ## Calls that are addressed to a job -/

theorem mutate_missing {transition : Job → Outcome α × Job} (absent : store.job? id = none) :
    store.mutate id transition now = (.failed (missing id), store) := by
  simp only [mutate, absent]

/-- A change into a terminal status is announced. -/
theorem mutate_found {transition : Job → Outcome α × Job} {job : Job}
    (found : store.job? id = some job) (inTime : (transition job).1 ≠ .outOfTime) :
    store.mutate id transition now =
      ((transition job).1,
        if (transition job).2.status ≠ job.status ∧ (transition job).2.status.isTerminal = true then
          (store.replace (transition job).2).announce (transition job).2 now
        else store.replace (transition job).2) := by
  simp only [mutate, found]
  by_cases ended : (transition job).2.status ≠ job.status ∧
      (transition job).2.status.isTerminal = true
  · cases outcome : (transition job).1 with
    | done value => simp only [if_pos ended]
    | failed failure => simp only [if_pos ended]
    | outOfTime => exact absurd outcome inTime
  · cases outcome : (transition job).1 with
    | done value => simp only [if_neg ended]
    | failed failure => simp only [if_neg ended]
    | outOfTime => exact absurd outcome inTime

theorem mutate_outcome {transition : Job → Outcome α × Job} {job : Job}
    (found : store.job? id = some job) :
    (store.mutate id transition now).1 = (transition job).1 := by
  by_cases inTime : (transition job).1 = .outOfTime
  · simp only [mutate, found, inTime]
  · rw [mutate_found found inTime]

/-- Nothing is answered for a job that is not there. -/
theorem mutate_done {transition : Job → Outcome α × Job} {value : α}
    (answered : (store.mutate id transition now).1 = .done value) :
    ∃ job, store.job? id = some job ∧ (transition job).1 = .done value := by
  cases found : store.job? id with
  | none =>
      rw [mutate_missing found] at answered
      cases answered
  | some job => exact ⟨job, rfl, by rw [← answered, mutate_outcome found]⟩

theorem mutate_outOfTime {transition : Job → Outcome α × Job} {job : Job}
    (found : store.job? id = some job) (beyond : (transition job).1 = .outOfTime) :
    store.mutate id transition now = (.outOfTime, store.replace (transition job).2) := by
  simp only [mutate, found, beyond]

/-- A change leaves the store as it is, replaces a job, or announces the end of it as well. -/
theorem mutate_cases (store : Store) (id : JobId) (transition : Job → Outcome α × Job)
    (now : Instant) :
    (store.mutate id transition now).2 = store ∨ ∃ job,
      (store.mutate id transition now).2 = store.replace job ∨
        (store.mutate id transition now).2 = (store.replace job).announce job now := by
  cases found : store.job? id with
  | none =>
      left
      rw [mutate_missing found]
  | some job =>
      right
      refine ⟨(transition job).2, ?_⟩
      by_cases beyond : (transition job).1 = .outOfTime
      · left
        rw [mutate_outOfTime found beyond]
      · rw [mutate_found found beyond]
        split
        · exact .inr rfl
        · exact .inl rfl

/-- The job is changed even if the transition runs out of time. -/
theorem jobs_mutate {transition : Job → Outcome α × Job} {job : Job}
    (found : store.job? id = some job) :
    (store.mutate id transition now).2.jobs = (store.replace (transition job).2).jobs := by
  by_cases beyond : (transition job).1 = .outOfTime
  · rw [mutate_outOfTime found beyond]
  · rw [mutate_found found beyond]
    split <;> rfl

theorem job?_eq_of_jobs_eq {other : Store} (same : other.jobs = store.jobs) (id : JobId) :
    other.job? id = store.job? id := by
  rw [job?, job?, same]

theorem job?_replace_self {changed job : Job} (found : store.job? id = some job)
    (sameId : changed.id = job.id) : (store.replace changed).job? id = some changed := by
  rw [job?_replace, found, Option.map_some, if_pos sameId.symm]

theorem job?_mutate_self {transition : Job → Outcome α × Job} {job : Job}
    (found : store.job? id = some job) (sameId : (transition job).2.id = job.id) :
    (store.mutate id transition now).2.job? id = some (transition job).2 := by
  rw [job?_eq_of_jobs_eq (jobs_mutate found)]
  exact job?_replace_self found sameId

theorem job?_mutate_other {transition : Job → Outcome α × Job} {other : JobId}
    (different : id ≠ other)
    (sameId : ∀ job, store.job? id = some job → (transition job).2.id = job.id) :
    (store.mutate id transition now).2.job? other = store.job? other := by
  cases found : store.job? id with
  | none => rw [mutate_missing found]
  | some job =>
      rw [job?_eq_of_jobs_eq (jobs_mutate found), job?_replace, sameId job found, job?_id found]
      cases there : store.job? other with
      | none => rfl
      | some bystander => rw [Option.map_some, if_neg (job?_id there ▸ different.symm)]

theorem map_id_mutate {transition : Job → Outcome α × Job} :
    (store.mutate id transition now).2.jobs.map (·.id) = store.jobs.map (·.id) := by
  cases found : store.job? id with
  | none => rw [mutate_missing found]
  | some job => rw [jobs_mutate found, map_id_replace]

theorem published_mutate {transition : Job → Outcome α × Job} :
    (store.mutate id transition now).2.published = store.published := by
  rcases store.mutate_cases id transition now with same | ⟨job, same | same⟩ <;> rw [same] <;> rfl

/-- The store after an addressed call depends on the step of the job alone. -/
theorem perform_addressed {call : StoreCall} {jobCall : JobCall}
    (addressed : call.addressed? = some (id, jobCall)) :
    (store.perform settings now call).2 =
      (store.mutate id (fun job => job.perform settings.maxAttempts now jobCall) now).2 := by
  cases call <;> cases addressed <;> rfl

/-- The answer of an addressed call is that of the job. -/
theorem perform_on {job : Job} (found : store.job? id = some job) (call : JobCall) :
    (store.perform settings now (call.on id)).1 =
      call.report id (job.perform settings.maxAttempts now call).1 := by
  cases call with
  | complete worker result => exact congrArg (Outcome.map fun _ => ()) (mutate_outcome found)
  | claim worker lease => exact mutate_outcome found
  | heartbeat worker => exact mutate_outcome found
  | cancel => exact mutate_outcome found
  | expire => exact mutate_outcome found

theorem perform_on_missing (absent : store.job? id = none) (call : JobCall) :
    (store.perform settings now (call.on id)).1 = .failed (missing id) := by
  cases call with
  | complete worker result =>
      exact congrArg (fun result => Outcome.map (fun _ => ()) result.1) (mutate_missing absent)
  | claim worker lease => exact congrArg Prod.fst (mutate_missing absent)
  | heartbeat worker => exact congrArg Prod.fst (mutate_missing absent)
  | cancel => exact congrArg Prod.fst (mutate_missing absent)
  | expire => exact congrArg Prod.fst (mutate_missing absent)

theorem perform_addressed_inTime {call : StoreCall} {jobCall : JobCall} {job : Job}
    (addressed : call.addressed? = some (id, jobCall)) (found : store.job? id = some job)
    (inTime : (store.perform settings now call).1 ≠ .outOfTime) :
    (job.perform settings.maxAttempts now jobCall).1 ≠ .outOfTime := by
  intro beyond
  rw [StoreCall.eq_on_of_addressed addressed] at inTime
  apply inTime
  rw [perform_on found, beyond]
  cases jobCall <;> rfl

/-! ## Calls that are not -/

private theorem foldl_mark (marked : List Job) :
    (marked.foldl (fun store job => store.mark job.id now) store).jobs = store.jobs ∧
      (marked.foldl (fun store job => store.mark job.id now) store).outbox = store.outbox := by
  induction marked generalizing store with
  | nil => exact ⟨rfl, rfl⟩
  | cons head tail induction => exact induction

theorem staleQueued_keeps (olderThan : Span) (limit : Int) :
    (store.staleQueued olderThan limit now).2.jobs = store.jobs ∧
      (store.staleQueued olderThan limit now).2.outbox = store.outbox := by
  have pruned : store.pruneMarks.jobs = store.jobs ∧ store.pruneMarks.outbox = store.outbox :=
    ⟨rfl, rfl⟩
  cases moved : now.before? olderThan with
  | none => simp only [staleQueued, moved, and_self]
  | some cutoff =>
      simp only [staleQueued, moved]
      exact ⟨(foldl_mark _).1.trans pruned.1, (foldl_mark _).2.trans pruned.2⟩

theorem acknowledge_keeps (number : Int) :
    (store.acknowledge number).2.jobs = store.jobs ∧
      (store.acknowledge number).2.events = store.events := by
  unfold acknowledge
  split
  · refine ⟨rfl, ?_⟩
    simp only [events, List.map_map]
    apply List.map_congr_left
    intro entry _
    simp only [Function.comp_apply]
    split <;> rfl
  · exact ⟨rfl, rfl⟩

/-- A call that is addressed to no job adds one at most. -/
theorem perform_unaddressed {call : StoreCall} (unaddressed : call.addressed? = none) :
    (store.perform settings now call).2.jobs =
        store.jobs ++ (call.created? settings now).toList ∧
      (store.perform settings now call).2.events = store.events := by
  cases call <;> simp only [StoreCall.addressed?, reduceCtorEq] at unaddressed
  case create id target payload =>
    simp only [perform, create, StoreCall.created?]
    split
    · exact ⟨rfl, rfl⟩
    · exact ⟨(List.append_nil _).symm, rfl⟩
  all_goals simp only [perform, StoreCall.created?, Option.toList_none, List.append_nil]
  case staleQueued olderThan limit =>
    rcases staleQueued_keeps olderThan limit with ⟨jobs, outbox⟩
    exact ⟨jobs, congrArg (List.map OutboxEntry.event) outbox⟩
  case acknowledge number => exact acknowledge_keeps number
  case recordWorker info => exact ⟨rfl, rfl⟩
  all_goals exact ⟨trivial, trivial⟩

end Store

end BuildFleet
