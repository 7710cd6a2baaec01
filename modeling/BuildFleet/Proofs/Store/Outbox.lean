import Mathlib.Data.List.Nodup
import BuildFleet.Proofs.Store.Run

/-!
# The outbox

The outbox lists the ends of jobs: an operation that takes a job from an
unfinished status to a terminal one adds an event of the job as it is then, and
no other operation adds any. A job ends once at most, so the outbox has one
event of each job that has ended and none of the others.
-/

namespace BuildFleet

/-! ## The end of one job -/

/-- The job as the operation ends it, with the reading of the clock, if it does. -/
def JobOperation.endings (limit : Nat) (operation : JobOperation) : List (Job × Instant) :=
  if operation.before.status.isTerminal = false ∧
      (operation.after limit).status.isTerminal = true then
    [(operation.after limit, operation.now)]
  else []

namespace Job

theorem Step.updatedAt_of_ended {limit : Nat} {now : Instant} {job after : Job}
    {call : JobCall} {outcome : Outcome call.Answer}
    (step : Step limit now job call outcome after) (unfinished : job.status.isTerminal = false)
    (ended : after.status.isTerminal = true) : after.updatedAt = now := by
  cases step with
  | refused =>
      rw [unfinished] at ended
      cases ended
  | repeated =>
      rw [unfinished] at ended
      cases ended
  | kept =>
      rw [unfinished] at ended
      cases ended
  | granted => rfl
  | takenOver => rfl
  | exhausted => rfl
  | renewed => rfl
  | completed => rfl
  | cancelled => rfl
  | requeued => rfl
  | lost => rfl

/-- A job that has ended did so once, at its last change; any other has not. -/
theorem Run.endings {limit : Nat} {id : JobId} {target : Target} {payload : Json}
    {time : Instant} {history : List JobOperation} {job : Job}
    (run : Run limit (Job.new id target payload time) history job) :
    history.flatMap (·.endings limit) =
      if job.status.isTerminal = true then [(job, job.updatedAt)] else [] := by
  induction run with
  | start => rfl
  | @step history operation run inTime induction =>
      have step := JobOperation.step inTime
      rw [List.flatMap_append, induction, List.flatMap_singleton]
      unfold JobOperation.endings
      cases status : operation.before.status.isTerminal with
      | true =>
          rw [step.eq_of_terminal status]
          simp [status]
      | false =>
          cases ended : (operation.after limit).status.isTerminal with
          | true => simp [step.updatedAt_of_ended status ended]
          | false => simp

end Job

/-! ## The ends of jobs in the store -/

namespace Operation

variable {settings : StoreSettings} {id : JobId} {operation : Operation}

/-- The job has ended, and was there before and had not. -/
def ends (operation : Operation) (job : Job) : Bool :=
  job.status.isTerminal && (operation.before.job? job.id).any (!·.status.isTerminal)

/-- The jobs as the operation ends them, with the reading of the clock. -/
def endings (settings : StoreSettings) (operation : Operation) : List (Job × Instant) :=
  ((operation.after settings).jobs.filter operation.ends).map (·, operation.now)

/-- An operation ends no job that does not see it. -/
theorem ends_of_unseen (regular : operation.Regular settings)
    (distinct : ((operation.after settings).jobs.map (·.id)).Nodup) {job : Job}
    (member : job ∈ (operation.after settings).jobs) (unseen : operation.onJob? job.id = none) :
    operation.ends job = false := by
  unfold ends
  cases found : operation.before.job? job.id with
  | none => rw [Option.any_none, Bool.and_false]
  | some earlier =>
      have same := job?_after_of_unseen regular found unseen
      rw [Store.job?_of_mem distinct member] at same
      cases same
      rw [Option.any_some, Bool.and_not_self]

/-- One job at most sees an operation. -/
theorem unseen_of_other {jobOperation : JobOperation}
    (seen : operation.onJob? id = some jobOperation) {other : JobId} (different : other ≠ id) :
    operation.onJob? other = none := by
  cases otherSeen : operation.onJob? other with
  | none => rfl
  | some otherOperation =>
      have addressed := (onJob?_eq_some seen).2.1
      rw [(onJob?_eq_some otherSeen).2.1] at addressed
      exact absurd (congrArg Prod.fst (Option.some.inj addressed)) different

theorem seen_or_unseen (operation : Operation) :
    (∃ id jobOperation, operation.onJob? id = some jobOperation) ∨
      ∀ id, operation.onJob? id = none := by
  by_cases anySeen : ∃ id jobOperation, operation.onJob? id = some jobOperation
  · exact .inl anySeen
  · exact .inr fun id => Option.eq_none_iff_forall_ne_some.mpr fun jobOperation seen =>
      anySeen ⟨id, jobOperation, seen⟩

private theorem filter_of_only [DecidableEq α] {items : List α} {item : α} {test : α → Bool}
    (distinct : items.Nodup) (member : item ∈ items)
    (only : ∀ other ∈ items, test other = true → other = item) :
    items.filter test = if test item = true then [item] else [] := by
  by_cases passes : test item = true
  · have same : ∀ other ∈ items, test other = (other == item) := by
      intro other there
      by_cases equal : other = item
      · simp [equal, passes]
      · have fails : test other = false :=
          Bool.eq_false_iff.mpr fun passesOther => equal (only other there passesOther)
        simp [equal, fails]
    rw [if_pos passes, List.filter_congr same, List.filter_beq,
      List.count_eq_one_of_mem distinct member, List.replicate_one]
  · rw [if_neg passes, List.filter_eq_nil_iff]
    intro other there passesOther
    rw [only other there passesOther] at passesOther
    exact passes passesOther

theorem endings_of_unseen (regular : operation.Regular settings)
    (distinct : ((operation.after settings).jobs.map (·.id)).Nodup)
    (unseen : ∀ id, operation.onJob? id = none) : operation.endings settings = [] := by
  unfold endings
  rw [List.map_eq_nil_iff, List.filter_eq_nil_iff]
  intro job member
  rw [operation.ends_of_unseen regular distinct member (unseen job.id)]
  exact Bool.false_ne_true

theorem endings_of_seen (regular : operation.Regular settings)
    (distinct : ((operation.after settings).jobs.map (·.id)).Nodup) {jobOperation : JobOperation}
    (seen : operation.onJob? id = some jobOperation) :
    operation.endings settings = jobOperation.endings settings.maxAttempts := by
  rcases operation.job?_after_of_seen regular seen with ⟨inTime, changed⟩
  rcases operation.onJob?_eq_some seen with ⟨found, _, reading⟩
  have member := Store.mem_of_job? changed
  have only : ∀ other ∈ (operation.after settings).jobs, operation.ends other = true →
      other = jobOperation.after settings.maxAttempts := by
    intro other there ended
    by_cases equal : other.id = id
    · have otherFound := Store.job?_of_mem distinct there
      rw [equal, changed] at otherFound
      exact (Option.some.inj otherFound).symm
    · rw [operation.ends_of_unseen regular distinct there
        (operation.unseen_of_other seen equal)] at ended
      cases ended
  have isEnd : operation.ends (jobOperation.after settings.maxAttempts) = true ↔
      jobOperation.before.status.isTerminal = false ∧
        (jobOperation.after settings.maxAttempts).status.isTerminal = true := by
    unfold ends
    rw [Store.job?_id changed, found, Option.any_some]
    simp [and_comm]
  unfold endings JobOperation.endings
  rw [filter_of_only (List.Nodup.of_map _ distinct) member only, reading]
  by_cases ended : operation.ends (jobOperation.after settings.maxAttempts) = true
  · rw [if_pos ended, if_pos (isEnd.mp ended), List.map_singleton]
  · rw [if_neg ended, if_neg (mt isEnd.mpr ended), List.map_nil]

/-- The ends of one job are those that it sees itself. -/
theorem filter_endings (regular : operation.Regular settings)
    (distinct : ((operation.after settings).jobs.map (·.id)).Nodup) (id : JobId) :
    (operation.endings settings).filter (·.1.id == id) =
      (operation.onJob? id).toList.flatMap (·.endings settings.maxAttempts) := by
  rcases operation.seen_or_unseen with ⟨other, jobOperation, seen⟩ | unseen
  · have sameId : ∀ ending ∈ jobOperation.endings settings.maxAttempts, ending.1.id = other := by
      intro ending member
      unfold JobOperation.endings at member
      split at member
      · rw [List.mem_singleton.mp member]
        exact Store.job?_id (operation.job?_after_of_seen regular seen).2
      · cases member
    rw [operation.endings_of_seen regular distinct seen]
    by_cases equal : other = id
    · subst equal
      rw [seen, Option.toList_some, List.flatMap_singleton, List.filter_eq_self]
      intro ending member
      exact beq_iff_eq.mpr (sameId ending member)
    · rw [operation.unseen_of_other seen (Ne.symm equal), Option.toList_none, List.flatMap_nil,
        List.filter_eq_nil_iff]
      intro ending member isId
      exact equal ((sameId ending member).symm.trans (beq_iff_eq.mp isId))
  · rw [operation.endings_of_unseen regular distinct unseen, unseen id]
    rfl

/-! ## Events -/

theorem events_of_unseen (unseen : ∀ id, operation.onJob? id = none) :
    (operation.after settings).events = operation.before.events := by
  unfold after
  cases addressed : operation.call.addressed? with
  | none => exact (Store.perform_unaddressed addressed).2
  | some target =>
      rcases target with ⟨addressee, call⟩
      have absent : operation.before.job? addressee = none := by
        cases found : operation.before.job? addressee with
        | none => rfl
        | some job =>
            have seen := unseen addressee
            simp [onJob?, found, addressed] at seen
      rw [Store.perform_addressed addressed, Store.mutate_missing absent]

theorem events_of_seen (regular : operation.Regular settings) {jobOperation : JobOperation}
    (seen : operation.onJob? id = some jobOperation) :
    (operation.after settings).events = operation.before.events ++
      (jobOperation.endings settings.maxAttempts).map fun ending =>
        JobEvent.ofJob (operation.before.events.length + 1) ending.1 ending.2 := by
  have inTime := (operation.job?_after_of_seen regular seen).1
  rcases operation.onJob?_eq_some seen with ⟨found, addressed, reading⟩
  have step := JobOperation.step inTime
  have isEnd : ((jobOperation.after settings.maxAttempts).status ≠ jobOperation.before.status ∧
        (jobOperation.after settings.maxAttempts).status.isTerminal = true) ↔
      (jobOperation.before.status.isTerminal = false ∧
        (jobOperation.after settings.maxAttempts).status.isTerminal = true) := by
    cases before : jobOperation.before.status.isTerminal with
    | true => simp [step.eq_of_terminal before]
    | false =>
        have changes : (jobOperation.after settings.maxAttempts).status.isTerminal = true →
            (jobOperation.after settings.maxAttempts).status ≠ jobOperation.before.status := by
          intro ended same
          rw [same, before] at ended
          cases ended
        exact ⟨fun parts => ⟨rfl, parts.2⟩, fun parts => ⟨changes parts.2, parts.2⟩⟩
  unfold JobOperation.InTime JobOperation.outcome at inTime
  unfold JobOperation.endings after
  unfold JobOperation.after at isEnd ⊢
  rw [Store.perform_addressed addressed, reading, Store.mutate_found found inTime]
  by_cases ended : jobOperation.before.status.isTerminal = false ∧
      (jobOperation.before.perform settings.maxAttempts jobOperation.now
        jobOperation.call).2.status.isTerminal = true
  · rw [if_pos (isEnd.mpr ended), if_pos ended, Store.events_announce, Store.events_replace]
    rfl
  · rw [if_neg (mt isEnd.mp ended), if_neg ended, Store.events_replace]
    exact (List.append_nil _).symm

/-- An operation announces the job that it ends. -/
theorem events_after (regular : operation.Regular settings)
    (distinct : ((operation.after settings).jobs.map (·.id)).Nodup) :
    (operation.after settings).events = operation.before.events ++
      ((operation.endings settings).zipIdx (operation.before.events.length + 1)).map
        fun (ending, number) => JobEvent.ofJob number ending.1 ending.2 := by
  rcases operation.seen_or_unseen with ⟨id, jobOperation, seen⟩ | unseen
  · rw [operation.events_of_seen regular seen, operation.endings_of_seen regular distinct seen]
    unfold JobOperation.endings
    split <;> rfl
  · rw [operation.events_of_unseen unseen, operation.endings_of_unseen regular distinct unseen]
    exact (List.append_nil _).symm

end Operation

/-! ## In every run -/

namespace Store.Run

variable {settings : StoreSettings} {history : List Operation} {store : Store}

/-- The outbox lists the ends of jobs in their order, numbered from one. -/
theorem events_eq (run : Run settings .empty history store) :
    store.events = ((history.flatMap (·.endings settings)).zipIdx 1).map
      fun (ending, number) => JobEvent.ofJob number ending.1 ending.2 := by
  induction run with
  | start => rfl
  | @step history operation run regular induction =>
      have length : operation.before.events.length =
          (history.flatMap (·.endings settings)).length := by
        rw [induction, List.length_map, List.length_zipIdx]
      rw [operation.events_after regular (run.step regular).distinct_from_empty, length,
        List.flatMap_append, List.flatMap_singleton, List.zipIdx_append, List.map_append,
        ← induction, Nat.add_comm]

theorem filter_endings (run : Run settings .empty history store) (id : JobId) :
    (history.flatMap (·.endings settings)).filter (·.1.id == id) =
      (history.filterMap (·.onJob? id)).flatMap (·.endings settings.maxAttempts) := by
  rw [List.filter_flatMap, List.filterMap_eq_flatMap_toList, List.flatMap_assoc]
  apply List.flatMap_congr
  intro operation member
  rcases run.of_mem member with ⟨regular, past, before⟩
  exact operation.filter_endings regular (before.step regular).distinct_from_empty id

/-- The events of a job come from its ends. -/
theorem filter_events (run : Run settings .empty history store) (id : JobId) :
    ∃ numbered : List ((Job × Instant) × Nat),
      numbered.map Prod.fst =
          (history.filterMap (·.onJob? id)).flatMap (·.endings settings.maxAttempts) ∧
        store.events.filter (·.jobId == id) =
          numbered.map fun (ending, number) => JobEvent.ofJob number ending.1 ending.2 := by
  refine ⟨((history.flatMap (·.endings settings)).zipIdx 1).filter (·.1.1.id == id), ?_, ?_⟩
  · have unnumbered := congrArg (List.filter (·.1.id == id))
      (List.zipIdx_map_fst 1 (history.flatMap (·.endings settings)))
    rw [List.filter_map, run.filter_endings] at unnumbered
    exact unnumbered
  · rw [run.events_eq, List.filter_map]
    rfl

/-- The outbox has one event of each job that has ended, which tells how, and none
of the others. It lists the ends of jobs in the order of the operations, numbered
from one without gaps, and all its events are of jobs in the store. -/
theorem outbox_matches_jobs (run : Run settings .empty history store) :
    (∀ job ∈ store.jobs,
      (job.status.isTerminal = true → ∃ number,
        store.events.filter (·.jobId == job.id) =
          [JobEvent.ofJob number job job.updatedAt]) ∧
      (job.status.isTerminal = false → store.events.filter (·.jobId == job.id) = [])) ∧
    (store.events = ((history.flatMap (·.endings settings)).zipIdx 1).map
      fun (ending, number) => JobEvent.ofJob number ending.1 ending.2) ∧
    store.events.map (·.number) = (List.range' 1 store.events.length).map Int.ofNat ∧
    ∀ event ∈ store.events, ∃ job ∈ store.jobs, job.id = event.jobId := by
  refine ⟨?_, run.events_eq, ?_, ?_⟩
  · intro job member
    have found := job?_of_mem run.distinct_from_empty member
    rcases run.job_history rfl found with ⟨target, payload, time, _, jobRun⟩
    rcases run.filter_events job.id with ⟨numbered, ends, events⟩
    rw [jobRun.endings] at ends
    constructor
    · intro ended
      rw [if_pos ended] at ends
      rcases List.map_eq_singleton_iff.mp ends with ⟨⟨ending, number⟩, single, rfl⟩
      exact ⟨number, by rw [events, single]; rfl⟩
    · intro unfinished
      rw [unfinished, if_neg Bool.false_ne_true, List.map_eq_nil_iff] at ends
      rw [events, ends, List.map_nil]
  · have numbers : store.events.map (·.number) =
        (((history.flatMap (·.endings settings)).zipIdx 1).map Prod.snd).map Int.ofNat := by
      rw [run.events_eq, List.map_map, List.map_map]
      rfl
    have length : store.events.length = (history.flatMap (·.endings settings)).length := by
      rw [run.events_eq, List.length_map, List.length_zipIdx]
    rw [numbers, List.zipIdx_map_snd, length]
  · intro event member
    cases found : store.job? event.jobId with
    | some job => exact ⟨job, mem_of_job? found, job?_id found⟩
    | none =>
        rcases run.filter_events event.jobId with ⟨numbered, ends, events⟩
        rw [run.unseen_of_absent found, List.flatMap_nil, List.map_eq_nil_iff] at ends
        have there : event ∈ store.events.filter (·.jobId == event.jobId) :=
          List.mem_filter.mpr ⟨member, beq_self_eq_true _⟩
        rw [events, ends] at there
        cases there

/-- The sample run ends both of its jobs, the second one by a claim that fails. -/
theorem sample_outbox_matches_jobs :
    Run Sample.settings .empty Sample.history Sample.store ∧
      Sample.store.events.map (·.number) = [1, 2] ∧
      ∃ job ∈ Sample.store.jobs, job.id = Sample.secondJob ∧ job.status = .lost ∧
        ∃ number, Sample.store.events.filter (·.jobId == job.id) =
          [JobEvent.ofJob number job job.updatedAt] := by
  rcases Sample.run.outbox_matches_jobs with ⟨eventOf, _, numbers, _⟩
  rcases Sample.secondJob_lost with ⟨job, found, lost⟩
  have two : Sample.store.events.length = 2 := by decide
  rw [two] at numbers
  exact ⟨Sample.run, numbers, job, mem_of_job? found, job?_id found, lost,
    (eventOf job (mem_of_job? found)).1 (by rw [lost]; rfl)⟩

end Store.Run

end BuildFleet
