import BuildFleet.Proofs.Store.Backlog
import Mathlib

/-!
# Republication

Queued jobs that nobody took are published again, the longest unpublished
first. A call marks the jobs that it returns, which puts them behind all others
that were stale by then. So calls at one instant go through the backlog in
chunks, and over any course no job comes twice while another one that was stale
at its first turn still waits for its own.
-/

namespace BuildFleet

/-- The chunks of one size hold every item, and an item that is not repeated is
in one of them alone. -/
private theorem existsUnique_chunk {items : List α} (distinct : items.Nodup) {size : Nat}
    (positive : 0 < size) {item : α} (member : item ∈ items) :
    ∃! index, item ∈ (items.drop (index * size)).take size := by
  rcases List.mem_iff_getElem.mp member with ⟨position, within, rfl⟩
  have spot : ∀ index, items[position] ∈ (items.drop (index * size)).take size ↔
      index * size ≤ position ∧ position < index * size + size := by
    intro index
    rw [List.mem_take_iff_getElem]
    constructor
    · rintro ⟨offset, inChunk, same⟩
      rw [List.length_drop] at inChunk
      rw [List.getElem_drop, distinct.getElem_inj_iff] at same
      omega
    · rintro ⟨lower, upper⟩
      refine ⟨position - index * size, by rw [List.length_drop]; omega, ?_⟩
      rw [List.getElem_drop, distinct.getElem_inj_iff]
      omega
  have division := Nat.div_add_mod' position size
  have remainder := Nat.mod_lt position positive
  refine ⟨position / size, (spot _).mpr (by omega), ?_⟩
  intro index inChunk
  have bounds := (spot index).mp inChunk
  exact (Nat.div_eq_of_lt_le bounds.1 (by rw [Nat.succ_mul]; exact bounds.2)).symm

/-! ## Turns over a course -/

/-- The jobs that a call publishes again. -/
def StoreCall.republishes : (call : StoreCall) → Outcome call.Answer → List JobId
  | .staleQueued _ _, .done jobs => jobs.map (·.id)
  | _, _ => []

/-- When a queued job was last published; no other job waits. -/
def Store.waitsSince? (store : Store) (id : JobId) : Option Instant :=
  ((store.job? id).filter (·.status == .queued)).map store.lastPublished

theorem Store.waitsSince?_eq_some {store : Store} {id : JobId} {since : Instant} :
    store.waitsSince? id = some since ↔ ∃ job, store.job? id = some job ∧
      job.status = .queued ∧ store.lastPublished job = since := by
  simp [waitsSince?, Option.filter_eq_some_iff, and_assoc]

namespace Operation

variable {settings : StoreSettings} {id : JobId} {operation : Operation} {since : Instant}

/-- The jobs that the operation publishes again. -/
def republished (settings : StoreSettings) (operation : Operation) : List JobId :=
  operation.call.republishes (operation.outcome settings)

/-- Only a call for stale jobs publishes or marks any. -/
theorem published_after (other : ∀ olderThan limit, operation.call ≠ .staleQueued olderThan limit) :
    (operation.after settings).published = operation.before.published ∧
      operation.republished settings = [] := by
  rcases operation with ⟨before, now, call⟩
  constructor
  · unfold after
    cases addressed : call.addressed? with
    | some target =>
        rcases target with ⟨addressee, jobCall⟩
        rw [Store.perform_addressed addressed]
        exact Store.published_mutate
    | none =>
        cases call <;> simp only [StoreCall.addressed?, reduceCtorEq] at addressed
        case staleQueued olderThan limit => exact absurd rfl (other olderThan limit)
        case create id target payload =>
          simp only [Store.perform, Store.create]
          split <;> rfl
        case acknowledge number =>
          simp only [Store.perform, Store.acknowledge]
          split <;> rfl
        all_goals rfl
  · cases call with
    | staleQueued olderThan limit => exact absurd rfl (other olderThan limit)
    | _ => rfl

theorem staleQueued_or_other (operation : Operation) :
    (∃ olderThan limit, operation.call = .staleQueued olderThan limit) ∨
      ∀ olderThan limit, operation.call ≠ .staleQueued olderThan limit := by
  by_cases stale : ∃ olderThan limit, operation.call = .staleQueued olderThan limit
  · exact .inl stale
  · exact .inr fun olderThan limit same => stale ⟨olderThan, limit, same⟩

theorem after_staleQueued {olderThan : Span} {limit : Int}
    (stale : operation.call = .staleQueued olderThan limit) :
    operation.after settings =
      (operation.before.staleQueued olderThan limit operation.now).2 := by
  rcases operation with ⟨before, now, call⟩
  cases stale
  rfl

theorem republished_eq {olderThan : Span} {limit : Int} {cutoff : Instant}
    (stale : operation.call = .staleQueued olderThan limit)
    (moved : operation.now.before? olderThan = some cutoff) :
    operation.republished settings =
      ((operation.before.backlog cutoff).take limit.toNat).map (·.id) := by
  rcases operation with ⟨before, now, call⟩
  cases stale
  simp only [republished, outcome, Store.perform, Store.staleQueued_eq moved,
    StoreCall.republishes]

theorem republished_eq_nil {olderThan : Span} {limit : Int}
    (stale : operation.call = .staleQueued olderThan limit)
    (beyond : operation.now.before? olderThan = none) : operation.republished settings = [] := by
  rcases operation with ⟨before, now, call⟩
  cases stale
  simp only [republished, outcome, Store.perform, Store.staleQueued, beyond,
    StoreCall.republishes]

/-- The jobs that are published again are the first of a backlog. -/
theorem backlog_of_republished (returned : id ∈ operation.republished settings) :
    ∃ olderThan limit cutoff, operation.call = .staleQueued olderThan limit ∧
      operation.now.before? olderThan = some cutoff ∧
      ∃ job ∈ (operation.before.backlog cutoff).take limit.toNat, job.id = id := by
  rcases operation.staleQueued_or_other with ⟨olderThan, limit, stale⟩ | other
  · cases moved : operation.now.before? olderThan with
    | none =>
        rw [republished_eq_nil stale moved] at returned
        cases returned
    | some cutoff =>
        rw [republished_eq stale moved] at returned
        exact ⟨olderThan, limit, cutoff, stale, moved, List.mem_map.mp returned⟩
  · rw [(published_after other).2] at returned
    cases returned

/-- What became of the wait of a job that waits after an operation. -/
inductive Waits (settings : StoreSettings) (operation : Operation) (id : JobId)
    (since : Instant) : Prop
  | on (before : operation.before.waitsSince? id = some since)
      (passed : id ∉ operation.republished settings)
  | again (returned : id ∈ operation.republished settings) (recent : operation.now ≤ since)
  | anew (before : operation.before.waitsSince? id = none) (recent : operation.now ≤ since)

private theorem waits_of_staleQueued {olderThan : Span} {limit : Int}
    (stale : operation.call = .staleQueued olderThan limit)
    (after : (operation.after settings).waitsSince? id = some since) :
    operation.Waits settings id since := by
  rcases Store.waitsSince?_eq_some.mp after with ⟨job, found, queued, published⟩
  rw [after_staleQueued stale] at found published
  rw [Store.job?_eq_of_jobs_eq (operation.before.jobs_staleQueued olderThan limit operation.now)]
    at found
  have isId := Store.job?_id found
  subst isId
  cases moved : operation.now.before? olderThan with
  | none =>
      simp only [Store.staleQueued, moved] at published
      refine .on (Store.waitsSince?_eq_some.mpr ⟨job, found, queued, published⟩) ?_
      rw [republished_eq_nil stale moved]
      exact List.not_mem_nil
  | some cutoff =>
      have returns : operation.republished settings = _ := republished_eq stale moved
      rw [Store.lastPublished_staleQueued moved found queued, ← returns] at published
      split_ifs at published with returned
      · refine .again returned ?_
        rw [← published]
        exact (Instant.le_later _ _).1
      · exact .on (Store.waitsSince?_eq_some.mpr ⟨job, found, queued, published⟩) returned

private theorem waits_of_other
    (other : ∀ olderThan limit, operation.call ≠ .staleQueued olderThan limit)
    (after : (operation.after settings).waitsSince? id = some since) :
    operation.Waits settings id since := by
  rcases Store.waitsSince?_eq_some.mp after with ⟨job, found, queued, published⟩
  have marks : (operation.after settings).published = operation.before.published ∧
    operation.republished settings = [] := published_after other
  rcases marks with ⟨sameMarks, none⟩
  rcases operation.queued_after found queued with
    ⟨earlier, there, before, since⟩ | ⟨unqueued, _, recent⟩
  · refine .on (Store.waitsSince?_eq_some.mpr ⟨earlier, there, before, ?_⟩) (by simp [none])
    rw [← published, Store.lastPublished, Store.lastPublished, sameMarks, since,
      Store.job?_id there, Store.job?_id found]
  · refine .anew ?_ ?_
    · unfold Store.waitsSince?
      cases there : operation.before.job? id with
      | none => rfl
      | some earlier =>
          rw [there, Option.any_some] at unqueued
          simpa using unqueued
    · rw [← published, ← recent]
      exact Store.updatedAt_le_lastPublished _ _

theorem waits (after : (operation.after settings).waitsSince? id = some since) :
    operation.Waits settings id since := by
  rcases operation.staleQueued_or_other with ⟨olderThan, limit, stale⟩ | other
  · exact waits_of_staleQueued stale after
  · exact waits_of_other other after

theorem waits_of_republished (distinct : (operation.before.jobs.map (·.id)).Nodup)
    (returned : id ∈ operation.republished settings) :
    ∃ since, operation.before.waitsSince? id = some since := by
  rcases backlog_of_republished returned with ⟨_, _, cutoff, _, _, job, taken, isId⟩
  rcases Store.mem_backlog.mp (List.mem_of_mem_take taken) with ⟨member, queued, _⟩
  have found := Store.job?_of_mem distinct member
  rw [isId] at found
  exact ⟨_, Store.waitsSince?_eq_some.mpr ⟨job, found, queued, rfl⟩⟩

/-- A call that publishes a job again does so with all that wait longer. -/
theorem republished_of_longer (distinct : (operation.before.jobs.map (·.id)).Nodup)
    {other : JobId} {longer : Instant} (returned : id ∈ operation.republished settings)
    (waits : operation.before.waitsSince? id = some since)
    (otherWaits : operation.before.waitsSince? other = some longer) (earlier : longer < since) :
    other ∈ operation.republished settings := by
  rcases backlog_of_republished returned with ⟨_, limit, cutoff, stale, moved, job, taken, isId⟩
  rcases Store.mem_backlog.mp (List.mem_of_mem_take taken) with ⟨member, _, passed⟩
  rcases Store.waitsSince?_eq_some.mp waits with ⟨same, found, _, published⟩
  rcases Store.waitsSince?_eq_some.mp otherWaits with ⟨otherJob, there, queued, otherPublished⟩
  have sameJob : job = same := by
    have foundAgain := Store.job?_of_mem distinct member
    rw [isId, found] at foundAgain
    exact (Option.some.inj foundAgain).symm
  rw [sameJob, published] at passed
  have listed : otherJob ∈ operation.before.backlog cutoff :=
    Store.mem_backlog.mpr ⟨Store.mem_of_job? there, queued, by
      rw [otherPublished]
      exact earlier.le.trans passed⟩
  have sorted : (operation.before.backlog cutoff).Pairwise operation.before.PublishedBefore :=
    Store.backlog_pairwise distinct
  rw [← List.take_append_drop limit.toNat (operation.before.backlog cutoff)] at listed sorted
  rw [republished_eq stale moved]
  rcases List.mem_append.mp listed with first | behind
  · exact List.mem_map.mpr ⟨otherJob, first, Store.job?_id there⟩
  · have before := (List.pairwise_append.mp sorted).2.2 job taken otherJob behind
    unfold Store.PublishedBefore at before
    rw [sameJob, published, otherPublished] at before
    rcases before with sooner | ⟨equal, _⟩
    · exact absurd sooner earlier.asymm
    · exact absurd equal earlier.ne'

/-- A mark that is there after an operation was there before, or the operation
publishes the job. -/
theorem marked_after {mark : Instant}
    (marked : (operation.after settings).published.lookup id = some mark) :
    operation.before.published.lookup id = some mark ∨
      (id ∈ operation.republished settings ∧ operation.now = mark) := by
  rcases operation.staleQueued_or_other with ⟨olderThan, limit, stale⟩ | other
  · rw [after_staleQueued stale] at marked
    cases moved : operation.now.before? olderThan with
    | none =>
        simp only [Store.staleQueued, moved] at marked
        exact .inl marked
    | some cutoff =>
        rw [Store.staleQueued_eq moved, Store.lookup_foldl_mark] at marked
        rw [Store.lookup_pruneMarks] at marked
        split_ifs at marked with returned
        · exact .inr ⟨(republished_eq stale moved).symm ▸ returned, Option.some.inj marked⟩
        · exact .inl marked
  · have marks : (operation.after settings).published = operation.before.published :=
      (published_after other).1
    rw [marks] at marked
    exact .inl marked

/-- The operation makes a job, returns it to the queue or publishes it again. -/
def makesKnown (settings : StoreSettings) (id : JobId) (operation : Operation) : Bool :=
  operation.queues settings id || (operation.republished settings).contains id

end Operation

namespace Store.Course

variable {settings : StoreSettings} {id : JobId} {first last : Store}
  {history : List Operation} {since : Instant}

theorem marked_since (course : Course settings .empty history last) {mark : Instant}
    (marked : last.published.lookup id = some mark) :
    ∃ operation ∈ history, id ∈ operation.republished settings ∧ operation.now = mark := by
  induction course with
  | start => cases marked
  | @step history operation course fresh induction =>
      rcases operation.marked_after marked with before | ⟨returned, reading⟩
      · rcases induction before with ⟨past, member, returned, reading⟩
        exact ⟨past, List.mem_append_left _ member, returned, reading⟩
      · exact ⟨operation, List.mem_append_right _ (List.mem_singleton_self _), returned, reading⟩

/-- A queued job was made known when it was last published. -/
theorem known_since (course : Course settings .empty history last) {job : Job}
    (found : last.job? id = some job) (queued : job.status = .queued) :
    ∃ operation ∈ history, operation.makesKnown settings id = true ∧
      operation.now = last.lastPublished job := by
  rcases course.queued_since found queued with ⟨queuing, member, queues, reading⟩
  have fromQueuing : last.lastPublished job = job.updatedAt →
      ∃ operation ∈ history, operation.makesKnown settings id = true ∧
        operation.now = last.lastPublished job := by
    intro same
    exact ⟨queuing, member, by rw [Operation.makesKnown, queues, Bool.true_or],
      by rw [same, reading]⟩
  have isId := Store.job?_id found
  cases marked : last.published.lookup job.id with
  | none =>
      refine fromQueuing ?_
      rw [lastPublished, marked]
  | some mark =>
      have latest : last.lastPublished job = mark.later job.updatedAt := by
        rw [lastPublished, marked]
      rcases le_total mark job.updatedAt with sooner | later
      · exact fromQueuing (latest.trans (Instant.later_eq_right sooner))
      · rw [isId] at marked
        rcases course.marked_since marked with ⟨marking, there, returned, markReading⟩
        refine ⟨marking, there, ?_, ?_⟩
        · rw [Operation.makesKnown, List.contains_iff_mem.mpr returned, Bool.or_true]
        · rw [latest, Instant.later_eq_left later, markReading]

/-- A job that waits all along and is not published again waits since the same time. -/
theorem waits_on (course : Course settings first history last)
    (waits : first.waitsSince? id = some since)
    (queued : ∀ operation ∈ history, ∃ job,
      operation.before.job? id = some job ∧ job.status = .queued)
    (stillQueued : ∃ job, last.job? id = some job ∧ job.status = .queued)
    (passed : ∀ operation ∈ history, id ∉ operation.republished settings) :
    last.waitsSince? id = some since := by
  induction course with
  | start => exact waits
  | @step history operation course fresh induction =>
      have newest := List.mem_append_right history (List.mem_singleton_self operation)
      have before := induction (fun past member => queued past (List.mem_append_left _ member))
        (queued operation newest) fun past member => passed past (List.mem_append_left _ member)
      rcases stillQueued with ⟨job, found, isQueued⟩
      have after := Store.waitsSince?_eq_some.mpr ⟨job, found, isQueued, rfl⟩
      cases operation.waits after with
      | on same _ =>
          rw [before] at same
          rw [after, same]
      | again returned => exact absurd returned (passed operation newest)
      | anew absent =>
          rw [before] at absent
          cases absent

/-- A job does not wait since before a time, if it did not at that time. -/
theorem waits_no_longer (course : Course settings first history last)
    (later : ∀ operation ∈ history, since ≤ operation.now)
    (start : ∀ time, first.waitsSince? id = some time → since ≤ time) :
    ∀ time, last.waitsSince? id = some time → since ≤ time := by
  induction course with
  | start => exact start
  | @step history operation course fresh induction =>
      intro time waits
      have reading := later operation
        (List.mem_append_right history (List.mem_singleton_self operation))
      cases operation.waits waits with
      | on before =>
          exact induction (fun past member => later past (List.mem_append_left _ member)) time
            before
      | again _ recent => exact reading.trans recent
      | anew _ recent => exact reading.trans recent

/-- If a call publishes a job again that an earlier one had published, then every
job that was stale at the earlier call and is queued ever since has been
published by one of the two or a call between them. -/
theorem published_between {past between future : List Operation} {turn nextTurn : Operation}
    (course : Course settings first (past ++ turn :: between ++ nextTurn :: future) last)
    (distinct : (first.jobs.map (·.id)).Nodup)
    (ordered : (past ++ turn :: between ++ nextTurn :: future).Pairwise (·.now ≤ ·.now))
    {cutoff : Instant} (earlier : cutoff < turn.now) {repeated : JobId}
    (returned : repeated ∈ turn.republished settings)
    (returnedAgain : repeated ∈ nextTurn.republished settings)
    {job : Job} (stale : job ∈ turn.before.staleJobs cutoff)
    (queued : ∀ operation ∈ between ++ [nextTurn], ∃ later,
      operation.before.job? job.id = some later ∧ later.status = .queued) :
    ∃ operation ∈ turn :: between ++ [nextTurn], job.id ∈ operation.republished settings := by
  by_cases sooner : ∃ operation ∈ turn :: between, job.id ∈ operation.republished settings
  · rcases sooner with ⟨operation, member, published⟩
    exact ⟨operation, List.mem_append_left _ member, published⟩
  -- If it was passed over so far, it waits since before the first turn, and the
  -- repeated job since that turn at the earliest: it is in front at the next one.
  have passed : ∀ operation ∈ turn :: between, job.id ∉ operation.republished settings :=
    fun operation member published => sooner ⟨operation, member, published⟩
  rcases course.around with ⟨upToNext, -, -⟩
  rcases upToNext.around with ⟨upToTurn, afterTurn, fromTurn⟩
  have distinctAtTurn := upToTurn.distinct distinct
  have distinctAtNext := upToNext.distinct distinct
  rcases mem_staleJobs.mp stale with ⟨member, waiting⟩
  have found := job?_of_mem distinctAtTurn member
  have jobWaits : nextTurn.before.waitsSince? job.id = some (turn.before.lastPublished job) := by
    refine fromTurn.waits_on (waitsSince?_eq_some.mpr ⟨job, found, waiting.1, rfl⟩) ?_
      (queued nextTurn (List.mem_append_right _ (List.mem_singleton_self _))) passed
    intro operation there
    rcases List.mem_cons.mp there with rfl | inBetween
    · exact ⟨job, found, waiting.1⟩
    · exact queued operation (List.mem_append_left _ inBetween)
  rcases nextTurn.waits_of_republished distinctAtNext returnedAgain with ⟨since, repeatedWaits⟩
  have recent : turn.now ≤ since := by
    refine afterTurn.waits_no_longer ?_ ?_ since repeatedWaits
    · intro operation inBetween
      have fromTurnOn := (List.pairwise_append.mp (List.pairwise_append.mp ordered).1).2.1
      exact (List.pairwise_cons.mp fromTurnOn).1 operation inBetween
    · intro time waits
      cases turn.waits waits with
      | on _ notReturned => exact absurd returned notReturned
      | again _ recent => exact recent
      | anew _ recent => exact recent
  exact ⟨nextTurn, List.mem_append_right _ (List.mem_singleton_self _),
    nextTurn.republished_of_longer distinctAtNext returnedAgain repeatedWaits jobWaits
      ((waiting.2.trans_lt earlier).trans_le recent)⟩

/-- Calls for stale jobs at one instant return the backlog in chunks, from the
longest unpublished job on, each job once and then nothing. Over any course that
follows, with the clock going on, a job is published a second time only after
every other one that was stale at its first turn and is queued ever since. -/
theorem republication_rotates {store : Store} (course : Course settings .empty history store) :
    (∀ {now cutoff : Instant} {olderThan : Span} {limit : Int},
      1 ≤ olderThan.milliseconds → olderThan.milliseconds < 9223372036854775808 →
      now.before? olderThan = some cutoff → 1 ≤ limit →
      ∃ backlog : List Job,
        (∀ job, job ∈ backlog ↔
          job ∈ store.jobs ∧ job.status = .queued ∧ store.lastPublished job ≤ cutoff) ∧
        backlog.Pairwise store.PublishedBefore ∧
        (∀ calls, store.answerAfter settings olderThan limit now calls =
          .done ((backlog.drop (calls * limit.toNat)).take limit.toNat)) ∧
        (∀ job ∈ backlog, ∃! calls, ∃ jobs,
          store.answerAfter settings olderThan limit now calls = .done jobs ∧ job ∈ jobs) ∧
        ∀ calls, backlog.length ≤ calls * limit.toNat →
          store.answerAfter settings olderThan limit now calls = .done []) ∧
    ∀ (past between future : List Operation) (turn nextTurn : Operation) (last : Store),
      Course settings store (past ++ turn :: between ++ nextTurn :: future) last →
      (past ++ turn :: between ++ nextTurn :: future).Pairwise (·.now ≤ ·.now) →
      ∀ {olderThan : Span} {limit : Int} {cutoff : Instant},
        turn.call = .staleQueued olderThan limit →
        1 ≤ olderThan.milliseconds → olderThan.milliseconds < 9223372036854775808 →
        turn.now.before? olderThan = some cutoff →
        ∀ repeated, repeated ∈ turn.republished settings →
          repeated ∈ nextTurn.republished settings →
          ∀ job ∈ turn.before.staleJobs cutoff,
            (∀ operation ∈ between ++ [nextTurn], ∃ later,
              operation.before.job? job.id = some later ∧ later.status = .queued) →
            ∃ operation ∈ turn :: between ++ [nextTurn],
              job.id ∈ operation.republished settings := by
  have distinct := course.distinct_from_empty
  constructor
  · intro now cutoff olderThan limit least most moved positive
    have earlier := Instant.before?_lt least most moved
    have nodup : (store.backlog cutoff).Nodup := backlog_nodup distinct
    have answers : ∀ calls, store.answerAfter settings olderThan limit now calls =
        .done (((store.backlog cutoff).drop (calls * limit.toNat)).take limit.toNat) :=
      answerAfter_eq distinct moved earlier
    refine ⟨store.backlog cutoff, fun job => mem_backlog, backlog_pairwise distinct, answers,
      ?_, ?_⟩
    · intro job member
      simp only [answers, Outcome.done.injEq, exists_eq_left']
      exact existsUnique_chunk nodup (by omega) member
    · intro calls passed
      rw [answers, List.drop_of_length_le passed, List.take_nil]
  · intro past between future turn nextTurn last later ordered olderThan limit cutoff _ least most
      moved repeated returned returnedAgain job stale queued
    exact later.published_between distinct ordered (Instant.before?_lt least most moved)
      returned returnedAgain stale queued

end Store.Course

/-! ## A sample course

Three queued jobs wait; calls for two of them come ten seconds apart. -/

namespace Sample

def thirdJob : JobId := .ofNat 3

def waitingCalls : List (Instant × StoreCall) := [
  (moment 0, .create firstJob ⟨"amd64"⟩ .null),
  (moment 1, .create secondJob ⟨"amd64"⟩ .null),
  (moment 2, .create thirdJob ⟨"amd64"⟩ .null)]

def waitingStore : Store := Store.empty.afterCalls settings waitingCalls

theorem waitingCourse :
    Store.Course settings .empty (Store.empty.operations settings waitingCalls) waitingStore :=
  (Store.Run.of_calls (by decide)).course

def turn : Operation := ⟨waitingStore, moment 10, .staleQueued lease 2⟩

def nextTurn : Operation := ⟨turn.after settings, moment 20, .staleQueued lease 2⟩

theorem turns : Store.Course settings waitingStore [turn, nextTurn] (nextTurn.after settings) := by
  have fresh : turn.Fresh settings := by decide
  have nextFresh : nextTurn.Fresh settings := by decide
  exact Store.Course.cons fresh (Store.Course.cons nextFresh .start)

theorem turn_republished : turn.republished settings = [firstJob, secondJob] := by cbv

theorem nextTurn_republished : nextTurn.republished settings = [thirdJob, firstJob] := by cbv

end Sample

/-- At one instant the third job comes up once. Ten seconds later it does before
the first job is done with its second turn. -/
theorem Store.Course.sample_republication_rotates :
    Course Sample.settings .empty (Store.empty.operations Sample.settings Sample.waitingCalls)
        Sample.waitingStore ∧
      Course Sample.settings Sample.waitingStore [Sample.turn, Sample.nextTurn]
        (Sample.nextTurn.after Sample.settings) ∧
      Sample.firstJob ∈ Sample.turn.republished Sample.settings ∧
      Sample.firstJob ∈ Sample.nextTurn.republished Sample.settings ∧
      ∃ job ∈ Sample.waitingStore.jobs, job.id = Sample.thirdJob ∧
        (∃! calls, ∃ jobs, Sample.waitingStore.answerAfter Sample.settings Sample.lease 2
          (Sample.moment 10) calls = .done jobs ∧ job ∈ jobs) ∧
        ∃ operation ∈ [Sample.turn, Sample.nextTurn],
          job.id ∈ operation.republished Sample.settings := by
  rcases Sample.waitingCourse.republication_rotates with ⟨atOnce, overTime⟩
  have moved : (Sample.moment 10).before? Sample.lease = some (Sample.moment 5) := by decide
  have least : 1 ≤ Sample.lease.milliseconds := by decide
  have most : Sample.lease.milliseconds < 9223372036854775808 := by decide
  have returned : Sample.firstJob ∈ Sample.turn.republished Sample.settings := by
    simp [Sample.turn_republished]
  have returnedAgain : Sample.firstJob ∈ Sample.nextTurn.republished Sample.settings := by
    simp [Sample.nextTurn_republished]
  let job := Job.new Sample.thirdJob ⟨"amd64"⟩ .null (Sample.moment 2)
  have found : Sample.waitingStore.job? Sample.thirdJob = some job := by decide
  have stale : job ∈ Sample.waitingStore.staleJobs (Sample.moment 5) := by decide
  have stillQueued : Sample.nextTurn.before.job? job.id = some job := by
    rw [← found]
    exact job?_eq_of_jobs_eq (jobs_staleQueued _ _ _ _) _
  rcases atOnce least most moved (show 1 ≤ (2 : Int) by decide) with
    ⟨backlog, listed, _, _, once, _⟩
  refine ⟨Sample.waitingCourse, Sample.turns, returned, returnedAgain, job, mem_of_job? found, rfl,
    once job ((listed job).mpr (by simpa [staleJobs] using stale)), ?_⟩
  exact overTime [] [] [] Sample.turn Sample.nextTurn _ Sample.turns (by decide) rfl least most
    moved Sample.firstJob returned returnedAgain job stale (by simpa using ⟨job, stillQueued, rfl⟩)

end BuildFleet
