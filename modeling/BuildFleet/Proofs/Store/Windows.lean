import BuildFleet.Proofs.Job.Expiry
import BuildFleet.Proofs.Store.Republication
import BuildFleet.Proofs.Store.Workers
import BuildFleet.Proofs.Time.Windows

/-!
# What a window of time means

The workers within a window are those recorded no longer ago than it says, and a job that is
stale by a window has not been made known for as long. The main statement tells for which
windows that is so: for those whose milliseconds fit into sixty-three bits, and for those by
which no call comes to an answer. A wider window between the two is taken for a shorter one,
or for one that reaches into the future.
-/

namespace BuildFleet

/-! ## The last time that a job was made known -/

namespace Operation

variable {settings : StoreSettings} {id : JobId} {operation : Operation}

/-- A job that is queued is not put into the queue. -/
theorem queues_of_queued (fresh : operation.Fresh settings) {job : Job}
    (found : operation.before.job? id = some job) (queued : job.status = .queued) :
    operation.queues settings id = false := by
  rcases operation with ⟨before, now, call⟩
  have there : before.job? id = some job := found
  cases call with
  | create made target payload =>
      simp only [queues, outcome, Store.perform, Store.create]
      split
      · rename_i accepted
        refine beq_eq_false_iff_ne.mpr ?_
        rintro rfl
        have absent := fresh (Job.new made target payload now)
          (by simp [StoreCall.created?, accepted])
        cases absent.symm.trans there
      · rfl
  | expireLease addressee =>
      by_cases same : addressee = id
      · subst same
        have unexpired : job.leaseExpired now = false := by
          cases expired : job.leaseExpired now with
          | false => rfl
          | true =>
              have leased := (Job.leaseExpired_iff.mp expired).1
              rw [queued] at leased
              cases leased
        have answer : (before.perform settings now (.expireLease addressee)).1 = _ :=
          Store.perform_on there .expire
        have nothing : (job.perform settings.maxAttempts now .expire).1 = .done none := by
          simp only [Job.perform, Job.expire_unexpired _ unexpired]
        rw [nothing] at answer
        exact congrArg (StoreCall.queues addressee (.expireLease addressee)) answer
      · have other : (addressee == id) = false := beq_eq_false_iff_ne.mpr same
        unfold queues
        generalize outcome settings ⟨before, now, .expireLease addressee⟩ = answer
        rcases answer with (_ | _ | _) | _ | _ <;> first | rfl | exact other
  | _ => rfl

end Operation

namespace Store

variable {settings : StoreSettings} {id : JobId} {history : List Operation} {last : Store}

/-- If the clock goes on, a queued job was not made known after it was last published. -/
theorem Course.known_le (course : Course settings .empty history last)
    (ordered : history.Pairwise (·.now ≤ ·.now)) {job : Job} (found : last.job? id = some job)
    (queued : job.status = .queued) :
    ∀ operation ∈ history, operation.makesKnown settings id = true →
      operation.now ≤ last.lastPublished job := by
  induction course generalizing job with
  | start => cases found
  | @step history operation course fresh induction =>
      rcases List.pairwise_append.mp ordered with ⟨orderedBefore, _, upTo⟩
      have waits : (operation.after settings).waitsSince? id =
          some ((operation.after settings).lastPublished job) :=
        waitsSince?_eq_some.mpr ⟨job, found, queued, rfl⟩
      have recently : operation.now ≤ (operation.after settings).lastPublished job →
          ∀ past ∈ history ++ [operation], past.makesKnown settings id = true →
            past.now ≤ (operation.after settings).lastPublished job := by
        intro recent past member _
        rcases List.mem_append.mp member with earlier | newest
        · exact (upTo past earlier operation (List.mem_singleton_self _)).trans recent
        · rwa [List.mem_singleton.mp newest]
      cases operation.waits waits with
      | again _ recent => exact recently recent
      | anew _ recent => exact recently recent
      -- A job that waits on was queued before: the last operation did not make it known.
      | on before passed =>
          rcases waitsSince?_eq_some.mp before with ⟨earlier, there, waited, same⟩
          intro past member known
          rcases List.mem_append.mp member with inHistory | newest
          · rw [← same]
            exact induction orderedBefore there waited past inHistory known
          · rw [List.mem_singleton.mp newest, Operation.makesKnown,
              Operation.queues_of_queued fresh there waited, Bool.false_or,
              List.contains_iff_mem] at known
            exact absurd known passed

/-! ## Answers to two windows -/

/-- What a filter keeps of a list stands in front, if with each item it keeps those before. -/
private theorem filter_front {items : List α} {before : α → α → Prop} {keeps : α → Bool}
    (sorted : items.Pairwise before)
    (down : ∀ first second, before first second → keeps second = true → keeps first = true) :
    items.filter keeps <+: items := by
  induction items with
  | nil => exact List.prefix_refl _
  | cons head tail induction =>
      rcases List.pairwise_cons.mp sorted with ⟨above, rest⟩
      cases kept : keeps head with
      | true =>
          rw [List.filter_cons_of_pos kept]
          exact (List.prefix_cons_inj head).mpr (induction rest)
      | false =>
          have none : (head :: tail).filter keeps = [] := by
            refine List.filter_eq_nil_iff.mpr fun item member keepsItem => ?_
            rcases List.mem_cons.mp member with rfl | later
            · exact absurd keepsItem (by simp [kept])
            · exact absurd (down head item (above item later) keepsItem) (by simp [kept])
          rw [none]
          exact List.nil_prefix

variable {store : Store}

/-- The backlog of an earlier cutoff is the front of that of a later one. -/
theorem backlog_front (distinct : (store.jobs.map (·.id)).Nodup) {early late : Instant}
    (ordered : early ≤ late) : store.backlog early <+: store.backlog late := by
  have sorted : (store.backlog late).Pairwise store.PublishedBefore := backlog_pairwise distinct
  have front : store.backlog early =
      (store.backlog late).filter fun job => decide (store.lastPublished job ≤ early) := by
    refine List.Pairwise.eq_of_mem_iff (backlog_pairwise distinct) (sorted.filter _) fun job => ?_
    rw [List.mem_filter, mem_backlog, mem_backlog, decide_eq_true_iff]
    constructor
    · rintro ⟨member, queued, old⟩
      exact ⟨⟨member, queued, old.trans ordered⟩, old⟩
    · rintro ⟨⟨member, queued, _⟩, old⟩
      exact ⟨member, queued, old⟩
  rw [front]
  refine filter_front sorted fun first second before old => ?_
  have published : store.lastPublished first ≤ store.lastPublished second := by
    rcases before with sooner | ⟨same, _⟩
    · exact sooner.le
    · exact same.le
  exact decide_eq_true (published.trans (of_decide_eq_true old))

/-! ## Windows -/

variable {window narrower : Span} {now : Instant} {limit : Int}

theorem workers_eq_done {seen : List WorkerInfo}
    (answered : store.workers window now = .done seen) :
    ∃ cutoff, now.before? window = some cutoff ∧
      seen = store.known.filter fun info => decide (cutoff ≤ info.lastSeen) := by
  unfold workers at answered
  split at answered
  · cases answered
  · rename_i cutoff moved
    cases answered
    exact ⟨cutoff, moved, rfl⟩

theorem staleQueued_eq_done {jobs : List Job}
    (answered : (store.staleQueued window limit now).1 = .done jobs) :
    ∃ cutoff, now.before? window = some cutoff ∧
      jobs = (store.backlog cutoff).take limit.toNat := by
  cases moved : now.before? window with
  | none =>
      simp only [staleQueued, moved] at answered
      cases answered
  | some cutoff =>
      rw [staleQueued_eq moved] at answered
      cases answered
      exact ⟨cutoff, rfl, rfl⟩

/-- The window means what it says, whatever the store has gone through and whenever the clock
is read, if the call comes to an answer at all. -/
structure KeepsWindow (settings : StoreSettings) (window : Span) : Prop where
  workers : ∀ history store now seen, Course settings .empty history store →
    store.workers window now = .done seen →
    Ascending seen ∧ ∀ info, info ∈ seen ↔
      lastRecord? info.id history = some info ∧ info.lastSeen.elapsed now ≤ window.truncated
  /-- A job was last published, and if the clock goes on, ever made known so long ago. -/
  stale : ∀ history store now limit jobs, Course settings .empty history store →
    (store.staleQueued window limit now).1 = .done jobs → ∀ job ∈ jobs,
    job ∈ store.jobs ∧ job.status = .queued ∧
      window.truncated ≤ (store.lastPublished job).elapsed now ∧
      (history.Pairwise (·.now ≤ ·.now) → ∀ operation ∈ history,
        operation.makesKnown settings job.id = true → window.truncated ≤ operation.now.elapsed now)
  moreWorkers : ∀ narrower ≤ window, ∀ history store now fewer seen,
    Course settings .empty history store → store.workers narrower now = .done fewer →
    store.workers window now = .done seen → fewer.Sublist seen
  fewerStale : ∀ narrower ≤ window, ∀ history store now limit more jobs,
    Course settings .empty history store → (store.staleQueued narrower limit now).1 = .done more →
    (store.staleQueued window limit now).1 = .done jobs → jobs <+: more

theorem keepsWindow_of_few (few : ∀ now cutoff : Instant, now.before? window = some cutoff →
    window.milliseconds < 9223372036854775808) : KeepsWindow settings window where
  workers := by
    intro history store now seen course answered
    rcases workers_eq_done answered with ⟨cutoff, moved, rfl⟩
    refine ⟨course.ascending.filter _, fun info => ?_⟩
    rw [List.mem_filter, decide_eq_true_iff, course.mem_known_iff,
      Instant.cutoff_le_iff (few now cutoff moved) moved]
  stale := by
    intro history store now limit jobs course answered job member
    rcases staleQueued_eq_done answered with ⟨cutoff, moved, rfl⟩
    rcases mem_backlog.mp (List.mem_of_mem_take member) with ⟨there, queued, old⟩
    have long : ∀ reading ≤ cutoff, window.truncated ≤ reading.elapsed now :=
      fun reading => Instant.le_elapsed (few now cutoff moved) moved
    refine ⟨there, queued, long _ old, fun ordered operation past known => ?_⟩
    have found := job?_of_mem course.distinct_from_empty there
    exact long _ ((course.known_le ordered found queued operation past known).trans old)
  moreWorkers := by
    intro narrower ordered history store now fewer seen _ answered answeredWider
    rcases workers_eq_done answered with ⟨near, moved, rfl⟩
    rcases workers_eq_done answeredWider with ⟨far, movedWider, rfl⟩
    have further := Instant.cutoff_anti (few now far movedWider) ordered moved movedWider
    refine List.monotone_filter_right _ fun info recent => ?_
    exact decide_eq_true (further.trans (of_decide_eq_true recent))
  fewerStale := by
    intro narrower ordered history store now limit more jobs course answered answeredWider
    rcases staleQueued_eq_done answered with ⟨near, moved, rfl⟩
    rcases staleQueued_eq_done answeredWider with ⟨far, movedWider, rfl⟩
    have further := Instant.cutoff_anti (few now far movedWider) ordered moved movedWider
    exact (backlog_front course.distinct_from_empty further).take _

/-- A worker that is recorded at one reading and looked for at another one. -/
theorem KeepsWindow.within (keeps : KeepsWindow settings window) {seen cutoff : Instant}
    (moved : now.before? window = some cutoff) (recent : seen.elapsed now ≤ window.truncated) :
    cutoff ≤ seen := by
  let info : WorkerInfo := ⟨⟨"a"⟩, "host", ⟨"amd64"⟩, 1, seen⟩
  let operation : Operation := ⟨.empty, seen, .recordWorker info⟩
  have course : Course settings .empty ([] ++ [operation]) (operation.after settings) :=
    .step .start fun _ _ => rfl
  have answered : (operation.after settings).workers window now =
      .done ([info].filter fun info => decide (cutoff ≤ info.lastSeen)) := by
    simp only [Store.workers, moved]
    rfl
  have member := ((keeps.workers _ _ _ _ course answered).2 info).mpr ⟨rfl, recent⟩
  exact of_decide_eq_true (List.mem_filter.mp member).2

/-- A window means what it says if and only if its milliseconds fit into sixty-three bits, or
the calls by it come to no answer at any reading. -/
theorem keepsWindow_iff (settings : StoreSettings) (window : Span) :
    KeepsWindow settings window ↔ window.milliseconds < 9223372036854775808 ∨
      ∀ now : Instant, now.before? window = none := by
  constructor
  · intro keeps
    by_contra neither
    rcases not_or.mp neither with ⟨many, sometimes⟩
    rcases not_forall.mp sometimes with ⟨reading, comes⟩
    rcases Option.ne_none_iff_exists'.mp comes with ⟨early, moved⟩
    rcases Instant.exists_lt_cutoff moved with ⟨seen, now, cutoff, looksBack, leftOut⟩
    have short := Instant.elapsed_lt seen now
    have recent : seen.elapsed now ≤ window.truncated := by
      unfold Span.truncated
      omega
    exact absurd (keeps.within looksBack recent) (not_le_of_gt leftOut)
  · rintro (few | never)
    · exact keepsWindow_of_few fun _ _ _ => few
    · refine keepsWindow_of_few fun now cutoff moved => ?_
      rw [never] at moved
      cases moved

end Store

/-! ## A window that wraps -/

namespace Sample

/-- One millisecond less than sixty-four bits of them, which counts as one less than none. -/
def wrapped : Span := ⟨18446744073709551615 * 1000000, by decide⟩

def worker : WorkerInfo := ⟨⟨"a"⟩, "host", ⟨"amd64"⟩, 1, moment 0⟩

/-- A worker has just been recorded, and a job has just been made. -/
def justNow : Store := Store.empty.afterCalls settings [
  (moment 0, .recordWorker worker), (moment 0, .create firstJob ⟨"amd64"⟩ .null)]

end Sample

/-- A window of some six hundred million years leaves out a worker that a window of no time
holds, and makes a job stale that has just been queued. -/
theorem Store.sample_window_wraps :
    ¬ KeepsWindow Sample.settings Sample.wrapped ∧
      (∃ history, Course Sample.settings .empty history Sample.justNow ∧
        lastRecord? Sample.worker.id history = some Sample.worker) ∧
      Sample.worker.lastSeen.elapsed (Sample.moment 0) = 0 ∧
      Sample.justNow.workers .zero (Sample.moment 0) = .done [Sample.worker] ∧
      Sample.justNow.workers Sample.wrapped (Sample.moment 0) = .done [] ∧
      (Sample.justNow.staleQueued Sample.wrapped 10 (Sample.moment 0)).1 =
        .done [Job.new Sample.firstJob ⟨"amd64"⟩ .null (Sample.moment 0)] := by
  have course : Course Sample.settings .empty _ Sample.justNow :=
    (Run.of_calls (by decide +kernel)).course
  have leftOut : Sample.justNow.workers Sample.wrapped (Sample.moment 0) = .done [] := by
    decide +kernel
  refine ⟨fun keeps => ?_, ⟨_, course, by decide +kernel⟩, by decide +kernel, by decide +kernel,
    leftOut, by decide +kernel⟩
  have member := ((keeps.workers _ _ _ _ course leftOut).2 Sample.worker).mpr
    ⟨by decide +kernel, by decide +kernel⟩
  cases member

end BuildFleet
