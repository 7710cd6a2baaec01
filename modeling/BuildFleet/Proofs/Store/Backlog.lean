import BuildFleet.Proofs.Store.Course
import Mathlib.Data.List.Sort

/-!
# The backlog

The backlog are the queued jobs that nobody took for a while, the longest
unpublished first. A call for stale jobs takes the first of them and marks them,
so that calls at one instant go through the backlog in chunks.
-/

namespace BuildFleet

theorem JobId.number_injective : Function.Injective JobId.number := by
  intro left right equal
  cases left
  cases right
  exact congrArg JobId.mk (BitVec.eq_of_toNat_eq equal)

namespace Store

variable {store : Store} {settings : StoreSettings} {now cutoff : Instant} {olderThan : Span}
  {limit : Int} {id : JobId}

/-! ## The order of publication -/

/-- A job is published again before another one. -/
def PublishedBefore (store : Store) (left right : Job) : Prop :=
  store.lastPublished left < store.lastPublished right ∨
    (store.lastPublished left = store.lastPublished right ∧ left.id < right.id)

theorem updatedAt_le_lastPublished (store : Store) (job : Job) :
    job.updatedAt ≤ store.lastPublished job := by
  unfold lastPublished
  split
  · exact (Instant.le_later _ _).2
  · exact le_refl _

theorem publishedNoLater_iff {left right : Job} :
    store.publishedNoLater left right = true ↔
      store.lastPublished left < store.lastPublished right ∨
        (store.lastPublished left = store.lastPublished right ∧
          left.id.number ≤ right.id.number) := by
  simp [publishedNoLater]

theorem publishedNoLater_total (left right : Job) :
    (store.publishedNoLater left right || store.publishedNoLater right left) = true := by
  rw [Bool.or_eq_true, publishedNoLater_iff, publishedNoLater_iff]
  rcases lt_trichotomy (store.lastPublished left) (store.lastPublished right) with
    earlier | equal | later
  · exact .inl (.inl earlier)
  · rcases Nat.le_total left.id.number right.id.number with fewer | more
    · exact .inl (.inr ⟨equal, fewer⟩)
    · exact .inr (.inr ⟨equal.symm, more⟩)
  · exact .inr (.inl later)

theorem publishedNoLater_trans (first second third : Job)
    (earlier : store.publishedNoLater first second = true)
    (later : store.publishedNoLater second third = true) :
    store.publishedNoLater first third = true := by
  rw [publishedNoLater_iff] at earlier later ⊢
  rcases earlier with earlier | ⟨same, fewer⟩
  · rcases later with later | ⟨same, _⟩
    · exact .inl (earlier.trans later)
    · exact .inl (same ▸ earlier)
  · rcases later with later | ⟨sameAgain, fewerAgain⟩
    · exact .inl (same ▸ later)
    · exact .inr ⟨same.trans sameAgain, fewer.trans fewerAgain⟩

instance : Std.Irrefl store.PublishedBefore where
  irrefl job before := by
    rcases before with earlier | ⟨_, less⟩
    · exact lt_irrefl _ earlier
    · exact Nat.lt_irrefl _ less

instance : Std.Antisymm store.PublishedBefore where
  antisymm left right before behind := by
    rcases before with earlier | ⟨same, less⟩
    · rcases behind with later | ⟨same, _⟩
      · exact absurd later earlier.asymm
      · exact absurd same earlier.ne'
    · rcases behind with later | ⟨_, more⟩
      · exact absurd same later.ne'
      · exact absurd more (Nat.lt_asymm less)

/-! ## The backlog -/

/-- The queued jobs that were not published after an instant, in the order in
which they are published again. -/
def backlog (store : Store) (cutoff : Instant) : List Job :=
  (store.staleJobs cutoff).mergeSort store.publishedNoLater

theorem mem_staleJobs {job : Job} : job ∈ store.staleJobs cutoff ↔
    job ∈ store.jobs ∧ job.status = .queued ∧ store.lastPublished job ≤ cutoff := by
  simp [staleJobs]

theorem backlog_perm (store : Store) (cutoff : Instant) :
    (store.backlog cutoff).Perm (store.staleJobs cutoff) := List.mergeSort_perm _ _

theorem mem_backlog {job : Job} : job ∈ store.backlog cutoff ↔
    job ∈ store.jobs ∧ job.status = .queued ∧ store.lastPublished job ≤ cutoff := by
  simp [backlog, staleJobs]

theorem backlog_pairwise (distinct : (store.jobs.map (·.id)).Nodup) :
    (store.backlog cutoff).Pairwise store.PublishedBefore := by
  have sorted : (store.backlog cutoff).Pairwise (store.publishedNoLater · · = true) :=
    List.pairwise_mergeSort publishedNoLater_trans publishedNoLater_total _
  have apart : (store.backlog cutoff).Pairwise (·.id ≠ ·.id) := by
    have stale : (store.staleJobs cutoff).Pairwise (·.id ≠ ·.id) :=
      (List.pairwise_map.mp distinct).filter _
    exact stale.perm (List.mergeSort_perm _ _).symm Ne.symm
  refine sorted.imp₂ ?_ apart
  intro left right noLater different
  rcases publishedNoLater_iff.mp noLater with earlier | ⟨same, fewer⟩
  · exact .inl earlier
  · exact .inr ⟨same, Nat.lt_of_le_of_ne fewer (JobId.number_injective.ne different)⟩

theorem backlog_nodup (distinct : (store.jobs.map (·.id)).Nodup) :
    (store.backlog cutoff).Nodup := (backlog_pairwise distinct).nodup

/-! ## Marks -/

private theorem lookup_filter (entries : List (JobId × Instant)) (keeps : JobId → Bool)
    (id : JobId) :
    (entries.filter fun entry => keeps entry.1).lookup id =
      if keeps id = true then entries.lookup id else none := by
  induction entries with
  | nil => simp
  | cons head tail induction =>
      rcases head with ⟨key, time⟩
      by_cases equal : id = key
      · subst equal
        cases kept : keeps id <;> simp [kept, induction]
      · have other : (id == key) = false := beq_eq_false_iff_ne.mpr equal
        cases kept : keeps key <;> simp [kept, induction, List.lookup_cons, other]

theorem lookup_mark (id other : JobId) :
    (store.mark id now).published.lookup other =
      if other = id then some now else store.published.lookup other := by
  have kept := lookup_filter store.published (fun key => decide (key ≠ id)) other
  by_cases equal : other = id
  · simp [mark, equal]
  · have different : (other == id) = false := beq_eq_false_iff_ne.mpr equal
    simp only [decide_eq_true_eq, equal, ne_eq, not_false_eq_true, if_true] at kept
    simpa [mark, List.lookup_cons, different, equal] using kept

theorem lookup_foldl_mark (marked : List Job) (id : JobId) :
    (marked.foldl (fun store job => store.mark job.id now) store).published.lookup id =
      if id ∈ marked.map (·.id) then some now else store.published.lookup id := by
  induction marked generalizing store with
  | nil => simp
  | cons head tail induction =>
      rw [List.foldl_cons, induction, lookup_mark]
      by_cases later : id ∈ tail.map (·.id) <;> by_cases equal : id = head.id <;>
        simp [later, equal]

theorem lookup_pruneMarks (store : Store) (id : JobId) :
    store.pruneMarks.published.lookup id =
      if (store.job? id).any (·.status == .queued) = true then store.published.lookup id
      else none := by
  have kept : store.pruneMarks.published =
      store.published.filter fun entry => (store.job? entry.1).any (·.status == .queued) := by
    apply List.filter_congr
    intro entry _
    cases store.job? entry.1 <;> rfl
  rw [kept]
  exact lookup_filter store.published (fun key => (store.job? key).any (·.status == .queued)) id

/-- What a call publishes again, if there is a time to go by. -/
theorem staleQueued_eq (moved : now.before? olderThan = some cutoff) :
    store.staleQueued olderThan limit now =
      (.done ((store.backlog cutoff).take limit.toNat),
        ((store.backlog cutoff).take limit.toNat).foldl
          (fun store job => store.mark job.id now) store.pruneMarks) := by
  simp only [staleQueued, moved]
  rfl

theorem jobs_staleQueued (store : Store) (olderThan : Span) (limit : Int) (now : Instant) :
    (store.staleQueued olderThan limit now).2.jobs = store.jobs :=
  (staleQueued_keeps olderThan limit).1

/-- The jobs that a call returns count as published now, all others as before. -/
theorem lastPublished_staleQueued (moved : now.before? olderThan = some cutoff) {job : Job}
    (found : store.job? job.id = some job) (queued : job.status = .queued) :
    (store.staleQueued olderThan limit now).2.lastPublished job =
      if job.id ∈ ((store.backlog cutoff).take limit.toNat).map (·.id) then
        now.later job.updatedAt
      else store.lastPublished job := by
  rw [staleQueued_eq moved, lastPublished, lookup_foldl_mark, lookup_pruneMarks, found,
    Option.any_some, beq_iff_eq.mpr queued, if_pos rfl]
  split_ifs <;> rfl

/-! ## Calls at one instant -/

private theorem mem_drop_iff {items : List α} (distinct : items.Nodup) (count : Nat) {item : α} :
    item ∈ items.drop count ↔ item ∈ items ∧ item ∉ items.take count := by
  have apart := List.disjoint_take_drop distinct (Nat.le_refl count)
  have whole : item ∈ items ↔ item ∈ items.take count ∨ item ∈ items.drop count := by
    rw [← List.mem_append, List.take_append_drop]
  constructor
  · exact fun dropped => ⟨whole.mpr (.inr dropped), fun taken => apart taken dropped⟩
  · exact fun parts => (whole.mp parts.1).resolve_left parts.2

theorem mem_of_map_id {jobs : List Job} {job : Job} (distinct : (store.jobs.map (·.id)).Nodup)
    (subset : jobs ⊆ store.jobs) (member : job ∈ store.jobs) :
    job.id ∈ jobs.map (·.id) ↔ job ∈ jobs := by
  refine ⟨fun there => ?_, List.mem_map_of_mem⟩
  rcases List.mem_map.mp there with ⟨other, isOther, sameId⟩
  have found := job?_of_mem distinct (subset isOther)
  rw [sameId, job?_of_mem distinct member] at found
  exact Option.some.inj found ▸ isOther

theorem nodup_map_id {jobs : List Job} (distinct : (store.jobs.map (·.id)).Nodup)
    (subset : jobs ⊆ store.jobs) (once : jobs.Nodup) : (jobs.map (·.id)).Nodup := by
  refine once.map_on ?_
  intro left leftMember right rightMember same
  have found := job?_of_mem distinct (subset leftMember)
  rw [same, job?_of_mem distinct (subset rightMember)] at found
  exact (Option.some.inj found).symm

theorem take_backlog_subset (count : Nat) : (store.backlog cutoff).take count ⊆ store.jobs :=
  fun _ member => (mem_backlog.mp (List.mem_of_mem_take member)).1

/-- A call takes its jobs from the front of the backlog. -/
theorem backlog_staleQueued (distinct : (store.jobs.map (·.id)).Nodup)
    (moved : now.before? olderThan = some cutoff) (earlier : cutoff < now) :
    (store.staleQueued olderThan limit now).2.backlog cutoff =
      (store.backlog cutoff).drop limit.toNat := by
  have nodup : (store.backlog cutoff).Nodup := backlog_nodup distinct
  have sameJobs := store.jobs_staleQueued olderThan limit now
  have publication : ∀ job ∈ store.jobs, job.status = .queued →
      (store.staleQueued olderThan limit now).2.lastPublished job =
        if job ∈ (store.backlog cutoff).take limit.toNat then now.later job.updatedAt
        else store.lastPublished job := by
    intro job member queued
    rw [lastPublished_staleQueued moved (job?_of_mem distinct member) queued]
    simp only [mem_of_map_id distinct (take_backlog_subset limit.toNat) member]
  have dropped : ∀ job ∈ (store.backlog cutoff).drop limit.toNat,
      (store.staleQueued olderThan limit now).2.lastPublished job = store.lastPublished job := by
    intro job member
    rcases (mem_drop_iff nodup _).mp member with ⟨stale, untaken⟩
    rcases mem_backlog.mp stale with ⟨there, queued, _⟩
    rw [publication job there queued, if_neg untaken]
  refine List.Pairwise.eq_of_mem_iff (backlog_pairwise ?_)
    ((backlog_pairwise distinct).drop.imp_of_mem ?_) ?_
  · rw [sameJobs]
    exact distinct
  · intro left right leftMember rightMember before
    unfold PublishedBefore
    rw [dropped left leftMember, dropped right rightMember]
    exact before
  · intro job
    rw [mem_drop_iff nodup, mem_backlog, mem_backlog, sameJobs]
    constructor
    · rintro ⟨member, queued, stale⟩
      rw [publication job member queued] at stale
      split_ifs at stale with taken
      · have recent := (Instant.le_later now job.updatedAt).1
        exact absurd (recent.trans stale) (not_le_of_gt earlier)
      · exact ⟨⟨member, queued, stale⟩, taken⟩
    · rintro ⟨⟨member, queued, stale⟩, untaken⟩
      rw [publication job member queued, if_neg untaken]
      exact ⟨member, queued, stale⟩

/-- Repeated calls go on where the last one stopped. -/
theorem backlog_afterCalls (distinct : (store.jobs.map (·.id)).Nodup)
    (moved : now.before? olderThan = some cutoff) (earlier : cutoff < now) (calls : Nat) :
    (store.afterCalls settings
        (List.replicate calls (now, .staleQueued olderThan limit))).backlog cutoff =
      (store.backlog cutoff).drop (calls * limit.toNat) := by
  induction calls generalizing store with
  | zero => simp [afterCalls]
  | succ calls induction =>
      have sameJobs := store.jobs_staleQueued olderThan limit now
      rw [List.replicate_succ, afterCalls]
      show (((store.staleQueued olderThan limit now).2).afterCalls settings _).backlog cutoff = _
      rw [induction (by rw [sameJobs]; exact distinct), backlog_staleQueued distinct moved earlier,
        List.drop_drop, Nat.add_comm, Nat.succ_mul]

/-- What a call for stale jobs answers that comes after so many calls of its kind
at the same instant. -/
def answerAfter (settings : StoreSettings) (store : Store) (olderThan : Span) (limit : Int)
    (now : Instant) (calls : Nat) : Outcome (List Job) :=
  ((store.afterCalls settings
    (List.replicate calls (now, .staleQueued olderThan limit))).staleQueued olderThan limit now).1

/-- A chunk of the backlog is what one of the calls answers. -/
theorem answerAfter_eq (distinct : (store.jobs.map (·.id)).Nodup)
    (moved : now.before? olderThan = some cutoff) (earlier : cutoff < now) (calls : Nat) :
    store.answerAfter settings olderThan limit now calls =
      .done (((store.backlog cutoff).drop (calls * limit.toNat)).take limit.toNat) := by
  rw [answerAfter, staleQueued_eq moved, backlog_afterCalls distinct moved earlier]

end Store

end BuildFleet
