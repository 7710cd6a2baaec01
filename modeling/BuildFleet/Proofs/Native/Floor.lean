import Mathlib.Data.List.Nodup
import BuildFleet.Proofs.Native.Entries

/-!
# Calls on builds in any order

Builds are started, waited for and cancelled by calls that may overlap, while the
supervisors of other builds come to their ends. Between two looks at the table a
call can only be waiting, so what happens is a sequence of events: each of them
looks at the table once. A wait comes in two of them. It begins by taking a claim,
and it returns some time after the build of that claim has ended, or it is given
up before it looks again.
-/

namespace BuildFleet.Native

/-- A call that waits for the end of a build. -/
structure Wait where
  job : JobId
  /-- The build whose handle it was given. -/
  handle : Nat
  /-- The build whose end it can fetch. -/
  claimed : Nat
deriving DecidableEq

/-- The builds of an environment, and who waits for them. -/
structure Floor where
  table : Table
  waits : List Wait
deriving DecidableEq

namespace Floor

def empty : Floor := ⟨.empty, []⟩

/-- What happens. Calls are given the handle of a build, which is its job and its
number. -/
inductive Event where
  | spawned (job : JobId) (number : Nat)
  | began (wait : Wait)
  /-- There was nothing to wait for. -/
  | refused (job : JobId) (handle : Nat)
  | returned (wait : Wait) (ended : BuildEnd)
  | dropped (wait : Wait)
  | cancelled (job : JobId) (handle : Nat)
  | tookLog (job : JobId) (handle : Nat)
  /-- The supervisor of a build is done. -/
  | ended (number : Nat) (ended : BuildEnd)
deriving DecidableEq

/-- A wait by the handle of a build begins, or finds nothing. -/
def Event.WaitsFor (job : JobId) (number : Nat) (event : Event) : Prop :=
  (∃ wait, event = .began wait ∧ wait.handle = number) ∨ event = .refused job number

/-- One event. Only a build that is to be killed ends as a killed one. -/
inductive Step (floor : Floor) : Event → Floor → Prop
  | spawned (job : JobId) :
      Step floor (.spawned job floor.table.next) ⟨(floor.table.spawn job).1, floor.waits⟩
  | began {handle claimed : Nat} {build : Supervised} {table : Table}
      (known : floor.table.build? handle = some build)
      (begun : floor.table.beginWait build.job = .ok (table, claimed)) :
      Step floor (.began ⟨build.job, handle, claimed⟩)
        ⟨table, ⟨build.job, handle, claimed⟩ :: floor.waits⟩
  | refused {handle : Nat} {build : Supervised} {failure : Failure}
      (known : floor.table.build? handle = some build)
      (refused : floor.table.beginWait build.job = .error failure) :
      Step floor (.refused build.job handle) floor
  | returned {wait : Wait} {table : Table} {ended : BuildEnd} (waits : wait ∈ floor.waits)
      (fetched : floor.table.finishWait wait.claimed = some (table, ended)) :
      Step floor (.returned wait ended) ⟨table, floor.waits.erase wait⟩
  | dropped {wait : Wait} (waits : wait ∈ floor.waits) :
      Step floor (.dropped wait) ⟨floor.table.dropWait wait.claimed, floor.waits.erase wait⟩
  | cancelled {handle : Nat} {build : Supervised}
      (known : floor.table.build? handle = some build) :
      Step floor (.cancelled build.job handle) ⟨floor.table.cancel build.job, floor.waits⟩
  | tookLog {handle number : Nat} {build : Supervised} {table : Table}
      (known : floor.table.build? handle = some build)
      (taken : floor.table.takeLog build.job = .ok (table, number)) :
      Step floor (.tookLog build.job handle) ⟨table, floor.waits⟩
  | ended {number : Nat} {build : Supervised} {ended : BuildEnd}
      (known : floor.table.build? number = some build) (running : build.ended = none)
      (killed : ended = Table.killed → build.killRequested = true) :
      Step floor (.ended number ended) ⟨floor.table.endBuild number ended, floor.waits⟩

/-- Events, the oldest first, that lead from one state to another. -/
inductive Run (first : Floor) : List Event → Floor → Prop
  | start : Run first [] first
  | goesOn {past : List Event} {floor next : Floor} {event : Event}
      (run : Run first past floor) (step : Step floor event next) :
      Run first (past ++ [event]) next

/-! ## What always holds -/

/-- The table, the builds and the waiting calls fit together: the place of a job is
that of one of its builds, each claim is in one place, and every call that waits
has its own. -/
structure Consistent (floor : Floor) : Prop where
  fresh : ∀ {number build}, floor.table.build? number = some build → number < floor.table.next
  entries : ∀ {job entry}, floor.table.entry? job = some entry →
    ∃ build, floor.table.build? entry.number = some build ∧ build.job = job ∧
      (entry.hasClaim = true ↔ build.claim = .kept)
  kept : ∀ {number build}, floor.table.build? number = some build → build.claim = .kept →
    ∃ entry, floor.table.entry? build.job = some entry ∧ entry.number = number
  held : ∀ {number build}, floor.table.build? number = some build →
    (build.claim = .held ↔ ∃ wait ∈ floor.waits, wait.claimed = number)
  waits : ∀ wait ∈ floor.waits,
    ∃ build, floor.table.build? wait.claimed = some build ∧ build.job = wait.job
  distinct : (floor.waits.map Wait.claimed).Nodup

variable {floor next first last : Floor} {event : Event} {job : JobId} {wait : Wait}
  {number handle : Nat} {build : Supervised} {entry : Entry}

theorem consistent_empty : empty.Consistent where
  fresh known := by cases known
  entries entered := by cases entered
  kept known := by cases known
  held known := by cases known
  waits wait waiting := by cases waiting
  distinct := List.nodup_nil

namespace Consistent

theorem fresh_of_sameBuilds (consistent : floor.Consistent) {table : Table}
    (same : floor.table.SameBuilds table) (known : table.build? number = some build) :
    number < table.next := by
  rcases same.earlier known with ⟨before, there, _⟩
  exact same.next ▸ consistent.fresh there

theorem waits_of_sameBuilds (consistent : floor.Consistent) {table : Table}
    (same : floor.table.SameBuilds table) (waiting : wait ∈ floor.waits) :
    ∃ build, table.build? wait.claimed = some build ∧ build.job = wait.job := by
  rcases consistent.waits wait waiting with ⟨before, known, job⟩
  rcases same.later known with ⟨build, there, sameJob⟩
  exact ⟨build, there, sameJob.trans job⟩

/-- Only the jobs of builds, their claims and the entries that hold them matter. -/
theorem congr (consistent : floor.Consistent) {table : Table}
    (same : floor.table.SameBuilds table)
    (claims : ∀ number, (table.build? number).map Supervised.claim =
      (floor.table.build? number).map Supervised.claim)
    (entries : ∀ job, (table.entry? job).map (fun entry => (entry.number, entry.hasClaim)) =
      (floor.table.entry? job).map fun entry => (entry.number, entry.hasClaim)) :
    Consistent ⟨table, floor.waits⟩ := by
  have claimOf : ∀ {number before after}, floor.table.build? number = some before →
      table.build? number = some after → after.claim = before.claim := by
    intro number before after there known
    have claims := claims number
    rw [known, there] at claims
    exact Option.some.inj claims
  constructor
  case fresh => exact consistent.fresh_of_sameBuilds same
  case entries =>
    intro job entry entered
    have entries := entries job
    rw [entered, Option.map_some] at entries
    rcases Option.map_eq_some_iff.mp entries.symm with ⟨before, there, alike⟩
    rcases Prod.mk.inj alike with ⟨sameNumber, sameClaim⟩
    rcases consistent.entries there with ⟨build, known, isJob, kept⟩
    rw [sameNumber] at known
    rcases same.later known with ⟨after, again, sameJob⟩
    refine ⟨after, again, sameJob.trans isJob, ?_⟩
    rw [← sameClaim, claimOf known again]
    exact kept
  case kept =>
    intro number build known kept
    rcases same.earlier known with ⟨before, there, job⟩
    have keptBefore : before.claim = .kept := (claimOf there known).symm.trans kept
    rcases consistent.kept there keptBefore with ⟨entry, entered, isNumber⟩
    have entries := entries before.job
    rw [entered, Option.map_some] at entries
    rcases Option.map_eq_some_iff.mp entries with ⟨after, known, alike⟩
    rw [← job]
    exact ⟨after, known, (Prod.mk.inj alike).1.trans isNumber⟩
  case held =>
    intro number build known
    rcases same.earlier known with ⟨before, there, _⟩
    rw [claimOf there known]
    exact consistent.held there
  case waits => exact fun wait => consistent.waits_of_sameBuilds same
  case distinct => exact consistent.distinct

/-- An offered claim is that of the latest build of the job. -/
theorem offered (consistent : floor.Consistent) (offers : floor.table.offered? job = some number) :
    ∃ build, floor.table.build? number = some build ∧ build.job = job ∧ build.claim = .kept := by
  rcases Table.offered?_eq_some_iff.mp offers with ⟨entry, entered, claim, rfl⟩
  rcases consistent.entries entered with ⟨build, known, same, kept⟩
  exact ⟨build, known, same, kept.mp claim⟩

theorem offered_iff (consistent : floor.Consistent)
    (known : floor.table.build? number = some build) :
    floor.table.offered? build.job = some number ↔ build.claim = .kept := by
  constructor
  · intro offers
    rcases consistent.offered offers with ⟨other, same, _, kept⟩
    cases known.symm.trans same
    exact kept
  · intro kept
    rcases consistent.kept known kept with ⟨entry, entered, same⟩
    rcases consistent.entries entered with ⟨other, there, _, claim⟩
    rw [same] at there
    cases known.symm.trans there
    exact Table.offered?_eq_some_iff.mpr ⟨entry, entered, claim.mpr kept, same⟩

/-- The place of a job can be cleared. -/
theorem vacate (consistent : floor.Consistent) (job : JobId) :
    Consistent ⟨floor.table.vacate job, floor.waits⟩ where
  fresh := consistent.fresh_of_sameBuilds (.vacate floor.table job)
  entries {other entry} entered := by
    simp only [Table.entry?_vacate] at entered
    split at entered
    · cases entered
    · rename_i different
      rcases consistent.entries entered with ⟨build, known, same, claim⟩
      have unoffered : floor.table.offered? job ≠ some entry.number := by
        intro offers
        rcases consistent.offered offers with ⟨again, there, job, _⟩
        cases known.symm.trans there
        exact different (same.symm.trans job)
      exact ⟨build, by rw [Table.build?_vacate, if_neg unoffered, known], same, claim⟩
  kept {number build} known kept := by
    simp only [Table.build?_vacate] at known
    split at known
    · rcases Option.map_eq_some_iff.mp known with ⟨before, there, rfl⟩
      cases kept
    · rename_i unoffered
      rcases consistent.kept known kept with ⟨entry, entered, same⟩
      have different : build.job ≠ job := by
        rintro rfl
        exact unoffered ((consistent.offered_iff known).mpr kept)
      exact ⟨entry, by rw [Table.entry?_vacate, if_neg different, entered], same⟩
  held {number build} known := by
    simp only [Table.build?_vacate] at known
    split at known
    · rename_i offers
      rcases consistent.offered offers with ⟨before, there, _, kept⟩
      rw [there] at known
      cases known
      rw [← consistent.held there]
      simp [kept]
    · exact consistent.held known
  waits wait := consistent.waits_of_sameBuilds (.vacate floor.table job)
  distinct := consistent.distinct

theorem new (consistent : floor.Consistent) : floor.table.build? floor.table.next = none := by
  cases known : floor.table.build? floor.table.next with
  | none => rfl
  | some build => exact absurd (consistent.fresh known) (Nat.lt_irrefl _)

/-- A build can be put in an empty place. -/
theorem place (consistent : floor.Consistent) (empty : floor.table.entry? job = none) :
    Consistent ⟨floor.table.place job, floor.waits⟩ where
  fresh {number build} known := by
    simp only [Table.build?_place] at known
    split at known
    · rename_i same
      exact same ▸ Nat.lt_succ_self _
    · exact Nat.lt_succ_of_lt (consistent.fresh known)
  entries {other entry} entered := by
    simp only [Table.entry?_place] at entered
    split at entered
    · rename_i same
      cases entered
      exact ⟨_, by rw [Table.build?_place, if_pos rfl], same.symm, by simp⟩
    · rcases consistent.entries entered with ⟨build, known, same⟩
      have old : entry.number ≠ floor.table.next := Nat.ne_of_lt (consistent.fresh known)
      exact ⟨build, by rw [Table.build?_place, if_neg old, known], same⟩
  kept {number build} known kept := by
    simp only [Table.build?_place] at known
    split at known
    · rename_i same
      cases known
      exact ⟨_, by rw [Table.entry?_place, if_pos rfl], same.symm⟩
    · rcases consistent.kept known kept with ⟨entry, entered, same⟩
      have different : build.job ≠ job := by
        rintro rfl
        cases empty.symm.trans entered
      exact ⟨entry, by rw [Table.entry?_place, if_neg different, entered], same⟩
  held {number build} known := by
    simp only [Table.build?_place] at known
    split at known
    · rename_i same
      cases known
      constructor
      · intro held
        cases held
      · rintro ⟨wait, waiting, rfl⟩
        rcases consistent.waits wait waiting with ⟨build, known, _⟩
        exact absurd same (Nat.ne_of_lt (consistent.fresh known))
    · exact consistent.held known
  waits wait waiting := by
    rcases consistent.waits wait waiting with ⟨build, known, same⟩
    have old : wait.claimed ≠ floor.table.next := Nat.ne_of_lt (consistent.fresh known)
    exact ⟨build, by rw [Table.build?_place, if_neg old, known], same⟩
  distinct := consistent.distinct

theorem spawned (consistent : floor.Consistent) (job : JobId) :
    Consistent ⟨(floor.table.spawn job).1, floor.waits⟩ := by
  apply (consistent.vacate job).place
  rw [Table.entry?_vacate, if_pos rfl]

/-- Builds can change in what neither the table nor a waiting call knows. -/
theorem changeBuild (consistent : floor.Consistent) (number : Nat)
    {change : Supervised → Supervised}
    (numbers : ∀ build, (change build).number = build.number)
    (jobs : ∀ build, (change build).job = build.job)
    (claims : ∀ build, (change build).claim = build.claim) :
    Consistent ⟨floor.table.changeBuild number change, floor.waits⟩ := by
  refine consistent.congr (.changeBuild floor.table number numbers jobs) (fun found => ?_)
    fun _ => rfl
  rw [Table.build?_changeBuild numbers]
  split
  · rw [Option.map_map]
    exact Option.map_congr fun build _ => claims build
  · rfl

theorem waits_erase (consistent : floor.Consistent) (waiting : wait ∈ floor.waits) :
    (∃ other ∈ floor.waits.erase wait, other.claimed = number) ↔
      number ≠ wait.claimed ∧ ∃ other ∈ floor.waits, other.claimed = number := by
  have once : floor.waits.Nodup := consistent.distinct.of_map
  simp only [once.mem_erase_iff]
  constructor
  · rintro ⟨other, ⟨different, there⟩, rfl⟩
    refine ⟨fun same => different ?_, other, there, rfl⟩
    exact List.inj_on_of_nodup_map consistent.distinct there waiting same
  · rintro ⟨different, other, there, rfl⟩
    exact ⟨other, ⟨fun same => different (congrArg Wait.claimed same), there⟩, rfl⟩

/-- A call that waits can be let go of, with its claim. -/
theorem released (consistent : floor.Consistent) (waiting : wait ∈ floor.waits) :
    Consistent ⟨floor.table.dropWait wait.claimed, floor.waits.erase wait⟩ := by
  rcases consistent.waits wait waiting with ⟨claimed, claimedKnown, _⟩
  have held : claimed.claim = .held := (consistent.held claimedKnown).mpr ⟨wait, waiting, rfl⟩
  have lookup : ∀ found, (floor.table.dropWait wait.claimed).build? found =
      if found = wait.claimed then some { claimed with claim := .gone }
      else floor.table.build? found := by
    intro found
    rw [Table.build?_dropWait]
    split
    · rename_i same
      rw [same, claimedKnown, Option.map_some]
    · rfl
  have sameBuilds := Table.SameBuilds.dropWait floor.table wait.claimed
  constructor
  case fresh => exact consistent.fresh_of_sameBuilds sameBuilds
  case entries =>
    intro job entry entered
    rcases consistent.entries entered with ⟨build, known, same, claim⟩
    rw [lookup]
    split
    · rename_i isClaimed
      rw [isClaimed] at known
      cases claimedKnown.symm.trans known
      exact ⟨_, rfl, same, by simpa [held] using claim⟩
    · exact ⟨build, known, same, claim⟩
  case kept =>
    intro number build known kept
    rw [lookup] at known
    split at known
    · cases known
      cases kept
    · exact consistent.kept known kept
  case held =>
    intro number build known
    rw [lookup] at known
    rw [consistent.waits_erase waiting]
    split at known
    · rename_i same
      cases known
      simp [same]
    · rename_i different
      rw [consistent.held known]
      simp [different]
  case waits =>
    intro other waits
    exact consistent.waits_of_sameBuilds sameBuilds (List.mem_of_mem_erase waits)
  case distinct =>
    exact consistent.distinct.sublist (List.erase_sublist.map _)

theorem began (consistent : floor.Consistent) {table : Table}
    (begun : floor.table.beginWait job = .ok (table, number)) :
    Consistent ⟨table, ⟨job, handle, number⟩ :: floor.waits⟩ := by
  have sameBuilds := Table.SameBuilds.beginWait begun
  rcases Table.beginWait_ok begun with ⟨entry, entered, claim, rfl, after⟩
  rcases consistent.entries entered with ⟨claimed, claimedKnown, rfl, kept⟩
  have unheld : ¬ ∃ wait ∈ floor.waits, wait.claimed = entry.number := by
    rw [← consistent.held claimedKnown, kept.mp claim]
    simp
  have entryOf : ∀ other, table.entry? other =
      if other = claimed.job then some { entry with hasClaim := false }
      else floor.table.entry? other := by
    intro other
    rw [after, Table.entry?_changeBuild, Table.entry?_putEntry]
  have lookup : ∀ found, table.build? found =
      if found = entry.number then some { claimed with claim := .held }
      else floor.table.build? found := by
    intro found
    rw [Table.build?_beginWait begun]
    split
    · rename_i same
      rw [same, claimedKnown, Option.map_some]
    · rfl
  constructor
  case fresh => exact consistent.fresh_of_sameBuilds sameBuilds
  case entries =>
    intro job other there
    rw [entryOf] at there
    simp only [lookup]
    split at there
    · rename_i same
      cases there
      exact ⟨_, if_pos rfl, same.symm, by simp⟩
    · rename_i different
      rcases consistent.entries there with ⟨build, known, same, claim⟩
      have apart : other.number ≠ entry.number := by
        intro isClaimed
        rw [isClaimed] at known
        cases claimedKnown.symm.trans known
        exact different same.symm
      exact ⟨build, by rw [if_neg apart, known], same, claim⟩
  case kept =>
    intro found build known kept
    rw [lookup] at known
    split at known
    · cases known
      cases kept
    · rename_i different
      rcases consistent.kept known kept with ⟨other, there, same⟩
      have apart : build.job ≠ claimed.job := by
        intro sameJob
        rw [sameJob] at there
        cases entered.symm.trans there
        exact different same.symm
      exact ⟨other, by rw [entryOf, if_neg apart, there], same⟩
  case held =>
    intro found build known
    rw [lookup] at known
    split at known
    · rename_i same
      cases known
      simp [same]
    · rename_i different
      rw [consistent.held known]
      simp [Ne.symm different]
  case waits =>
    intro wait waiting
    rcases List.mem_cons.mp waiting with rfl | waiting
    · exact sameBuilds.later claimedKnown
    · exact consistent.waits_of_sameBuilds sameBuilds waiting
  case distinct =>
    refine List.nodup_cons.mpr ⟨fun member => ?_, consistent.distinct⟩
    rcases List.mem_map.mp member with ⟨wait, waiting, same⟩
    exact unheld ⟨wait, waiting, same⟩

theorem tookLog (consistent : floor.Consistent) {table : Table}
    (taken : floor.table.takeLog job = .ok (table, number)) : Consistent ⟨table, floor.waits⟩ := by
  have sameBuilds := Table.SameBuilds.takeLog taken
  rcases Table.takeLog_ok taken with ⟨entry, entered, rfl⟩
  refine consistent.congr sameBuilds (fun _ => rfl) fun other => ?_
  rw [Table.entry?_putEntry]
  split
  · rename_i same
    rw [same, entered]
    rfl
  · rfl

/-- A supervisor clears a place only when the claim is gone from it. -/
theorem ended (consistent : floor.Consistent) (known : floor.table.build? number = some build)
    (ended : BuildEnd) : Consistent ⟨floor.table.endBuild number ended, floor.waits⟩ := by
  have changed : Consistent ⟨floor.table.changeBuild number fun build =>
      { build with ended := some ended }, floor.waits⟩ :=
    consistent.changeBuild number (fun _ => rfl) (fun _ => rfl) (fun _ => rfl)
  rw [Table.endBuild_eq known]
  split
  · rename_i cleared
    rw [Table.removeEntry_eq_vacate]
    · exact changed.vacate build.job
    · rw [Option.eq_none_iff_forall_ne_some]
      intro found offers
      rcases Table.offered?_eq_some_iff.mp offers with ⟨entry, entered, claim, _⟩
      rw [Table.entry?_changeBuild] at entered
      rcases consistent.entries entered with ⟨other, there, _, kept⟩
      have same : entry.number = number := by simpa [Table.latest?, entered] using cleared.2
      rw [same] at there
      cases known.symm.trans there
      rw [cleared.1] at kept
      cases kept.mp claim
  · exact changed

theorem cancelled (consistent : floor.Consistent) (job : JobId) :
    Consistent ⟨floor.table.cancel job, floor.waits⟩ := by
  unfold Table.cancel
  split
  · exact consistent.changeBuild _ (fun _ => rfl) (fun _ => rfl) (fun _ => rfl)
  · exact consistent

theorem step (consistent : floor.Consistent) (step : Step floor event next) : next.Consistent := by
  cases step with
  | spawned job => exact consistent.spawned job
  | began known begun => exact consistent.began begun
  | refused known refused => exact consistent
  | returned waits fetched =>
      rcases Table.finishWait_eq_some_iff.mp fetched with ⟨build, known, finished, rfl⟩
      exact (consistent.vacate build.job).released waits
  | dropped waits => exact consistent.released waits
  | cancelled known => exact consistent.cancelled _
  | tookLog known taken => exact consistent.tookLog taken
  | ended known running killed => exact consistent.ended known _

end Consistent

theorem Run.append {events more : List Event} (run : Run first events floor)
    (later : Run floor more last) : Run first (events ++ more) last := by
  induction later with
  | start =>
      rw [List.append_nil]
      exact run
  | goesOn _ step induction =>
      rw [← List.append_assoc]
      exact induction.goesOn step

theorem Run.consistent {events : List Event} (run : Run first events last)
    (consistent : first.Consistent) : last.Consistent := by
  induction run with
  | start => exact consistent
  | goesOn run step induction => exact induction.step step

/-! ## A build and a wait for it -/

def sampleJob : JobId := .ofNat 1

def oneBuild : Floor := ⟨(Table.empty.spawn sampleJob).1, []⟩

def waitedFor : Floor :=
  ⟨(oneBuild.table.putEntry sampleJob ⟨0, false, true⟩).changeBuild 0 fun build =>
    { build with claim := .held }, [⟨sampleJob, 0, 0⟩]⟩

theorem sample_spawned : Step empty (.spawned sampleJob 0) oneBuild := .spawned sampleJob

theorem sample_began : Step oneBuild (.began ⟨sampleJob, 0, 0⟩) waitedFor :=
  .began (rfl : oneBuild.table.build? 0 = some ⟨0, sampleJob, false, .kept, none⟩) rfl

end Floor

end BuildFleet.Native
