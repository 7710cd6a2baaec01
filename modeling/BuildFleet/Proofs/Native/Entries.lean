import BuildFleet.Native.Table

/-!
# What a call does to the table

A table is known by two lookups: the entry of a job and the build of a number.
Every call changes the entry of one job at most and the builds of a few numbers,
so its effect is described by what these lookups give afterwards.
-/

namespace BuildFleet.Native.Table

variable {table : Table} {job other : JobId} {number found : Nat} {entry : Entry}
  {build : Supervised} {change : Supervised → Supervised}

theorem build?_number (known : table.build? number = some build) : build.number = number := by
  simpa using List.find?_some known

/-! ## Parts of the calls -/

@[simp] theorem entry?_changeBuild :
    entry? (table.changeBuild number change) job = table.entry? job := rfl

/-- Builds change in what is known of them, never in their number. -/
theorem build?_changeBuild (keeps : ∀ build, (change build).number = build.number) :
    (table.changeBuild number change).build? found =
      if found = number then (table.build? found).map change else table.build? found := by
  simp only [build?, changeBuild]
  induction table.builds with
  | nil => simp
  | cons head tail induction =>
      rw [List.map_cons, List.find?_cons, List.find?_cons, induction]
      by_cases changed : head.number = number
      · subst changed
        by_cases same : head.number = found
        · simp [keeps, same]
        · simp [keeps, same, Ne.symm same]
      · by_cases same : head.number = found
        · subst same
          simp [changed]
        · simp [changed, same]

theorem entry?_removeEntry :
    entry? (table.removeEntry job) other = if other = job then none else table.entry? other := by
  simp only [Table.entry?, removeEntry]
  induction table.entries with
  | nil => simp
  | cons head tail induction =>
      rcases head with ⟨name, entry⟩
      by_cases sought : other = name
      · subst sought
        by_cases removed : other = job
        · simpa [removed] using induction
        · simp [removed]
      · have passed : (other == name) = false := beq_eq_false_iff_ne.mpr sought
        by_cases removed : name = job
        · simpa [removed, List.lookup_cons, removed ▸ passed] using induction
        · simpa [removed, List.lookup_cons, passed] using induction

@[simp] theorem build?_removeEntry : (table.removeEntry job).build? number = table.build? number :=
  rfl

theorem entry?_putEntry : entry? (table.putEntry job entry) other =
    if other = job then some entry else table.entry? other := by
  show ((job, entry) :: (table.removeEntry job).entries).lookup other = _
  by_cases same : other = job
  · simp [same]
  · have passed : ((job, entry) :: (table.removeEntry job).entries).lookup other =
        entry? (table.removeEntry job) other := by
      rw [List.lookup_cons, beq_eq_false_iff_ne.mpr same]
      rfl
    rw [passed, entry?_removeEntry]
    simp [same]

@[simp] theorem build?_putEntry : (table.putEntry job entry).build? number = table.build? number :=
  rfl

/-- The build that has the place of a job. -/
def latest? (table : Table) (job : JobId) : Option Nat := (table.entry? job).map Entry.number

@[simp] theorem latest?_changeBuild :
    (table.changeBuild number change).latest? job = table.latest? job := rfl

theorem latest?_eq_some_iff : table.latest? job = some number ↔
    ∃ entry, table.entry? job = some entry ∧ entry.number = number := Option.map_eq_some_iff

/-- An entry can change without losing its place. -/
theorem latest?_putEntry (held : table.latest? job = some entry.number) :
    (table.putEntry job entry).latest? other = table.latest? other := by
  rw [latest?, entry?_putEntry]
  split
  · rename_i same
    rw [same, held, Option.map_some]
  · rfl

/-- The build that somebody who waits for a job would claim. -/
def offered? (table : Table) (job : JobId) : Option Nat :=
  (table.entry? job).bind fun entry => if entry.hasClaim then some entry.number else none

theorem offered?_eq_some_iff : table.offered? job = some number ↔
    ∃ entry, table.entry? job = some entry ∧ entry.hasClaim = true ∧ entry.number = number := by
  simp only [offered?, Option.bind_eq_some_iff, Option.ite_none_right_eq_some, Option.some.injEq]

/-- The table without the entry of a job and the claim that is in it. -/
def vacate (table : Table) (job : JobId) : Table :=
  (table.dropClaim (table.entry? job)).removeEntry job

/-- Dropping a claim touches builds alone. -/
theorem dropClaim_frame (table : Table) (held : Option Entry) :
    (table.dropClaim held).entries = table.entries ∧ (table.dropClaim held).next = table.next := by
  unfold dropClaim
  split
  · split <;> exact ⟨rfl, rfl⟩
  · exact ⟨rfl, rfl⟩

@[simp] theorem next_vacate : (table.vacate job).next = table.next :=
  (table.dropClaim_frame _).2

theorem entry?_vacate :
    entry? (table.vacate job) other = if other = job then none else table.entry? other := by
  rw [vacate, entry?_removeEntry]
  unfold entry?
  rw [(table.dropClaim_frame _).1]

theorem latest?_vacate :
    (table.vacate job).latest? other = if other = job then none else table.latest? other := by
  rw [latest?, entry?_vacate]
  split <;> rfl

theorem build?_vacate : (table.vacate job).build? found =
    if table.offered? job = some found then
      (table.build? found).map fun build => { build with claim := .gone }
    else table.build? found := by
  cases entered : table.entry? job with
  | none => simp [vacate, dropClaim, offered?, entered]
  | some entry =>
      by_cases claim : entry.hasClaim = true
      · simp only [vacate, dropClaim, offered?, entered, claim, if_true, Option.bind_some,
          Option.some.injEq, build?_removeEntry, build?_changeBuild, implies_true, eq_comm]
      · simp [vacate, dropClaim, offered?, entered, claim]

/-- An entry that has lost its claim is removed without further effect. -/
theorem removeEntry_eq_vacate (unoffered : table.offered? job = none) :
    table.removeEntry job = table.vacate job := by
  cases entered : table.entry? job with
  | none => simp [vacate, dropClaim, entered]
  | some entry =>
      have unclaimed : entry.hasClaim = false := by
        simpa [offered?, entered] using unoffered
      simp [vacate, dropClaim, entered, unclaimed]

/-- The table with a new build of a job that has no entry. -/
def place (table : Table) (job : JobId) : Table :=
  { entries := (job, ⟨table.next, true, true⟩) :: table.entries
    builds := ⟨table.next, job, false, .kept, none⟩ :: table.builds
    next := table.next + 1 }

theorem entry?_place : entry? (table.place job) other =
    if other = job then some ⟨table.next, true, true⟩ else table.entry? other := by
  simp only [place, entry?, List.lookup_cons]
  by_cases same : other = job
  · simp [same]
  · simp [same, beq_eq_false_iff_ne.mpr same]

theorem latest?_place : (table.place job).latest? other =
    if other = job then some table.next else table.latest? other := by
  rw [latest?, entry?_place]
  split <;> rfl

theorem build?_place : (table.place job).build? found =
    if found = table.next then some ⟨table.next, job, false, .kept, none⟩
    else table.build? found := by
  simp only [place, build?, List.find?_cons]
  by_cases new : found = table.next
  · simp [new]
  · simp [new, Ne.symm new]

/-! ## The calls -/

theorem spawn_eq : (table.spawn job).1 = (table.vacate job).place job := rfl

theorem spawn_number : (table.spawn job).2 = table.next := (table.dropClaim_frame _).2

variable {after : Table} {ended : BuildEnd} {failure : Failure}

theorem beginWait_cases (table : Table) (job : JobId) :
    (table.offered? job = none ∧
      table.beginWait job = .error (.notFound ("build " ++ job.text))) ∨
    ∃ entry, table.entry? job = some entry ∧ entry.hasClaim = true ∧
      table.beginWait job = .ok
        ((table.putEntry job { entry with hasClaim := false }).changeBuild entry.number
          fun build => { build with claim := .held }, entry.number) := by
  simp only [beginWait, offered?]
  cases entered : table.entry? job with
  | none => exact .inl ⟨rfl, rfl⟩
  | some entry =>
      by_cases claim : entry.hasClaim = true
      · exact .inr ⟨entry, rfl, claim, if_pos claim⟩
      · exact .inl ⟨if_neg claim, if_neg claim⟩

/-- Whoever waits for a job claims the build that is offered, whichever build of the
job he means. -/
theorem begins_iff : (∃ after, table.beginWait job = .ok (after, number)) ↔
    table.offered? job = some number := by
  rcases table.beginWait_cases job with ⟨nothing, refused⟩ | ⟨entry, entered, claim, begun⟩
  · simp [refused, nothing]
  · simp [begun, offered?, entered, claim]

theorem refuses_iff : (∃ failure, table.beginWait job = .error failure) ↔
    table.offered? job = none := by
  rcases table.beginWait_cases job with ⟨nothing, refused⟩ | ⟨entry, entered, claim, begun⟩
  · simp [refused, nothing]
  · simp [begun, offered?, entered, claim]

theorem beginWait_ok (begun : table.beginWait job = .ok (after, number)) :
    ∃ entry, table.entry? job = some entry ∧ entry.hasClaim = true ∧ entry.number = number ∧
      after = (table.putEntry job { entry with hasClaim := false }).changeBuild number
        fun build => { build with claim := .held } := by
  rcases table.beginWait_cases job with ⟨_, refused⟩ | ⟨entry, entered, claim, does⟩
  · cases refused.symm.trans begun
  · cases does.symm.trans begun
    exact ⟨entry, entered, claim, rfl, rfl⟩

/-- To wait is to take the claim out of the table, and the place stays. -/
theorem latest?_beginWait (begun : table.beginWait job = .ok (after, number)) :
    after.latest? other = table.latest? other := by
  rcases beginWait_ok begun with ⟨entry, entered, _, rfl, rfl⟩
  exact latest?_putEntry (latest?_eq_some_iff.mpr ⟨entry, entered, rfl⟩)

theorem build?_beginWait (begun : table.beginWait job = .ok (after, number)) :
    after.build? found = if found = number then
      (table.build? found).map fun build => { build with claim := .held }
    else table.build? found := by
  rcases beginWait_ok begun with ⟨entry, _, _, _, rfl⟩
  simp only [build?_changeBuild, implies_true, build?_putEntry]

theorem build?_dropWait : (table.dropWait number).build? found =
    if found = number then (table.build? found).map fun build => { build with claim := .gone }
    else table.build? found :=
  build?_changeBuild fun _ => rfl

theorem takeLog_ok (taken : table.takeLog job = .ok (after, number)) :
    ∃ entry, table.entry? job = some entry ∧
      after = table.putEntry job { entry with hasLog := false } := by
  unfold takeLog at taken
  cases entered : table.entry? job with
  | none =>
      rw [entered] at taken
      cases taken
  | some entry =>
      rw [entered] at taken
      dsimp only at taken
      split at taken
      · cases taken
        exact ⟨entry, rfl, rfl⟩
      · cases taken

theorem latest?_takeLog (taken : table.takeLog job = .ok (after, number)) :
    after.latest? other = table.latest? other := by
  rcases takeLog_ok taken with ⟨entry, entered, rfl⟩
  exact latest?_putEntry (latest?_eq_some_iff.mpr ⟨entry, entered, rfl⟩)

theorem build?_takeLog (taken : table.takeLog job = .ok (after, number)) :
    after.build? found = table.build? found := by
  rcases takeLog_ok taken with ⟨entry, _, rfl⟩
  rfl

theorem finishWait_eq_some_iff : table.finishWait number = some (after, ended) ↔
    ∃ build, table.build? number = some build ∧ build.ended = some ended ∧
      after = (table.vacate build.job).changeBuild number
        fun build => { build with claim := .gone } := by
  simp only [finishWait, Option.bind_eq_bind, Option.bind_eq_some_iff, Option.pure_def,
    Option.some.injEq, Prod.mk.injEq]
  constructor
  · rintro ⟨build, known, ended, finished, rfl, rfl⟩
    exact ⟨build, known, finished, rfl⟩
  · rintro ⟨build, known, finished, rfl⟩
    exact ⟨build, known, ended, finished, rfl, rfl⟩

@[simp] theorem entry?_cancel : entry? (table.cancel job) other = table.entry? other := by
  unfold cancel
  split <;> rfl

@[simp] theorem latest?_cancel : (table.cancel job).latest? other = table.latest? other := by
  rw [latest?, entry?_cancel, latest?]

/-- A job is cancelled by the number of its latest build. -/
theorem build?_cancel : (table.cancel job).build? found =
    if table.latest? job = some found then
      (table.build? found).map fun build => { build with killRequested := true }
    else table.build? found := by
  cases entered : table.entry? job with
  | none => simp [cancel, latest?, entered]
  | some entry =>
      simp only [cancel, latest?, entered, Option.map_some, Option.some.injEq, build?_changeBuild,
        implies_true, eq_comm]

/-- The supervisor of a build clears the place in the table if nobody can fetch the end
and the place is that very build's own. -/
theorem endBuild_eq (known : table.build? number = some build) :
    table.endBuild number ended =
      if build.claim = .gone ∧ table.latest? build.job = some number then
        (table.changeBuild number fun build => { build with ended := some ended }).removeEntry
          build.job
      else table.changeBuild number fun build => { build with ended := some ended } := by
  have current : (table.entry? build.job).any (·.number = number) = true ↔
      table.latest? build.job = some number := by
    unfold latest?
    cases table.entry? build.job <;> simp
  simp only [endBuild, known, entry?_changeBuild, Bool.and_eq_true, decide_eq_true_eq, current]

theorem build?_endBuild (known : table.build? number = some build) :
    (table.endBuild number ended).build? found =
      if found = number then
        (table.build? found).map fun build => { build with ended := some ended }
      else table.build? found := by
  rw [endBuild_eq known]
  split <;> simp only [build?_removeEntry, build?_changeBuild, implies_true]

theorem entry?_endBuild (known : table.build? number = some build) :
    entry? (table.endBuild number ended) other =
      if other = build.job ∧ build.claim = .gone ∧ table.latest? build.job = some number then none
      else table.entry? other := by
  rw [endBuild_eq known]
  split
  · rename_i cleared
    simp only [entry?_removeEntry, entry?_changeBuild, cleared, and_self, and_true]
  · rename_i stays
    simp only [stays, and_false, if_false, entry?_changeBuild]

theorem latest?_endBuild (known : table.build? number = some build) :
    (table.endBuild number ended).latest? other =
      if other = build.job ∧ build.claim = .gone ∧ table.latest? build.job = some number then none
      else table.latest? other := by
  rw [latest?, entry?_endBuild known]
  split <;> rfl

/-! ## Builds that stay -/

/-- Two tables have the same builds, each of the same job. -/
structure SameBuilds (table after : Table) : Prop where
  next : after.next = table.next
  jobs : ∀ number, (after.build? number).map Supervised.job =
    (table.build? number).map Supervised.job

namespace SameBuilds

/-- Entries are no matter of the builds. -/
theorem of_builds (next : after.next = table.next) (builds : after.builds = table.builds) :
    table.SameBuilds after :=
  ⟨next, fun number => by simp only [build?, builds]⟩

theorem refl (table : Table) : table.SameBuilds table := of_builds rfl rfl

theorem symm (same : table.SameBuilds after) : after.SameBuilds table :=
  ⟨same.next.symm, fun number => (same.jobs number).symm⟩

theorem trans {last : Table} (same : table.SameBuilds after) (further : after.SameBuilds last) :
    table.SameBuilds last :=
  ⟨further.next.trans same.next, fun number => (further.jobs number).trans (same.jobs number)⟩

theorem later (same : table.SameBuilds after) (known : table.build? number = some build) :
    ∃ later, after.build? number = some later ∧ later.job = build.job := by
  apply Option.map_eq_some_iff.mp
  rw [same.jobs number, known, Option.map_some]

theorem earlier (same : table.SameBuilds after) (known : after.build? number = some build) :
    ∃ earlier, table.build? number = some earlier ∧ earlier.job = build.job :=
  same.symm.later known

theorem changeBuild (table : Table) (number : Nat)
    (numbers : ∀ build, (change build).number = build.number)
    (jobs : ∀ build, (change build).job = build.job) :
    table.SameBuilds (table.changeBuild number change) := by
  refine ⟨rfl, fun found => ?_⟩
  rw [build?_changeBuild numbers]
  split
  · rw [Option.map_map]
    exact Option.map_congr fun build _ => jobs build
  · rfl

theorem vacate (table : Table) (job : JobId) : table.SameBuilds (table.vacate job) := by
  refine ⟨next_vacate, fun found => ?_⟩
  rw [build?_vacate]
  split
  · rw [Option.map_map]
    rfl
  · rfl

theorem beginWait (begun : table.beginWait job = .ok (after, number)) :
    table.SameBuilds after := by
  rcases beginWait_ok begun with ⟨entry, _, _, _, rfl⟩
  exact (of_builds rfl rfl : table.SameBuilds (table.putEntry job _)).trans
    (changeBuild _ number (fun _ => rfl) fun _ => rfl)

theorem finishWait (fetched : table.finishWait number = some (after, ended)) :
    table.SameBuilds after := by
  rcases finishWait_eq_some_iff.mp fetched with ⟨build, _, _, rfl⟩
  exact (vacate table build.job).trans (changeBuild _ number (fun _ => rfl) fun _ => rfl)

theorem dropWait (table : Table) (number : Nat) : table.SameBuilds (table.dropWait number) :=
  changeBuild table number (fun _ => rfl) fun _ => rfl

theorem cancel (table : Table) (job : JobId) : table.SameBuilds (table.cancel job) := by
  unfold Table.cancel
  split
  · exact changeBuild table _ (fun _ => rfl) fun _ => rfl
  · exact refl table

theorem takeLog (taken : table.takeLog job = .ok (after, number)) : table.SameBuilds after := by
  rcases takeLog_ok taken with ⟨entry, _, rfl⟩
  exact of_builds rfl rfl

theorem endBuild (known : table.build? number = some build) (ended : BuildEnd) :
    table.SameBuilds (table.endBuild number ended) := by
  have changed : table.SameBuilds (table.changeBuild number fun build =>
      { build with ended := some ended }) :=
    changeBuild table number (fun _ => rfl) fun _ => rfl
  rw [endBuild_eq known]
  split
  · exact changed.trans (of_builds rfl rfl)
  · exact changed

end SameBuilds

end BuildFleet.Native.Table
