import BuildFleet.Proofs.Native.Floor

/-!
# The life of one build

Of all that happens between other builds and calls, a build sees little: whether
the place of its job in the table is still its own, where its claim is, and whether
its supervisor is done. Every event changes these three in a way that depends on
nothing else, so what can become of a build is read off its own life.
-/

namespace BuildFleet.Native

/-- What the surroundings of a build mean to it. -/
structure View where
  /-- The place of the job in the table is the build's own. -/
  current : Bool
  claim : Claim
  ended : Option BuildEnd
deriving DecidableEq

namespace View

variable {job : JobId} {number : Nat} {view : View} {event : Floor.Event}

/-- The build as it is started. -/
def fresh : View := ⟨true, .kept, none⟩

/-- The place in the table is lost, and with it the claim if it was there. -/
def displaced (view : View) : View :=
  { view with current := false, claim := if view.claim = .kept then .gone else view.claim }

/-- What an event means to the build of a job with this number. -/
def after (job : JobId) (number : Nat) (view : View) : Floor.Event → View
  | .spawned other _ => if other = job then view.displaced else view
  | .began wait => if wait.claimed = number then { view with claim := .held } else view
  | .returned wait _ =>
    if wait.claimed = number then { view with current := false, claim := .gone }
    else if wait.job = job then view.displaced else view
  | .dropped wait => if wait.claimed = number then { view with claim := .gone } else view
  | .ended other ended =>
    if other = number then
      { view with ended := some ended, current := view.current && view.claim ≠ .gone }
    else view
  | .refused _ _ => view
  | .cancelled _ _ => view
  | .tookLog _ _ => view

/-- What the view tells about the events that are possible. A wait for the job takes
the build's claim if and only if the claim is in the table. -/
def Allows (job : JobId) (number : Nat) (view : View) : Floor.Event → Prop
  | .began wait => (wait.handle = number → wait.job = job) ∧
    (wait.claimed = number ↔ wait.job = job ∧ view.claim = .kept)
  | .refused other _ => other = job → view.claim ≠ .kept
  | .returned wait ended => wait.claimed = number →
    wait.job = job ∧ view.claim = .held ∧ view.ended = some ended
  | .dropped wait => wait.claimed = number → wait.job = job ∧ view.claim = .held
  | .ended other _ => other = number → view.ended = none
  | .spawned _ other => other ≠ number
  | .cancelled _ _ => True
  | .tookLog _ _ => True

end View

/-- Events after the start of a build, the oldest first, and how it stands after them. -/
inductive Life (job : JobId) (number : Nat) : List Floor.Event → View → Prop
  | starts : Life job number [] .fresh
  | goesOn {past : List Floor.Event} {view : View} {event : Floor.Event}
      (life : Life job number past view) (allows : view.Allows job number event) :
      Life job number (past ++ [event]) (view.after job number event)

namespace Life

variable {job : JobId} {number : Nat} {events : List Floor.Event} {view : View}
  {event : Floor.Event}

/-- Claims are taken from the table, never put back. -/
theorem kept_of_after (kept : (view.after job number event).claim = .kept) :
    view.claim = .kept := by
  cases event <;> grind [View.after, View.displaced]

/-- A claim in the table is in the build's own place. -/
theorem current_of_kept (life : Life job number events view) (kept : view.claim = .kept) :
    view.current = true := by
  induction life with
  | starts => rfl
  | @goesOn past view event life allows induction =>
      have before := induction (kept_of_after kept)
      cases event <;> grind [View.after, View.displaced, View.Allows]

theorem not_began_of_kept (life : Life job number events view) (kept : view.claim = .kept) :
    ∀ wait, .began wait ∈ events → wait.claimed ≠ number := by
  induction life with
  | starts => simp
  | @goesOn past view event life allows induction =>
      have before := induction (kept_of_after kept)
      cases event <;> grind [View.after, View.displaced, View.Allows]

theorem not_waitsFor_of_kept (life : Life job number events view) (kept : view.claim = .kept) :
    ∀ event ∈ events, ¬ event.WaitsFor job number := by
  induction life with
  | starts => simp
  | @goesOn past view event life allows induction =>
      have before := induction (kept_of_after kept)
      cases event <;> grind [View.after, View.displaced, View.Allows, Floor.Event.WaitsFor]

theorem ended_iff (life : Life job number events view) {ended : BuildEnd} :
    view.ended = some ended ↔ .ended number ended ∈ events := by
  induction life with
  | starts => simp [View.fresh]
  | @goesOn past view event life allows induction =>
      cases event <;> grind [View.after, View.displaced, View.Allows]

/-- Whoever fetches the end of a build fetches that of its own supervisor. -/
theorem ended_of_returned (life : Life job number events view) {wait : Wait} {ended : BuildEnd}
    (returned : .returned wait ended ∈ events) (claimed : wait.claimed = number) :
    .ended number ended ∈ events := by
  induction life with
  | starts => cases returned
  | goesOn life allows induction =>
      rcases List.mem_append.mp returned with earlier | now
      · exact List.mem_append_left _ (induction earlier)
      · rcases List.mem_singleton.mp now with rfl
        exact List.mem_append_left _ (life.ended_iff.mp (allows claimed).2.2)

end Life

namespace Floor

variable {floor next before first last : Floor} {event : Event} {job : JobId} {wait : Wait}
  {number : Nat} {build : Supervised} {events : List Event}

/-- A build as it stands. -/
def view (floor : Floor) (build : Supervised) : View :=
  ⟨floor.table.latest? build.job = some build.number, build.claim, build.ended⟩

theorem Step.allows (step : Step floor event next) (consistent : floor.Consistent)
    (known : floor.table.build? number = some build) :
    (floor.view build).Allows build.job number event := by
  cases step with
  | spawned job => exact (Nat.ne_of_lt (consistent.fresh known)).symm
  | @began handle claimed other table there begun =>
      have offers := Table.begins_iff.mp ⟨table, begun⟩
      show (handle = number → other.job = build.job) ∧
        (claimed = number ↔ other.job = build.job ∧ build.claim = .kept)
      refine ⟨?_, ?_, ?_⟩
      · rintro rfl
        cases known.symm.trans there
        rfl
      · rintro rfl
        rcases consistent.offered offers with ⟨same, again, job, kept⟩
        cases known.symm.trans again
        exact ⟨job.symm, kept⟩
      · rintro ⟨job, kept⟩
        rw [job, (consistent.offered_iff known).mpr kept] at offers
        exact (Option.some.inj offers).symm
  | @refused handle other failure there refused =>
      intro job kept
      have nothing := Table.refuses_iff.mp ⟨failure, refused⟩
      rw [show other.job = build.job from job, (consistent.offered_iff known).mpr kept] at nothing
      cases nothing
  | @returned wait table ended waits fetched =>
      rintro rfl
      rcases consistent.waits wait waits with ⟨same, again, job⟩
      cases known.symm.trans again
      rcases Table.finishWait_eq_some_iff.mp fetched with ⟨same, again, finished, _⟩
      cases known.symm.trans again
      exact ⟨job.symm, (consistent.held known).mpr ⟨wait, waits, rfl⟩, finished⟩
  | @dropped wait waits =>
      rintro rfl
      rcases consistent.waits wait waits with ⟨same, again, job⟩
      cases known.symm.trans again
      exact ⟨job.symm, (consistent.held known).mpr ⟨wait, waits, rfl⟩⟩
  | cancelled => trivial
  | tookLog => trivial
  | @ended other found ended there running killed =>
      rintro rfl
      cases known.symm.trans there
      exact running

/-! ## What each event means to a build -/

/-- A build of the job has the number, and stands so. -/
def Shows (floor : Floor) (job : JobId) (number : Nat) (view : View) : Prop :=
  ∃ build, floor.table.build? number = some build ∧ build.job = job ∧ floor.view build = view

theorem Consistent.shows_vacate (consistent : floor.Consistent)
    (known : floor.table.build? number = some build) (job : JobId) (waits : List Wait) :
    Shows ⟨floor.table.vacate job, waits⟩ build.job number
      (if job = build.job then (floor.view build).displaced else floor.view build) := by
  have offers : floor.table.offered? job = some number ↔ job = build.job ∧ build.claim = .kept := by
    constructor
    · intro offers
      rcases consistent.offered offers with ⟨same, again, job, kept⟩
      cases known.symm.trans again
      exact ⟨job.symm, kept⟩
    · rintro ⟨rfl, kept⟩
      exact (consistent.offered_iff known).mpr kept
  by_cases same : job = build.job
  · subst same
    by_cases kept : build.claim = .kept
    · refine ⟨{ build with claim := .gone }, ?_, rfl, ?_⟩
      · rw [Table.build?_vacate, if_pos (offers.mpr ⟨rfl, kept⟩), known, Option.map_some]
      · simp [view, View.displaced, Table.latest?_vacate, kept]
    · refine ⟨build, ?_, rfl, ?_⟩
      · rw [Table.build?_vacate, if_neg fun offered => kept (offers.mp offered).2, known]
      · simp [view, View.displaced, Table.latest?_vacate, kept]
  · refine ⟨build, ?_, rfl, ?_⟩
    · rw [Table.build?_vacate, if_neg fun offered => same (offers.mp offered).1, known]
    · simp [view, Table.latest?_vacate, same, Ne.symm same]

variable {table : Table} {waits : List Wait}

theorem Consistent.shows_spawned (consistent : floor.Consistent)
    (known : floor.table.build? number = some build) (job : JobId) :
    Shows ⟨(floor.table.spawn job).1, waits⟩ build.job number
      (if job = build.job then (floor.view build).displaced else floor.view build) := by
  rcases consistent.shows_vacate known job waits with ⟨after, there, sameJob, vacated⟩
  have isNumber := Table.build?_number there
  have old : number ≠ floor.table.next := Nat.ne_of_lt (consistent.fresh known)
  refine ⟨after, ?_, sameJob, ?_⟩
  · rw [Table.spawn_eq, Table.build?_place, Table.next_vacate, if_neg old, there]
  · rw [← vacated]
    by_cases same : after.job = job
    · simp [view, Table.spawn_eq, Table.latest?_place, Table.latest?_vacate, same, isNumber,
        Ne.symm old]
    · simp [view, Table.spawn_eq, Table.latest?_place, same]

theorem shows_began (known : floor.table.build? number = some build) {claimed : Nat}
    (begun : floor.table.beginWait job = .ok (table, claimed)) :
    Shows ⟨table, waits⟩ build.job number
      (if claimed = number then { floor.view build with claim := .held }
        else floor.view build) := by
  by_cases same : claimed = number
  · refine ⟨{ build with claim := .held }, ?_, rfl, ?_⟩
    · rw [Table.build?_beginWait begun, if_pos same.symm, known, Option.map_some]
    · simp [view, Table.latest?_beginWait begun, same]
  · refine ⟨build, ?_, rfl, ?_⟩
    · rw [Table.build?_beginWait begun, if_neg (Ne.symm same), known]
    · simp [view, Table.latest?_beginWait begun, same]

/-- A wait that returns clears the place of the job, whichever build it has waited for. -/
theorem Consistent.shows_returned (consistent : floor.Consistent)
    (known : floor.table.build? number = some build) {ended : BuildEnd}
    (waiting : wait ∈ floor.waits)
    (fetched : floor.table.finishWait wait.claimed = some (table, ended)) :
    Shows ⟨table, waits⟩ build.job number
      ((floor.view build).after build.job number (.returned wait ended)) := by
  rcases Table.finishWait_eq_some_iff.mp fetched with ⟨own, ownKnown, finished, rfl⟩
  have job : own.job = wait.job := by
    rcases consistent.waits wait waiting with ⟨same, again, job⟩
    cases ownKnown.symm.trans again
    exact job
  rcases consistent.shows_vacate known own.job waits with ⟨after, there, sameJob, vacated⟩
  by_cases claimed : wait.claimed = number
  · rw [claimed] at ownKnown
    cases known.symm.trans ownKnown
    have sameEnd : after.ended = build.ended := by
      rw [if_pos rfl] at vacated
      exact congrArg View.ended vacated
    refine ⟨{ after with claim := .gone }, ?_, sameJob, ?_⟩
    · simp [Table.build?_changeBuild, claimed, there]
    · simp [view, View.after, claimed, Table.latest?_vacate, sameJob, sameEnd]
  · refine ⟨after, ?_, sameJob, ?_⟩
    · simp [Table.build?_changeBuild, Ne.symm claimed, there]
    · rw [View.after, if_neg claimed, ← job, ← vacated]
      rfl

theorem shows_dropped (known : floor.table.build? number = some build) (claimed : Nat) :
    Shows ⟨floor.table.dropWait claimed, waits⟩ build.job number
      (if claimed = number then { floor.view build with claim := .gone }
        else floor.view build) := by
  by_cases same : claimed = number
  · refine ⟨{ build with claim := .gone }, ?_, rfl, ?_⟩
    · rw [Table.build?_dropWait, if_pos same.symm, known, Option.map_some]
    · simp [view, Table.dropWait, same]
  · refine ⟨build, ?_, rfl, ?_⟩
    · rw [Table.build?_dropWait, if_neg (Ne.symm same), known]
    · rw [if_neg same]
      rfl

theorem shows_cancelled (known : floor.table.build? number = some build) (job : JobId) :
    Shows ⟨floor.table.cancel job, waits⟩ build.job number (floor.view build) := by
  rw [Shows, Table.build?_cancel, known]
  split
  · exact ⟨_, rfl, rfl, by simp [view]⟩
  · exact ⟨build, rfl, rfl, by simp [view]⟩

theorem shows_tookLog (known : floor.table.build? number = some build) {found : Nat}
    (taken : floor.table.takeLog job = .ok (table, found)) :
    Shows ⟨table, waits⟩ build.job number (floor.view build) :=
  ⟨build, (Table.build?_takeLog taken).trans known, rfl,
    by simp [view, Table.latest?_takeLog taken]⟩

/-- A supervisor asks whose the place is, so it never clears that of another build. -/
theorem shows_ended (known : floor.table.build? number = some build) {other : Nat}
    {found : Supervised} (there : floor.table.build? other = some found) (ended : BuildEnd) :
    Shows ⟨floor.table.endBuild other ended, waits⟩ build.job number
      ((floor.view build).after build.job number (.ended other ended)) := by
  have isNumber := Table.build?_number known
  rw [Shows, Table.build?_endBuild there, known]
  by_cases same : other = number
  · subst same
    cases known.symm.trans there
    refine ⟨_, if_pos rfl, rfl, ?_⟩
    by_cases current : floor.table.latest? build.job = some other
    · simp [view, View.after, Table.latest?_endBuild known, isNumber, current]
    · simp [view, View.after, Table.latest?_endBuild known, isNumber, current]
  · refine ⟨build, if_neg (Ne.symm same), rfl, ?_⟩
    have kept : floor.table.latest? build.job = some number →
        ¬ (build.job = found.job ∧ found.claim = .gone ∧
          floor.table.latest? found.job = some other) := by
      rintro current ⟨sameJob, _, place⟩
      rw [← sameJob, current] at place
      exact same (Option.some.inj place).symm
    by_cases current : floor.table.latest? build.job = some number
    · simp [view, View.after, Table.latest?_endBuild there, same, isNumber, current, kept current]
    · simp [view, View.after, Table.latest?_endBuild there, same, isNumber, current]

/-- A build makes of an event what its view tells. -/
theorem Step.shows (step : Step floor event next) (consistent : floor.Consistent)
    (known : floor.table.build? number = some build) :
    next.Shows build.job number ((floor.view build).after build.job number event) := by
  cases step with
  | spawned job => exact consistent.shows_spawned known job
  | began there begun => exact shows_began known begun
  | refused => exact ⟨build, known, rfl, rfl⟩
  | returned waiting fetched => exact consistent.shows_returned known waiting fetched
  | @dropped wait waiting => exact shows_dropped known wait.claimed
  | @cancelled handle other there => exact shows_cancelled known other.job
  | tookLog there taken => exact shows_tookLog known taken
  | ended there running killed => exact shows_ended known there _

/-- Whatever happens after a build was started, the build leads a life. -/
theorem Run.life (run : Run first events last) (consistent : before.Consistent)
    (spawned : Step before (.spawned job number) first) :
    ∃ build, last.table.build? number = some build ∧ build.job = job ∧
      Life job number events (last.view build) := by
  induction run with
  | start =>
      cases spawned with
      | spawned =>
          refine ⟨⟨before.table.next, job, false, .kept, none⟩, ?_, rfl, ?_⟩
          · rw [Table.spawn_eq, Table.build?_place, Table.next_vacate, if_pos rfl]
          · have view : view ⟨(before.table.spawn job).1, before.waits⟩
                ⟨before.table.next, job, false, .kept, none⟩ = .fresh := by
              simp [Floor.view, Table.spawn_eq, Table.latest?_place, View.fresh]
            rw [view]
            exact .starts
  | goesOn run step induction =>
      rcases induction with ⟨build, known, rfl, life⟩
      have ordered := run.consistent (consistent.step spawned)
      rcases step.shows ordered known with ⟨after, there, sameJob, view⟩
      refine ⟨after, there, sameJob, ?_⟩
      rw [view]
      exact life.goesOn (step.allows ordered known)

end Floor

end BuildFleet.Native
