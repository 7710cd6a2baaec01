import BuildFleet.Proofs.Native.Life

/-!
# Builds of one job

Several builds of one job share its place in the table, and only a supervisor asks
whose place it is. A wait takes whatever claim is there and clears the place when it
returns, so waiting by the handle of an earlier build can take the claim of the
latest one, or clear its place. Nothing else can: a build that no such wait intrudes
on can be killed by its own handle, and its end is fetched by its own handle.
-/

namespace BuildFleet.Native

/-- A wait by another handle takes the claim of a build, or a wait for another build
of the job returns. -/
def Floor.Event.Intrudes (job : JobId) (number : Nat) (event : Floor.Event) : Prop :=
  (∃ wait, event = .began wait ∧ wait.claimed = number ∧ wait.handle ≠ number) ∨
    ∃ wait ended, event = .returned wait ended ∧ wait.job = job ∧ wait.claimed ≠ number

/-- The claim of a build was taken by its own handle. -/
def Taken (number : Nat) (events : List Floor.Event) : Prop :=
  ∃ wait, .began wait ∈ events ∧ wait.handle = number ∧ wait.claimed = number

theorem taken_append_iff {number : Nat} {events : List Floor.Event} {event : Floor.Event} :
    Taken number (events ++ [event]) ↔ Taken number events ∨
      ∃ wait, event = .began wait ∧ wait.handle = number ∧ wait.claimed = number := by
  simp only [Taken, List.mem_append, List.mem_singleton, or_and_right, exists_or, eq_comm]

namespace Life

variable {job : JobId} {number : Nat} {events : List Floor.Event} {view : View}
  {event : Floor.Event}

/-- A build is undisturbed as long as no wait intrudes on it. -/
theorem undisturbed_iff (life : Life job number events view)
    (running : ∀ ended, .ended number ended ∉ events)
    (latest : ∀ newer, .spawned job newer ∉ events) :
    (view.current = true ∧ (view.claim = .kept ∨ Taken number events)) ↔
      ∀ event ∈ events, ¬ event.Intrudes job number := by
  induction life with
  | starts => simp [View.fresh]
  | @goesOn past view event life allows induction =>
      simp only [List.mem_append, List.mem_singleton, not_or] at running latest
      have before := induction (fun ended => (running ended).1) (fun newer => (latest newer).1)
      have notEnded : view.ended = none := by
        cases ended : view.ended with
        | none => rfl
        | some ended' => exact absurd (life.ended_iff.mp ended) (running _).1
      rw [List.forall_mem_append, List.forall_mem_singleton, ← before, taken_append_iff]
      cases event with
      | spawned other newer =>
          have different : other ≠ job := fun same => (latest newer).2 (by rw [same])
          simp [View.after, Floor.Event.Intrudes, different]
      | began wait =>
          by_cases claimed : wait.claimed = number
          · -- Until now the claim was in the table, so no handle has taken it before.
            have kept : view.claim = .kept := (allows.2.mp claimed).2
            have untaken : ¬ Taken number past := by
              rintro ⟨wait, began, _, same⟩
              exact life.not_began_of_kept kept wait began same
            simp [View.after, Floor.Event.Intrudes, claimed, kept, untaken,
              life.current_of_kept kept]
          · simp [View.after, Floor.Event.Intrudes, claimed]
      | refused other handle => simp [View.after, Floor.Event.Intrudes]
      | returned wait ended =>
          have other : wait.claimed ≠ number := by
            intro claimed
            rcases allows claimed with ⟨_, _, finished⟩
            cases notEnded.symm.trans finished
          by_cases same : wait.job = job
          · simp [View.after, View.displaced, Floor.Event.Intrudes, other, same]
          · simp [View.after, Floor.Event.Intrudes, other, same]
      | dropped wait =>
          by_cases claimed : wait.claimed = number
          · have held : view.claim = .held := (allows claimed).2
            simp [View.after, Floor.Event.Intrudes, claimed, held]
          · simp [View.after, Floor.Event.Intrudes, claimed]
      | cancelled other handle => simp [View.after, Floor.Event.Intrudes]
      | tookLog other handle => simp [View.after, Floor.Event.Intrudes]
      | ended other ended =>
          have different : other ≠ number := fun same => (running ended).2 (by rw [same])
          simp [View.after, Floor.Event.Intrudes, different]

end Life

namespace Floor

variable {floor before first last : Floor} {job : JobId} {number : Nat} {past events : List Event}
  {build : Supervised}

/-- A build has the place of its job, and its claim is there or was taken by its own
handle. -/
def Undisturbed (floor : Floor) (job : JobId) (number : Nat) (events : List Event) : Prop :=
  floor.table.latest? job = some number ∧
    (floor.table.offered? job = some number ∨ Taken number events)

/-- What the handle of a build is good for. -/
structure Served (floor : Floor) (job : JobId) (number : Nat) (events : List Event) : Prop where
  /-- Whoever cancels by it has the build killed. -/
  killed : ∃ build, (floor.table.cancel job).build? number = some build ∧
    build.killRequested = true
  /-- The first to wait by it claims the build's end. -/
  claimed : (∀ event ∈ events, ¬ event.WaitsFor job number) →
    ∃ table, floor.table.beginWait job = .ok (table, number)
  /-- Once the supervisor is done, whoever has claimed the end can fetch it, -/
  fetched : ∀ {more last ended}, Run floor more last → .ended number ended ∈ more →
    ∀ wait ∈ last.waits, wait.claimed = number →
      ∃ table, last.table.finishWait wait.claimed = some (table, ended)
  /-- and nobody who has claimed it is given any other. -/
  own : ∀ {more last wait ended}, Run floor more last → .returned wait ended ∈ more →
    wait.claimed = number → .ended number ended ∈ more

theorem Undisturbed.killed (undisturbed : floor.Undisturbed job number events)
    (known : floor.table.build? number = some build) :
    ∃ build, (floor.table.cancel job).build? number = some build ∧
      build.killRequested = true := by
  refine ⟨{ build with killRequested := true }, ?_, rfl⟩
  rw [Table.build?_cancel, if_pos undisturbed.1, known, Option.map_some]

theorem Undisturbed.claimed (undisturbed : floor.Undisturbed job number events)
    (unasked : ∀ event ∈ events, ¬ event.WaitsFor job number) :
    ∃ table, floor.table.beginWait job = .ok (table, number) := by
  rcases undisturbed.2 with offered | ⟨wait, began, handle, _⟩
  · exact Table.begins_iff.mpr offered
  · exact absurd (.inl ⟨wait, rfl, handle⟩) (unasked _ began)

/-- A build that is still running, and that no newer one of its job has replaced, is
undisturbed if and only if no wait has intruded on it, and then its handle serves. -/
theorem undisturbed_iff_no_intrusion (reached : Run .empty past before)
    (spawned : Step before (.spawned job number) first) (run : Run first events last)
    (running : ∀ ended, .ended number ended ∉ events)
    (latest : ∀ newer, .spawned job newer ∉ events) :
    (last.Undisturbed job number events ↔ ∀ event ∈ events, ¬ event.Intrudes job number) ∧
      (last.Undisturbed job number events → last.Served job number events) := by
  have consistent := reached.consistent consistent_empty
  rcases run.life consistent spawned with ⟨build, known, rfl, life⟩
  have isNumber := Table.build?_number known
  have lasting := run.consistent (consistent.step spawned)
  constructor
  · rw [← life.undisturbed_iff running latest, Undisturbed, lasting.offered_iff known]
    simp [view, isNumber]
  · intro undisturbed
    constructor
    case killed => exact undisturbed.killed known
    case claimed => exact undisturbed.claimed
    case fetched =>
      rintro more final ended later finished wait waits rfl
      rcases (run.append later).life consistent spawned with ⟨build, known, _, life⟩
      have finished := life.ended_iff.mpr (List.mem_append_right _ finished)
      exact ⟨_, Table.finishWait_eq_some_iff.mpr ⟨build, known, finished, rfl⟩⟩
    case own =>
      intro more final wait ended later returned claimed
      rcases (run.append later).life consistent spawned with ⟨build, known, _, life⟩
      have finished := life.ended_of_returned (List.mem_append_right _ returned) claimed
      exact (List.mem_append.mp finished).resolve_left (running ended)

/-! ## Two builds of one job -/

def twoBuilds : Floor := ⟨(oneBuild.table.spawn sampleJob).1, []⟩

theorem sample_spawned_again : Step oneBuild (.spawned sampleJob 1) twoBuilds := .spawned sampleJob

def earlierEnded : Floor := ⟨twoBuilds.table.endBuild 0 (.exited (some 1)), []⟩

theorem sample_ended : Run twoBuilds [.ended 0 (.exited (some 1))] earlierEnded :=
  .goesOn .start (.ended
    (rfl : twoBuilds.table.build? 0 = some ⟨0, sampleJob, false, .gone, none⟩) rfl
    fun same => by cases same)

/-- The end of the earlier build is none of the later one's business. -/
theorem sample_undisturbed_by_end :
    Run .empty [.spawned sampleJob 0] oneBuild ∧ Step oneBuild (.spawned sampleJob 1) twoBuilds ∧
      Run twoBuilds [.ended 0 (.exited (some 1))] earlierEnded ∧
      (earlierEnded.Undisturbed sampleJob 1 [.ended 0 (.exited (some 1))] ↔
        ∀ event ∈ [Event.ended 0 (.exited (some 1))], ¬ event.Intrudes sampleJob 1) ∧
      (earlierEnded.Undisturbed sampleJob 1 [.ended 0 (.exited (some 1))] →
        earlierEnded.Served sampleJob 1 [.ended 0 (.exited (some 1))]) :=
  ⟨.goesOn .start sample_spawned, sample_spawned_again, sample_ended,
    undisturbed_iff_no_intrusion (.goesOn .start sample_spawned) sample_spawned_again sample_ended
      (by simp) (by simp)⟩

def claimTaken : Floor :=
  ⟨(twoBuilds.table.putEntry sampleJob ⟨1, false, true⟩).changeBuild 1 fun build =>
    { build with claim := .held }, [⟨sampleJob, 0, 1⟩]⟩

def spawnedMeanwhile : Floor := ⟨(waitedFor.table.spawn sampleJob).1, waitedFor.waits⟩

def endedMeanwhile : Floor :=
  ⟨spawnedMeanwhile.table.endBuild 0 (.exited (some 1)), waitedFor.waits⟩

def placeCleared : Floor :=
  ⟨(endedMeanwhile.table.vacate sampleJob).changeBuild 0 fun build => { build with claim := .gone },
    []⟩

/-- By the handle of the earlier build one claims the later one, and a wait for the
earlier build that returns late clears the place of the later one. -/
theorem sample_waits_intrude :
    (Run twoBuilds [.began ⟨sampleJob, 0, 1⟩] claimTaken ∧
      ¬ claimTaken.Undisturbed sampleJob 1 [.began ⟨sampleJob, 0, 1⟩]) ∧
    Run .empty [.spawned sampleJob 0, .began ⟨sampleJob, 0, 0⟩] waitedFor ∧
      Step waitedFor (.spawned sampleJob 1) spawnedMeanwhile ∧
      Run spawnedMeanwhile [.ended 0 (.exited (some 1)),
        .returned ⟨sampleJob, 0, 0⟩ (.exited (some 1))] placeCleared ∧
      ¬ placeCleared.Undisturbed sampleJob 1 [.ended 0 (.exited (some 1)),
        .returned ⟨sampleJob, 0, 0⟩ (.exited (some 1))] := by
  refine ⟨⟨?_, ?_⟩, ?_, ?_, ?_, ?_⟩
  · exact .goesOn .start (.began
      (rfl : twoBuilds.table.build? 0 = some ⟨0, sampleJob, false, .gone, none⟩) rfl)
  · rintro ⟨_, offered | ⟨wait, began, handle, claimed⟩⟩
    · exact absurd offered (by decide)
    · cases List.mem_singleton.mp began
      cases handle
  · exact .goesOn (.goesOn .start sample_spawned) sample_began
  · exact .spawned sampleJob
  · exact .goesOn (.goesOn .start (.ended
      (rfl : spawnedMeanwhile.table.build? 0 = some ⟨0, sampleJob, false, .held, none⟩) rfl
      fun same => by cases same)) (.returned (by decide) rfl)
  · rintro ⟨current, _⟩
    exact absurd current (by decide)

end Floor

end BuildFleet.Native
