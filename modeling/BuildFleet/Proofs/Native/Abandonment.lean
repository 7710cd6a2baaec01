import BuildFleet.Proofs.Native.Life

/-!
# Builds that nobody waits for

The place of a build in the table is cleared by the wait that returns its end, or by
its supervisor if the claim is gone by the time the build ends. Who is responsible
changes when the supervisor leaves the end behind: a wait that is given up after that,
before it looks again, leaves the place to nobody.
-/

namespace BuildFleet.Native

/-- The place of a job is taken or cleared. -/
def Floor.Event.Clears (job : JobId) (event : Floor.Event) : Prop :=
  (∃ number, event = .spawned job number) ∨
    ∃ wait ended, event = .returned wait ended ∧ wait.job = job

/-- The wait that could have fetched the end of a build was given up after the build
had ended. -/
def Forsaken (number : Nat) (events : List Floor.Event) : Prop :=
  ∃ wait ended, wait.claimed = number ∧
    [Floor.Event.ended number ended, .dropped wait].Sublist events

variable {number : Nat} {events : List Floor.Event} {event : Floor.Event}

theorem forsaken_append_iff : Forsaken number (events ++ [event]) ↔ Forsaken number events ∨
    ∃ wait ended, wait.claimed = number ∧ .ended number ended ∈ events ∧ event = .dropped wait := by
  constructor
  · rintro ⟨wait, ended, claimed, ordered⟩
    rcases List.sublist_append_iff.mp ordered with ⟨earlier, now, parts, before, last⟩
    rcases List.sublist_singleton.mp last with rfl | rfl
    · rw [List.append_nil] at parts
      exact .inl ⟨wait, ended, claimed, parts ▸ before⟩
    · have parts : [.ended number ended] ++ [.dropped wait] = earlier ++ [event] := parts
      rcases List.append_inj' parts rfl with ⟨rfl, same⟩
      cases same
      exact .inr ⟨wait, ended, claimed, List.singleton_sublist.mp before, rfl⟩
  · rintro (⟨wait, ended, claimed, ordered⟩ | ⟨wait, ended, claimed, finished, rfl⟩)
    · exact ⟨wait, ended, claimed, ordered.trans (List.sublist_append_left _ _)⟩
    · exact ⟨wait, ended, claimed,
        (List.singleton_sublist.mpr finished).append (List.Sublist.refl [_])⟩

namespace Life

variable {job : JobId} {view : View}

/-- A build keeps its place if that is not cleared and, once the build has ended, the
claim is still somewhere or was given up too late. -/
theorem current_iff (life : Life job number events view) :
    view.current = true ↔ (∀ event ∈ events, ¬ event.Clears job) ∧
      (view.ended = none ∨ view.claim ≠ .gone ∨ Forsaken number events) := by
  induction life with
  | starts => simp [View.fresh]
  | @goesOn past view event life allows induction =>
      rw [List.forall_mem_append, List.forall_mem_singleton, forsaken_append_iff]
      cases event with
      | spawned other newer =>
          by_cases same : other = job
          · simp [View.after, View.displaced, Floor.Event.Clears, same]
          · simp [View.after, Floor.Event.Clears, same, induction]
      | began wait =>
          by_cases claimed : wait.claimed = number
          · have kept : view.claim = .kept := (allows.2.mp claimed).2
            simp [View.after, Floor.Event.Clears, claimed, induction, kept]
          · simp [View.after, Floor.Event.Clears, claimed, induction]
      | refused other handle => simp [View.after, Floor.Event.Clears, induction]
      | returned wait ended =>
          by_cases claimed : wait.claimed = number
          · have same : wait.job = job := (allows claimed).1
            simp [View.after, Floor.Event.Clears, claimed, same]
          · by_cases same : wait.job = job
            · simp [View.after, View.displaced, Floor.Event.Clears, claimed, same]
            · simp [View.after, Floor.Event.Clears, claimed, same, induction]
      | dropped wait =>
          by_cases claimed : wait.claimed = number
          · -- The claim has been held until now, so the place was the build's own.
            have held : view.claim = .held := (allows claimed).2
            have known : view.ended = none ∨ ∃ ended, .ended number ended ∈ past := by
              cases finished : view.ended with
              | none => exact .inl rfl
              | some ended => exact .inr ⟨ended, life.ended_iff.mp finished⟩
            simp [View.after, Floor.Event.Clears, claimed, induction, held]
            exact fun _ => known.imp_right .inr
          · simp [View.after, Floor.Event.Clears, claimed, induction]
      | cancelled other handle => simp [View.after, Floor.Event.Clears, induction]
      | tookLog other handle => simp [View.after, Floor.Event.Clears, induction]
      | ended other ended =>
          by_cases same : other = number
          · subst same
            have running : view.ended = none := allows rfl
            have unforsaken : ¬ Forsaken other past := by
              rintro ⟨wait, ended, _, ordered⟩
              have finished : Floor.Event.ended other ended ∈ past :=
                ordered.subset List.mem_cons_self
              cases running.symm.trans (life.ended_iff.mpr finished)
            simp [View.after, Floor.Event.Clears, induction, running, unforsaken]
          · simp [View.after, Floor.Event.Clears, same, induction]

end Life

namespace Floor

variable {before first last : Floor} {job : JobId} {past : List Event}

/-- Once a build has ended and the wait by its own handle is over, the table still holds
the build if and only if its place was not cleared and the wait that had its claim was
given up after the end, or is a wait by another handle that goes on. -/
theorem remains_iff_forsaken_or_usurped (reached : Run .empty past before)
    (spawned : Step before (.spawned job number) first) (run : Run first events last)
    (ended : ∃ ended, .ended number ended ∈ events)
    (waited : ∃ event ∈ events, event.WaitsFor job number)
    (finished : ∀ wait ∈ last.waits, wait.handle ≠ number) :
    last.table.latest? job = some number ↔ (∀ event ∈ events, ¬ event.Clears job) ∧
      (Forsaken number events ∨
        ∃ wait ∈ last.waits, wait.claimed = number ∧ wait.handle ≠ number) := by
  have consistent := reached.consistent consistent_empty
  rcases run.life consistent spawned with ⟨build, known, rfl, life⟩
  have lasting := run.consistent (consistent.step spawned)
  have isNumber := Table.build?_number known
  have done : build.ended ≠ none := by
    rcases ended with ⟨ended, member⟩
    have ended : build.ended = some ended := life.ended_iff.mpr member
    simp [ended]
  have taken : build.claim ≠ .kept := by
    rcases waited with ⟨event, member, waits⟩
    exact fun kept => life.not_waitsFor_of_kept kept event member waits
  have held : build.claim ≠ .gone ↔
      ∃ wait ∈ last.waits, wait.claimed = number ∧ wait.handle ≠ number := by
    have usurped : build.claim = .held ↔
        ∃ wait ∈ last.waits, wait.claimed = number ∧ wait.handle ≠ number := by
      rw [lasting.held known]
      constructor
      · rintro ⟨wait, waits, claimed⟩
        exact ⟨wait, waits, claimed, finished wait waits⟩
      · rintro ⟨wait, waits, claimed, _⟩
        exact ⟨wait, waits, claimed⟩
    rw [← usurped]
    cases claim : build.claim with
    | kept => exact absurd claim taken
    | held => simp
    | gone => simp
  have current : (last.view build).current = true ↔
      last.table.latest? build.job = some number := by
    simp [view, isNumber]
  rw [← current, life.current_iff]
  refine and_congr_right fun _ => ?_
  show build.ended = none ∨ build.claim ≠ .gone ∨ Forsaken number events ↔ _
  rw [held, or_iff_right done, or_comm]

/-! ## Giving up before the end and after it -/

def droppedFirst : Floor := ⟨waitedFor.table.dropWait 0, []⟩

def clearedAtEnd : Floor := ⟨droppedFirst.table.endBuild 0 (.exited (some 0)), []⟩

theorem sample_dropped_first : Run oneBuild [.began ⟨sampleJob, 0, 0⟩, .dropped ⟨sampleJob, 0, 0⟩,
    .ended 0 (.exited (some 0))] clearedAtEnd :=
  .goesOn (.goesOn (.goesOn .start sample_began) (.dropped (by decide))) (.ended
    (rfl : droppedFirst.table.build? 0 = some ⟨0, sampleJob, false, .gone, none⟩) rfl
    fun same => by cases same)

/-- If the wait is given up first, the supervisor clears the place. -/
theorem sample_cleared : Run .empty [] .empty ∧ Step .empty (.spawned sampleJob 0) oneBuild ∧
    Run oneBuild [.began ⟨sampleJob, 0, 0⟩, .dropped ⟨sampleJob, 0, 0⟩,
      .ended 0 (.exited (some 0))] clearedAtEnd ∧
    (∀ wait ∈ clearedAtEnd.waits, wait.handle ≠ 0) ∧
    (clearedAtEnd.table.latest? sampleJob = some 0 ↔
      (∀ event ∈ [Event.began ⟨sampleJob, 0, 0⟩, .dropped ⟨sampleJob, 0, 0⟩,
        .ended 0 (.exited (some 0))], ¬ event.Clears sampleJob) ∧
      (Forsaken 0 [.began ⟨sampleJob, 0, 0⟩, .dropped ⟨sampleJob, 0, 0⟩,
        .ended 0 (.exited (some 0))] ∨
        ∃ wait ∈ clearedAtEnd.waits, wait.claimed = 0 ∧ wait.handle ≠ 0)) := by
  have finished : ∀ wait ∈ clearedAtEnd.waits, wait.handle ≠ 0 := by simp [clearedAtEnd]
  exact ⟨.start, sample_spawned, sample_dropped_first, finished,
    remains_iff_forsaken_or_usurped .start sample_spawned sample_dropped_first
      ⟨.exited (some 0), by simp⟩
      ⟨.began ⟨sampleJob, 0, 0⟩, by simp, .inl ⟨_, rfl, rfl⟩⟩ finished⟩

def endedFirst : Floor := ⟨waitedFor.table.endBuild 0 (.exited (some 0)), waitedFor.waits⟩

def forsaken : Floor := ⟨endedFirst.table.dropWait 0, []⟩

/-- If the build ends first, its entry stays although the wait is over. -/
theorem sample_forsaken : Run .empty [.spawned sampleJob 0, .began ⟨sampleJob, 0, 0⟩,
      .ended 0 (.exited (some 0)), .dropped ⟨sampleJob, 0, 0⟩] forsaken ∧
    forsaken.waits = [] ∧ forsaken.table.latest? sampleJob = some 0 := by
  refine ⟨?_, rfl, by decide⟩
  exact .goesOn (.goesOn (.goesOn (.goesOn .start sample_spawned) sample_began) (.ended
    (rfl : waitedFor.table.build? 0 = some ⟨0, sampleJob, false, .held, none⟩) rfl
    fun same => by cases same)) (.dropped (by decide))

end Floor

end BuildFleet.Native
