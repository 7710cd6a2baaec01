import Mathlib.Data.List.Perm.Basic
import BuildFleet.Native.Environment
import BuildFleet.Proofs.Native.Abandonment

/-!
# Calls one after the other

When each call is answered before the next one is made, what happens in a workshop
is still a sequence of events at its table. Nobody gives up waiting in it, and nobody
waits between two calls, so builds that were waited for leave nothing behind.
-/

namespace BuildFleet.Native

/-- A claim is gone only if the place of the job was cleared or a wait was given up. -/
theorem Life.cleared_of_gone {job : JobId} {number : Nat} {events : List Floor.Event}
    {view : View} (life : Life job number events view) (gone : view.claim = .gone) :
    (∃ event ∈ events, event.Clears job) ∨ ∃ wait, .dropped wait ∈ events := by
  induction life with
  | starts => cases gone
  | @goesOn past view event life allows induction =>
      by_cases before : view.claim = .gone
      · rcases induction before with ⟨event, member, clears⟩ | ⟨wait, dropped⟩
        · exact .inl ⟨event, List.mem_append_left _ member, clears⟩
        · exact .inr ⟨wait, List.mem_append_left _ dropped⟩
      · have last : event ∈ past ++ [event] := List.mem_append_right _ List.mem_cons_self
        cases event with
        | spawned other newer =>
            by_cases same : other = job
            · exact .inl ⟨_, last, .inl ⟨newer, by rw [same]⟩⟩
            · simp [View.after, same, before] at gone
        | returned wait ended =>
            by_cases same : wait.job = job
            · exact .inl ⟨_, last, .inr ⟨wait, ended, rfl, same⟩⟩
            · have other : wait.claimed ≠ number := fun claimed => same (allows claimed).1
              simp [View.after, same, other, before] at gone
        | dropped wait => exact .inr ⟨wait, last⟩
        | began wait => grind [View.after]
        | ended other ended => grind [View.after]
        | refused other handle => exact absurd gone before
        | cancelled other handle => exact absurd gone before
        | tookLog other handle => exact absurd gone before

namespace Floor

variable {floor next first last : Floor} {event : Event} {events : List Event} {job : JobId}
  {number : Nat} {build : Supervised}

/-! ## Builds and their handles -/

/-- Only a spawn makes a build. -/
theorem Step.sameBuilds (step : Step floor event next)
    (other : ∀ job number, event ≠ .spawned job number) :
    floor.table.SameBuilds next.table := by
  cases step with
  | spawned job => exact absurd rfl (other job _)
  | began there begun => exact .beginWait begun
  | refused => exact .refl _
  | returned waits fetched => exact .finishWait fetched
  | dropped waits => exact .dropWait _ _
  | cancelled there => exact .cancel _ _
  | tookLog there taken => exact .takeLog taken
  | ended there running killed => exact .endBuild there _

/-- A build is known from the event that starts it on. -/
theorem Step.spawned_of_known (step : Step floor event next)
    (unknown : floor.table.build? number = none) (known : next.table.build? number = some build) :
    event = .spawned build.job number := by
  by_cases other : ∀ job number, event ≠ .spawned job number
  · rcases (step.sameBuilds other).earlier known with ⟨before, there, _⟩
    cases unknown.symm.trans there
  · simp only [not_forall, not_not] at other
    rcases other with ⟨job, newer, rfl⟩
    cases step with
    | spawned =>
        have vacated : (floor.table.vacate job).build? number = none := by
          rw [Table.build?_vacate, unknown, Option.map_none, ite_self]
        rw [Table.spawn_eq, Table.build?_place, Table.next_vacate, vacated] at known
        split at known
        · rename_i same
          cases known
          rw [same]
        · cases known

/-- A run that knows a build has started it. -/
theorem Run.spawned_of_known (run : Run .empty events last)
    (known : last.table.build? number = some build) :
    ∃ past before first rest, events = past ++ .spawned build.job number :: rest ∧
      Run .empty past before ∧ Step before (.spawned build.job number) first ∧
      Run first rest last := by
  induction run generalizing build with
  | start => cases known
  | @goesOn past floor next event run step induction =>
      cases there : floor.table.build? number with
      | none =>
          have spawned := step.spawned_of_known there known
          exact ⟨past, floor, next, [], by rw [spawned], run, spawned ▸ step, .start⟩
      | some earlier =>
          rcases step.shows (run.consistent consistent_empty) there with ⟨after, again, sameJob, _⟩
          cases known.symm.trans again
          rcases induction there with ⟨front, before, first, rest, rfl, reached, spawned, later⟩
          rw [sameJob]
          exact ⟨front, before, first, rest ++ [event], by simp, reached, spawned,
            later.goesOn step⟩

/-- Only builds that are known are waited for, and they stay known. -/
theorem Run.known_of_waitsFor (run : Run .empty events last) (member : event ∈ events)
    (waits : event.WaitsFor job number) :
    ∃ build, last.table.build? number = some build ∧ event.WaitsFor build.job number := by
  induction run with
  | start => cases member
  | @goesOn past floor next newer run step induction =>
      have consistent := run.consistent consistent_empty
      have before : ∃ build, floor.table.build? number = some build ∧
          event.WaitsFor build.job number := by
        rcases List.mem_append.mp member with earlier | now
        · exact induction earlier
        · rcases List.mem_singleton.mp now with rfl
          rcases waits with ⟨wait, rfl, rfl⟩ | rfl
          · cases step with
            | began known begun => exact ⟨_, known, .inl ⟨_, rfl, rfl⟩⟩
          · cases step with
            | refused known refused => exact ⟨_, known, .inr rfl⟩
      rcases before with ⟨build, known, waits⟩
      rcases step.shows consistent known with ⟨after, there, sameJob, _⟩
      exact ⟨after, there, sameJob ▸ waits⟩

/-- If no wait is given up and none goes on, a build that was waited for has left the
table. -/
theorem Run.cleared_of_waited (run : Run .empty events last)
    (undropped : ∀ wait, .dropped wait ∉ events) (answered : last.waits = [])
    (known : last.table.build? number = some build)
    (waited : ∃ event ∈ events, event.WaitsFor build.job number) :
    last.table.latest? build.job ≠ some number := by
  rcases run.spawned_of_known known with ⟨past, before, first, rest, rfl, reached, spawned, later⟩
  have consistent := reached.consistent consistent_empty
  rcases later.life consistent spawned with ⟨same, again, _, life⟩
  cases known.symm.trans again
  have waitedSince : ∃ event ∈ rest, event.WaitsFor build.job number := by
    rcases waited with ⟨event, member, waits⟩
    rcases List.mem_append.mp member with earlier | since
    · rcases reached.known_of_waitsFor earlier waits with ⟨old, there, _⟩
      exact absurd rfl (spawned.allows consistent there)
    · rcases List.mem_cons.mp since with rfl | since
      · rcases waits with ⟨wait, same, _⟩ | same <;> cases same
      · exact ⟨event, since, waits⟩
  have gone : build.claim = .gone := by
    cases claim : build.claim with
    | kept =>
        rcases waitedSince with ⟨event, member, waits⟩
        exact absurd waits (life.not_waitsFor_of_kept claim event member)
    | held =>
        have lasting := later.consistent (consistent.step spawned)
        rcases (lasting.held known).mp claim with ⟨wait, waits, _⟩
        rw [answered] at waits
        cases waits
    | gone => rfl
  intro current
  have stays : (last.view build).current = true := by
    simp [view, Table.build?_number known, current]
  rcases life.cleared_of_gone gone with ⟨event, member, clears⟩ | ⟨wait, dropped⟩
  · exact (life.current_iff.mp stays).1 event member clears
  · exact undropped wait (List.mem_append_right _ (List.mem_cons_of_mem _ dropped))

end Floor

namespace Workshop

variable {workshop next last : Workshop} {run : Run} {waits : List Wait} {number time : Nat}
  {ended : BuildEnd}

/-! ## Supervisors that come to their ends -/

/-- The supervisor of a build is not done. -/
def Running (workshop : Workshop) (number : Nat) : Prop :=
  ∃ build, workshop.table.build? number = some build ∧ build.ended = none

/-- Every run is that of a build of its own, and goes on as long as its supervisor. -/
structure Attended (workshop : Workshop) : Prop where
  attends : ∀ run ∈ workshop.runs, ∃ build, workshop.table.build? run.number = some build ∧
    (run.endedAt = none ↔ build.ended = none)
  distinct : workshop.runs.Pairwise fun run other => run.number ≠ other.number

theorem Attended.running (attended : workshop.Attended) (member : run ∈ workshop.runs)
    (unended : run.endedAt = none) : workshop.Running run.number := by
  rcases attended.attends run member with ⟨build, known, same⟩
  exact ⟨build, known, same.mp unended⟩

/-- From one state to the next builds have ended, and nothing else has happened. -/
structure Passes (waits : List Wait) (workshop next : Workshop) : Prop where
  attended : workshop.Attended → next.Attended
  run : ∃ events, Floor.Run ⟨workshop.table, waits⟩ events ⟨next.table, waits⟩ ∧
    ∀ event ∈ events, ∃ number ended, event = .ended number ended

theorem Passes.refl (waits : List Wait) (workshop : Workshop) : Passes waits workshop workshop :=
  ⟨id, [], .start, by simp⟩

theorem Passes.trans (passes : Passes waits workshop next) (later : Passes waits next last) :
    Passes waits workshop last := by
  rcases passes.run with ⟨events, run, ends⟩
  rcases later.run with ⟨more, goesOn, moreEnds⟩
  exact ⟨later.attended ∘ passes.attended, events ++ more, run.append goesOn,
    List.forall_mem_append.mpr ⟨ends, moreEnds⟩⟩

/-- The time of a workshop is no matter of its table. -/
theorem Passes.clock (passes : Passes waits workshop next) (time : Nat) :
    Passes waits workshop { next with clock := time } :=
  ⟨fun attended => ⟨(passes.attended attended).attends, (passes.attended attended).distinct⟩,
    passes.run⟩

/-- A run that ends leaves other builds as they are. -/
theorem build?_finishRun (different : number ≠ run.number) :
    (workshop.finishRun run time ended).table.build? number = workshop.table.build? number := by
  show (workshop.table.endBuild run.number ended).build? number = _
  cases known : workshop.table.build? run.number with
  | none => simp [Table.endBuild, known]
  | some build => rw [Table.build?_endBuild known, if_neg different]

theorem Running.finishRun (running : workshop.Running number) (different : number ≠ run.number) :
    (workshop.finishRun run time ended).Running number := by
  rcases running with ⟨build, known, unended⟩
  exact ⟨build, (build?_finishRun different).trans known, unended⟩

theorem Attended.finishRun (attended : workshop.Attended) :
    (workshop.finishRun run time ended).Attended where
  attends other member := by
    rcases List.mem_map.mp member with ⟨before, there, rfl⟩
    rcases attended.attends before there with ⟨build, known, same⟩
    split
    · rename_i isRun
      rw [isRun] at known
      refine ⟨{ build with ended := some ended }, ?_, by simp⟩
      show (workshop.table.endBuild run.number ended).build? before.number = _
      rw [Table.build?_endBuild known, if_pos isRun, isRun, known, Option.map_some]
    · rename_i different
      exact ⟨build, (build?_finishRun different).trans known, same⟩
  distinct := by
    refine List.pairwise_map.mpr (attended.distinct.imp fun different => ?_)
    split <;> split <;> exact different

/-- The supervisor of a run is done. A killed run was to be killed. -/
theorem passes_finishRun (running : workshop.Running run.number)
    (killed : ended = Table.killed → workshop.killRequested run = true) :
    Passes waits workshop (workshop.finishRun run time ended) := by
  rcases running with ⟨build, known, running⟩
  refine ⟨Attended.finishRun, [.ended run.number ended],
    .goesOn .start (.ended known running fun isKilled => ?_), by simp⟩
  simpa [killRequested, known] using killed isKilled

/-- Several runs end, each of them once. -/
theorem passes_foldl {Item : Type} {items : List Item} (of : Item → Run)
    {finish : Workshop → Item → Workshop}
    (each : ∀ item ∈ items, (∀ state, finish state item = state) ∨
      (of item).endedAt = none ∧ ∃ time ended,
        (∀ state, finish state item = state.finishRun (of item) time ended) ∧
        (ended = Table.killed → workshop.killRequested (of item) = true))
    (running : ∀ item ∈ items, (of item).endedAt = none → workshop.Running (of item).number)
    (distinct : items.Pairwise fun item other => (of item).number ≠ (of other).number) :
    Passes waits workshop (items.foldl finish workshop) := by
  induction items generalizing workshop with
  | nil => exact .refl waits workshop
  | cons item items induction =>
      rcases List.pairwise_cons.mp distinct with ⟨apart, distinct⟩
      have later := fun other member => each other (List.mem_cons_of_mem item member)
      have goOn := fun other member => running other (List.mem_cons_of_mem item member)
      rcases each item List.mem_cons_self with same | ⟨unended, time, ended, does, killed⟩
      · rw [List.foldl_cons, same]
        exact induction later goOn distinct
      · rw [List.foldl_cons, does]
        refine (passes_finishRun (running item List.mem_cons_self unended) killed).trans
          (induction (fun other member => ?_) (fun other member unended => ?_) distinct)
        · -- What is known of the other builds is as it was.
          simp only [killRequested, build?_finishRun (apart other member).symm]
          exact later other member
        · exact (goOn other member unended).finishRun (apart other member).symm

theorem passes_reap (attended : workshop.Attended) : Passes waits workshop workshop.reap := by
  refine passes_foldl id (fun run _ => ?_) (fun _ => attended.running) attended.distinct
  by_cases killed : (run.endedAt.isNone && workshop.killRequested run) = true
  · rcases (Bool.and_eq_true _ _).mp killed with ⟨unended, requested⟩
    exact .inr ⟨Option.isNone_iff_eq_none.mp unended, _, _, fun state => if_pos killed,
      fun _ => requested⟩
  · exact .inl fun state => if_neg killed

/-- A run that goes on and is due until a time, with the time when it is. -/
def dueUntil (time : Nat) (run : Run) : Option (Nat × Run) :=
  match run.endedAt, run.due with
  | none, some due => if due ≤ time then some (due, run) else none
  | _, _ => none

theorem dueUntil_eq_some {item : Nat × Run} (due : dueUntil time run = some item) :
    run.endedAt = none ∧ item.2 = run := by
  unfold dueUntil at due
  split at due
  · rename_i unended _
    split at due
    · cases due
      exact ⟨unended, rfl⟩
    · cases due
  · cases due

/-- Until a time, runs end in the order in which they are due. -/
theorem passes_advanceTo (attended : workshop.Attended) (time : Nat) :
    Passes waits workshop (workshop.advanceTo time) := by
  have reaped : Passes waits workshop workshop.reap := passes_reap attended
  have attended := reaped.attended attended
  have sorted := List.mergeSort_perm (workshop.reap.runs.filterMap (dueUntil time))
    fun left right => decide (left.1 ≤ right.1)
  refine reaped.trans (Passes.clock (passes_foldl Prod.snd (fun item member => ?_)
    (fun item member unended => ?_) ?_) _)
  · rcases List.mem_filterMap.mp (sorted.mem_iff.mp member) with ⟨run, _, due⟩
    rcases dueUntil_eq_some due with ⟨unended, same⟩
    exact .inr ⟨same ▸ unended, _, _, fun _ => rfl, fun isKilled => by cases isKilled⟩
  · rcases List.mem_filterMap.mp (sorted.mem_iff.mp member) with ⟨run, there, due⟩
    have same := (dueUntil_eq_some due).2
    exact attended.running (same ▸ there) unended
  · refine (sorted.pairwise_iff fun different => different.symm).mpr
      (List.pairwise_filterMap.mpr (attended.distinct.imp ?_))
    intro run other different item due another alsoDue
    rw [(dueUntil_eq_some due).2, (dueUntil_eq_some alsoDue).2]
    exact different

/-- Until a run has ended, only builds end. -/
theorem passes_advancePast (attended : workshop.Attended)
    (advanced : workshop.advancePast number = some next) : Passes waits workshop next := by
  have reaped : Passes waits workshop workshop.reap := passes_reap attended
  simp only [advancePast, Option.bind_eq_bind, Option.bind_eq_some_iff] at advanced
  rcases advanced with ⟨run, _, advanced⟩
  split at advanced
  · cases advanced
    exact reaped
  · rcases Option.bind_eq_some_iff.mp advanced with ⟨due, _, advanced⟩
    cases advanced
    exact reaped.trans (passes_advanceTo (reaped.attended attended) _)

/-! ## Calls -/

/-- The calls on a workshop, by the numbers of the builds they are about. -/
inductive Call where
  | spawn (spec : BuildSpec)
  | await (handle : Nat)
  | cancel (handle : Nat)
  | takeLog (reader handle : Nat)
  | readLog (reader : Nat)
  | sleep (milliseconds : Nat)

/-- The workshop after a call. There is none if the call is not answered, as nobody can
make a call about a build that was never started, or wait for one that never ends. -/
def perform (workshop : Workshop) : Call → Option Workshop
  | .spawn spec => some (workshop.spawn spec).1
  | .await handle => do
    let build ← workshop.table.build? handle
    let (next, _) ← workshop.await build.job
    return next
  | .cancel handle => do
    let build ← workshop.table.build? handle
    return workshop.cancel build.job
  | .takeLog reader handle => do
    let build ← workshop.table.build? handle
    return (workshop.takeLog reader build.job).1
  | .readLog reader => do
    let (next, _) ← workshop.readLog reader
    return next
  | .sleep milliseconds => some (workshop.sleep milliseconds)

/-- What has happened between two states in which nobody waits. -/
structure Comes (workshop : Workshop) (events : List Floor.Event) (next : Workshop) : Prop where
  attended : next.Attended
  run : Floor.Run ⟨workshop.table, []⟩ events ⟨next.table, []⟩
  undropped : ∀ wait, .dropped wait ∉ events

variable {call : Call} {calls : List Call} {handle : Nat} {build : Supervised}
  {events : List Floor.Event}

theorem Attended.comes_nothing (attended : workshop.Attended) : Comes workshop [] workshop :=
  ⟨attended, .start, by simp⟩

theorem Comes.append {more : List Floor.Event} (comes : Comes workshop events next)
    (later : Comes next more last) : Comes workshop (events ++ more) last := by
  refine ⟨later.attended, comes.run.append later.run, fun wait dropped => ?_⟩
  rcases List.mem_append.mp dropped with earlier | now
  · exact comes.undropped wait earlier
  · exact later.undropped wait now

theorem Passes.comes (passes : Passes [] workshop next) (attended : workshop.Attended) :
    ∃ events, Comes workshop events next := by
  rcases passes.run with ⟨events, run, ends⟩
  refine ⟨events, passes.attended attended, run, fun wait dropped => ?_⟩
  rcases ends _ dropped with ⟨number, ended, same⟩
  cases same

/-- Looking at the table once ends no run. -/
theorem Attended.of_step {later : List Wait} {event : Floor.Event} (attended : workshop.Attended)
    (consistent : Floor.Consistent ⟨workshop.table, waits⟩)
    (step : Floor.Step ⟨workshop.table, waits⟩ event ⟨next.table, later⟩)
    (endless : ∀ number ended, event ≠ .ended number ended) (runs : next.runs = workshop.runs) :
    next.Attended := by
  refine ⟨fun run member => ?_, runs ▸ attended.distinct⟩
  rcases attended.attends run (runs ▸ member) with ⟨build, known, same⟩
  rcases step.shows consistent known with ⟨after, there, _, view⟩
  have ended : after.ended = build.ended := by
    have ended := congrArg View.ended view
    cases event <;> grind [View.after, View.displaced, Floor.view]
  exact ⟨after, there, by rw [same, ended]⟩

/-- A call that looks at the table once is one event. -/
theorem Attended.comes_step {event : Floor.Event} (attended : workshop.Attended)
    (consistent : Floor.Consistent ⟨workshop.table, []⟩)
    (step : Floor.Step ⟨workshop.table, []⟩ event ⟨next.table, []⟩)
    (endless : ∀ number ended, event ≠ .ended number ended)
    (undropped : ∀ wait, event ≠ .dropped wait) (runs : next.runs = workshop.runs) :
    Comes workshop [event] next :=
  ⟨attended.of_step consistent step endless runs, .goesOn .start step,
    by simpa using fun wait => (undropped wait).symm⟩

theorem Attended.comes_spawn (attended : workshop.Attended)
    (consistent : Floor.Consistent ⟨workshop.table, []⟩) (spec : BuildSpec) :
    ∃ events, Comes workshop events (workshop.spawn spec).1 := by
  unfold spawn
  split
  · exact ⟨[], attended.comes_nothing⟩
  · rename_i course _
    have step : Floor.Step ⟨workshop.table, []⟩ (.spawned spec.jobId workshop.table.next)
        ⟨(workshop.table.spawn spec.jobId).1, []⟩ := .spawned spec.jobId
    let old : Workshop := { workshop with table := (workshop.table.spawn spec.jobId).1 }
    have oldAttended : old.Attended := attended.of_step consistent step (by simp) rfl
    show ∃ events, Comes workshop events { old with
      runs := ⟨(workshop.table.spawn spec.jobId).2, workshop.clock, course, none⟩ :: workshop.runs }
    rw [Table.spawn_number]
    refine ⟨[.spawned spec.jobId workshop.table.next], ⟨?_, ?_⟩, .goesOn .start step, by simp⟩
    · refine List.forall_mem_cons.mpr ⟨⟨⟨workshop.table.next, spec.jobId, false, .kept, none⟩,
        ?_, by simp⟩, oldAttended.attends⟩
      show (workshop.table.spawn spec.jobId).1.build? workshop.table.next = _
      rw [Table.spawn_eq, Table.build?_place, Table.next_vacate, if_pos rfl]
    · refine List.pairwise_cons.mpr ⟨fun run member => ?_, oldAttended.distinct⟩
      rcases attended.attends run member with ⟨build, known, _⟩
      exact (Nat.ne_of_lt (consistent.fresh known)).symm

/-- A wait is a wait by the handle for which it was called. -/
theorem Attended.comes_await (attended : workshop.Attended)
    (consistent : Floor.Consistent ⟨workshop.table, []⟩)
    (known : workshop.table.build? handle = some build) {output : Except Failure BuildOutput}
    (answered : workshop.await build.job = some (next, output)) :
    ∃ events, Comes workshop events next ∧ ∃ event ∈ events, event.WaitsFor build.job handle := by
  unfold await at answered
  split at answered
  · rename_i failure refused
    cases answered
    exact ⟨[.refused build.job handle],
      attended.comes_step consistent (.refused known refused) (by simp) (by simp) rfl,
      _, List.mem_cons_self, .inr rfl⟩
  · rename_i table number begun
    simp only [Option.bind_eq_bind, Option.bind_eq_some_iff] at answered
    rcases answered with ⟨meanwhile, advanced, ⟨cleared, ended⟩, fetched, answer⟩
    cases answer
    have began : Floor.Step ⟨workshop.table, []⟩ (.began ⟨build.job, handle, number⟩)
        ⟨table, [⟨build.job, handle, number⟩]⟩ := .began known begun
    let waiting : Workshop := { workshop with table }
    have waitingAttended : waiting.Attended := attended.of_step consistent began (by simp) rfl
    have passes : Passes [⟨build.job, handle, number⟩] waiting meanwhile :=
      passes_advancePast waitingAttended advanced
    rcases passes.run with ⟨events, run, ends⟩
    have returned : Floor.Step ⟨meanwhile.table, [⟨build.job, handle, number⟩]⟩
        (.returned ⟨build.job, handle, number⟩ ended)
        ⟨cleared, [⟨build.job, handle, number⟩].erase ⟨build.job, handle, number⟩⟩ :=
      .returned List.mem_cons_self fetched
    rw [List.erase_cons_head] at returned
    refine ⟨[.began ⟨build.job, handle, number⟩] ++ events ++
      [.returned ⟨build.job, handle, number⟩ ended], ⟨?_, ?_, ?_⟩,
      .began ⟨build.job, handle, number⟩, by simp, .inl ⟨_, rfl, rfl⟩⟩
    · exact (passes.attended waitingAttended).of_step (run.consistent (consistent.step began))
        returned (by simp) rfl
    · exact ((Floor.Run.goesOn .start began).append run).goesOn returned
    · intro wait dropped
      rcases List.mem_append.mp dropped with earlier | last
      · rcases List.mem_cons.mp earlier with same | there
        · cases same
        · rcases ends _ there with ⟨number, ended, same⟩
          cases same
      · cases List.mem_singleton.mp last

theorem Attended.comes_readLog (attended : workshop.Attended) {reader : Nat}
    {lines : List (LogStream × String)}
    (answered : workshop.readLog reader = some (next, lines)) :
    ∃ events, Comes workshop events next := by
  unfold readLog at answered
  split at answered
  · cases answered
    exact ⟨[], attended.comes_nothing⟩
  · simp only [Option.bind_eq_bind, Option.bind_eq_some_iff] at answered
    rcases answered with ⟨meanwhile, advanced, run, _, ended, _, answer⟩
    cases answer
    rcases (passes_advancePast attended advanced).comes attended with ⟨events, comes⟩
    exact ⟨events, ⟨comes.attended.attends, comes.attended.distinct⟩, comes.run, comes.undropped⟩

/-- What a call does is a sequence of events, and to wait for a build is one of them. -/
theorem comes_of_perform (attended : workshop.Attended)
    (consistent : Floor.Consistent ⟨workshop.table, []⟩)
    (answered : workshop.perform call = some next) :
    ∃ events, Comes workshop events next ∧ ∀ handle, call = .await handle →
      ∃ job, ∃ event ∈ events, event.WaitsFor job handle := by
  cases call with
  | spawn spec =>
      cases answered
      rcases attended.comes_spawn consistent spec with ⟨events, comes⟩
      exact ⟨events, comes, by simp⟩
  | await handle =>
      simp only [perform, Option.bind_eq_bind, Option.bind_eq_some_iff] at answered
      rcases answered with ⟨build, known, ⟨after, output⟩, answered, same⟩
      cases same
      rcases attended.comes_await consistent known answered with ⟨events, comes, waits⟩
      refine ⟨events, comes, ?_⟩
      rintro _ ⟨⟩
      exact ⟨build.job, waits⟩
  | cancel handle =>
      simp only [perform, Option.bind_eq_bind, Option.bind_eq_some_iff] at answered
      rcases answered with ⟨build, known, same⟩
      cases same
      exact ⟨[.cancelled build.job handle],
        attended.comes_step consistent (.cancelled known) (by simp) (by simp) rfl, by simp⟩
  | takeLog reader handle =>
      simp only [perform, Option.bind_eq_bind, Option.bind_eq_some_iff] at answered
      rcases answered with ⟨build, known, same⟩
      cases same
      unfold takeLog
      split
      · exact ⟨[], attended.comes_nothing, by simp⟩
      · rename_i table number taken
        exact ⟨[.tookLog build.job handle],
          attended.comes_step consistent (.tookLog known taken) (by simp) (by simp) rfl, by simp⟩
  | readLog reader =>
      simp only [perform, Option.bind_eq_bind, Option.bind_eq_some_iff] at answered
      rcases answered with ⟨⟨after, lines⟩, answered, same⟩
      cases same
      rcases attended.comes_readLog answered with ⟨events, comes⟩
      exact ⟨events, comes, by simp⟩
  | sleep milliseconds =>
      cases answered
      rcases (passes_advanceTo attended _).comes attended with ⟨events, comes⟩
      exact ⟨events, comes, by simp⟩

/-- So is what several calls do one after the other. -/
theorem comes_of_foldlM (attended : workshop.Attended)
    (consistent : Floor.Consistent ⟨workshop.table, []⟩)
    (answered : calls.foldlM perform workshop = some last) :
    ∃ events, Comes workshop events last ∧ ∀ handle, .await handle ∈ calls →
      ∃ job, ∃ event ∈ events, event.WaitsFor job handle := by
  induction calls generalizing workshop with
  | nil =>
      cases answered
      exact ⟨[], attended.comes_nothing, by simp⟩
  | cons call calls induction =>
      rw [List.foldlM_cons] at answered
      rcases Option.bind_eq_some_iff.mp answered with ⟨next, does, answered⟩
      rcases comes_of_perform attended consistent does with ⟨events, comes, waits⟩
      rcases induction comes.attended (comes.run.consistent consistent) answered with
        ⟨more, goOn, moreWaits⟩
      refine ⟨events ++ more, comes.append goOn, fun handle member => ?_⟩
      rcases List.mem_cons.mp member with same | later
      · rcases waits handle same.symm with ⟨job, event, there, waits⟩
        exact ⟨job, event, List.mem_append_left _ there, waits⟩
      · rcases moreWaits handle later with ⟨job, event, there, waits⟩
        exact ⟨job, event, List.mem_append_right _ there, waits⟩

/-- Whatever calls are made one after the other, a build that was waited for has left the
table. -/
theorem waited_builds_cleared (environment : Environment) (calls : List Call)
    (answered : calls.foldlM perform (ofEnvironment environment) = some last)
    (awaited : .await handle ∈ calls) :
    ∃ build, last.table.build? handle = some build ∧
      last.table.latest? build.job ≠ some handle := by
  have attended : (ofEnvironment environment).Attended := ⟨by simp [ofEnvironment], .nil⟩
  rcases comes_of_foldlM attended Floor.consistent_empty answered with ⟨events, comes, waits⟩
  rcases waits handle awaited with ⟨job, event, member, waits⟩
  rcases comes.run.known_of_waitsFor member waits with ⟨build, known, waits⟩
  exact ⟨build, known, comes.run.cleared_of_waited comes.undropped rfl known
    ⟨event, member, waits⟩⟩

end Workshop

end BuildFleet.Native
