import BuildFleet.Proofs.Fleet.Timers

/-!
# Who pursues which jobs

An agent pursues a job from the claim that was granted to the end of its work. No
task comes to pursue a job but by a claim of its own.
-/

namespace BuildFleet

open BuildFleet.Action.Ensures

variable {builds : BuildScripts} {interrupted : Bool} {actor : Actor} {services after : Services}

/-! ## Agents -/

/-- Work comes to pursue a job by a claim that is granted. -/
theorem Assignment.pursues_before {agent : Agent} {assignment : Assignment}
    {progress : Progress Assignment}
    (done : assignment.step builds agent interrupted actor services = (.done progress, after))
    (pursues : progress.state.work.Pursues) :
    assignment.work.Pursues ∨ assignment.work = .claiming ∧
      ∃ job, (Services.claim assignment.id agent.info.id agent.lease actor services).1 =
        .done job := by
  cases work : assignment.work with
  | claiming =>
      right
      unfold step at done
      rcases Action.bind_eq_done done with ⟨elapsed, middle, reads, rest⟩
      cases reads
      rw [work] at rest
      rcases Action.bind_eq_done rest with ⟨answer, left, claims, ends⟩
      cases ends
      rcases Action.attempt_eq_done claims with ⟨job, rfl, granted⟩ | ⟨failure, rfl, refused⟩
      · exact ⟨rfl, job, by rw [granted]⟩
      · -- A refusal ends the work.
        exfalso
        have refusal : (assignment.observe agent (.claimed (.error failure))).work = _ :=
          work_observe _ work rfl
        rw [Progress.state, refusal] at pursues
        cases failure <;> exact pursues
  | ended outcome =>
      unfold step at done
      rcases Action.bind_eq_done done with ⟨elapsed, middle, reads, rest⟩
      cases reads
      rw [work] at rest
      cases rest
      rw [show (Progress.waits assignment).state.work = _ from work] at pursues
      cases pursues
  | _ => exact .inl trivial

namespace AgentLoop

/-- What the agent works on has not been claimed yet. -/
def Unclaimed (progress : Progress AgentLoop) : Prop :=
  ∀ assignment, progress.state.assignment? = some assignment → assignment.work = .claiming

theorem unclaimed_idle {progress : Progress AgentLoop}
    (idle : progress.state.assignment? = none) : Unclaimed progress := by
  intro assignment working
  rw [idle] at working
  cases working

theorem stop_unclaimed (loop : AgentLoop) (listening : Option Listening) :
    (loop.stop listening).Ensures (fun _ => True) Unclaimed := by
  have stops : (do
      Services.note .stopped
      return .waits { loop with stage := .stopped } : Action (Progress AgentLoop)).Ensures
        (fun _ => True) Unclaimed :=
    .bind (anything _) fun _ _ => .pure (unclaimed_idle rfl)
  unfold stop
  split
  · exact .bind (anything _) fun _ _ => stops
  · exact stops

theorem receive_unclaimed (loop : AgentLoop) (listening : Listening) (elapsed : Nat)
    (delivery : Delivery) :
    (loop.receive listening elapsed delivery).Ensures (fun _ => True) Unclaimed := by
  unfold receive
  refine .bind (anything _) fun _ _ => ?_
  dsimp only
  split
  · refine .pure fun assignment working => ?_
    cases working
    rfl
  · exact .pure (unclaimed_idle rfl)
  · exact .bind (anything _) fun _ _ => .pure (unclaimed_idle rfl)

theorem listen_unclaimed (loop : AgentLoop) (listening : Listening) (elapsed : Nat) :
    (loop.listen listening elapsed).Ensures (fun _ => True) Unclaimed := by
  rw [listen_eq]
  refine .bind (anything _) fun planned _ => ?_
  cases planned with
  | some delivery => exact loop.receive_unclaimed _ _ _
  | none =>
      refine .bind (anything _) fun polled _ => ?_
      split
      · exact loop.receive_unclaimed _ _ _
      · exact .pure (unclaimed_idle rfl)

/-- An agent that works on nothing does not go straight to a job that is claimed. -/
theorem step_unclaimed {loop : AgentLoop} (idle : loop.assignment? = none) :
    (loop.step builds interrupted).Ensures (fun _ => True) Unclaimed := by
  unfold step
  refine .bind (anything _) fun elapsed _ => ?_
  dsimp only
  split
  · exact .bind (anything _) fun _ _ => .pure (unclaimed_idle rfl)
  · split
    · exact loop.stop_unclaimed _
    · refine .bind (anything _) fun answer _ => ?_
      split
      · exact .pure (unclaimed_idle rfl)
      · split
        · exact .bind (anything _) fun _ _ => .pure (unclaimed_idle rfl)
        · exact .pure (unclaimed_idle rfl)
  · split
    · exact loop.stop_unclaimed _
    · split
      · exact .pure (unclaimed_idle rfl)
      · exact loop.listen_unclaimed _ _
  · exact .bind (anything _) fun _ _ => .pure (unclaimed_idle rfl)
  · rename_i listening assignment stage
    rw [assignment?, stage] at idle
    cases idle
  · split
    · exact loop.stop_unclaimed _
    · split
      · split <;> exact .pure (unclaimed_idle rfl)
      · exact .pure (unclaimed_idle idle)
  · exact .pure (unclaimed_idle idle)

end AgentLoop

/-! ## Tasks -/

/-- A task that is not at work comes to no work that has been claimed. -/
theorem Task.unclaimed_of_idle {task : Task} {progress : Progress Task} (idle : task.work? = none)
    (done : task.step builds interrupted actor services = (.done progress, after)) :
    ∀ agent assignment, progress.state.work? = some (agent, assignment) →
      assignment.work = .claiming := by
  have ensures : (task.step builds interrupted).Ensures (fun _ => True) fun progress =>
      ∀ agent assignment, progress.state.work? = some (agent, assignment) →
        assignment.work = .claiming := by
    have finishes : ∀ task : Task, ∀ happening, (task.finish happening).Ensures (fun _ => True)
        fun progress => ∀ agent assignment, progress.state.work? = some (agent, assignment) →
          assignment.work = .claiming := fun task happening =>
      .bind (anything _) fun _ _ => .pure fun _ _ never => nomatch never
    have never : ∀ agent assignment, task.work? = some (agent, assignment) →
        assignment.work = .claiming := by
      intro agent assignment works
      rw [idle] at works
      cases works
    unfold step
    refine .bind (anything _) fun elapsed _ => ?_
    split
    · exact .pure never
    · unfold advance
      refine .bind (anything _) fun elapsed _ => ?_
      rcases task with ⟨owner, startsAt, loop | ⟨agent, assignment⟩ | loop | loop | _⟩
      · refine .bind (loop.step_unclaimed (Option.map_eq_none_iff.mp idle))
          fun progress unclaimed => .pure fun agent assignment works => ?_
        rw [Progress.state_map] at works
        rcases Option.map_eq_some_iff.mp works with ⟨later, working, same⟩
        cases same
        exact unclaimed _ working
      · cases idle
      · dsimp only
        split
        · exact finishes _ _
        · refine .bind (anything _) fun progress _ => .pure fun agent assignment works => ?_
          rw [Progress.state_map] at works
          cases works
      · dsimp only
        split
        · exact finishes _ _
        · refine .bind (anything _) fun progress _ => .pure fun agent assignment works => ?_
          rw [Progress.state_map] at works
          cases works
      · exact .pure never
  exact (ensures actor services progress trivial (by rw [done])).2

/-- A task whose work has ended lets go of it. -/
theorem Task.idle_of_ended {task : Task} {agent : Agent} {assignment : Assignment}
    {outcome : Except Failure JobOutcome} {progress : Progress Task}
    (works : task.work? = some (agent, assignment)) (ended : assignment.work = .ended outcome)
    (begun : task.startsAt ≤ services.elapsed)
    (done : task.step builds interrupted actor services = (.done progress, after)) :
    progress.state.work? = none := by
  rw [step_begun begun] at done
  unfold advance at done
  rcases Action.bind_eq_done done with ⟨elapsed, middle, reads, advances⟩
  cases reads
  rcases task with ⟨owner, startsAt, ⟨other, backoff, stage⟩ | ⟨other, before⟩ | loop | loop | _⟩
  · rcases Option.map_eq_some_iff.mp works with ⟨before, working, same⟩
    cases same
    cases stage <;> cases working
    rcases Action.bind_eq_done advances with ⟨worked, left, steps, ends⟩
    cases ends
    unfold AgentLoop.step at steps
    rcases Action.bind_eq_done steps with ⟨elapsed, middle, reads, rest⟩
    cases reads
    dsimp only at rest
    rw [ended] at rest
    cases rest
    rfl
  · cases works
    dsimp only at advances
    rw [ended] at advances
    rcases Action.bind_eq_done advances with ⟨_, noted, _, ends⟩
    cases ends
    rfl
  · cases works
  · cases works
  · cases works

/-- A task comes to pursue a job by a claim that is granted. -/
theorem Task.pursues_before {task : Task} {agent : Agent} {later : Assignment}
    {progress : Progress Task}
    (done : task.step builds interrupted actor services = (.done progress, after))
    (works : progress.state.work? = some (agent, later)) (pursues : later.work.Pursues) :
    ∃ assignment, task.work? = some (agent, assignment) ∧ assignment.id = later.id ∧
      (assignment.work.Pursues ∨ task.startsAt ≤ services.elapsed ∧
        assignment.work = .claiming ∧ ∃ job, (Services.claim assignment.id agent.info.id agent.lease
          actor services).1 = .done job) := by
  cases before : task.work? with
  | none =>
      rw [unclaimed_of_idle before done agent later works] at pursues
      cases pursues
  | some work =>
      rcases work with ⟨owner, assignment⟩
      rcases Nat.lt_or_ge services.elapsed task.startsAt with unbegun | begun
      · unfold step at done
        rcases Action.bind_eq_done done with ⟨elapsed, middle, reads, rest⟩
        cases reads
        rw [if_pos unbegun] at rest
        cases rest
        cases before.symm.trans works
        exact ⟨later, rfl, rfl, .inl pursues⟩
      · by_cases ended : ∃ outcome, assignment.work = .ended outcome
        · rcases ended with ⟨outcome, ended⟩
          rw [idle_of_ended before ended begun done] at works
          cases works
        · rw [step_work before (not_exists.mp ended) begun] at done
          rcases Action.bind_eq_done done with ⟨worked, left, steps, ends⟩
          cases ends
          rw [Progress.state_map, (task.put_eq before worked.state).1] at works
          cases works
          have same := (assignment.step_ensures builds agent interrupted actor services worked
            trivial (by rw [steps])).2
          exact ⟨assignment, rfl, same.symm, (Assignment.pursues_before steps pursues).imp_right
            fun granted => ⟨begun, granted⟩⟩

/-! ## Fleets -/

namespace Fleet

variable {fleet next : Fleet} {place : Nat} {agent : Agent} {id : JobId}

/-- The task at this place pursues a job for an agent. -/
def Pursues (fleet : Fleet) (place : Nat) (actor : Actor) (agent : Agent) (id : JobId) : Prop :=
  ∃ task assignment, fleet.tasks[place]? = some task ∧ task.actor = actor ∧
    task.work? = some (agent, assignment) ∧ assignment.id = id ∧ assignment.work.Pursues

/-- The first task that is ready claims a job for its agent, and the claim is granted. -/
structure Grants (fleet : Fleet) (place : Nat) (actor : Actor) (agent : Agent) (id : JobId)
    (job : Job) : Prop where
  first : fleet.ready.head? = some place
  claiming : ∃ task assignment, fleet.tasks[place]? = some task ∧ task.actor = actor ∧
    task.startsAt ≤ fleet.services.elapsed ∧ task.work? = some (agent, assignment) ∧
    assignment.id = id ∧ assignment.work = .claiming
  granted : (Services.claim id agent.info.id agent.lease actor fleet.services).1 = .done job

theorem Pursues.agent? (pursues : fleet.Pursues place actor agent id) :
    fleet.agent? place = some (actor, agent) := by
  rcases pursues with ⟨task, assignment, there, acts, works, _⟩
  exact agent?_eq_some.mpr ⟨task, there, acts, Task.agent?_of_work? works⟩

theorem Wakes.pursues (wakes : Wakes fleet next) (pursues : next.Pursues place actor agent id) :
    fleet.Pursues place actor agent id := by
  rcases wakes with ⟨ready, rfl, _⟩
  exact pursues

/-- Nobody comes to pursue a job but by a claim that is granted. -/
theorem Move.pursues_before (move : Move fleet next)
    (pursues : next.Pursues place actor agent id) :
    fleet.Pursues place actor agent id ∨
      ∃ job, fleet.Grants place actor agent id job ∧ fleet.step = .done next := by
  cases move with
  | step stepped =>
      cases step_eq_done stepped with
      | idle _ same => exact .inl (same ▸ pursues)
      | vacant ready vacant same =>
          subst same
          exact .inl pursues
      | @taken head rest task progress after ready there steps wakes =>
          rcases wakes.pursues pursues with ⟨later, assignment, found, acts, works, same, working⟩
          rw [List.getElem?_set] at found
          by_cases here : head = place
          · subst here
            rw [if_pos rfl, if_pos (List.getElem?_eq_some_iff.mp there).1] at found
            cases found
            have continues := (task.step_ensures fleet.builds
              (fleet.interrupted.contains task.actor) task.actor fleet.services progress trivial
              (by rw [steps])).2
            have acted : task.actor = actor := continues.actor.symm.trans acts
            rcases Task.pursues_before steps works working with
              ⟨before, worked, sameId, pursued | ⟨begun, claiming, job, granted⟩⟩
            · exact .inl ⟨task, before, there, acted, worked, sameId.trans same, pursued⟩
            · have first : fleet.ready.head? = some head := by rw [ready, List.head?_cons]
              rw [acted, sameId.trans same] at granted
              exact .inr ⟨job, ⟨first, ⟨task, before, there, acted, begun, worked,
                sameId.trans same, claiming⟩, granted⟩, stepped⟩
          · rw [if_neg here] at found
            exact .inl ⟨later, assignment, found, acts, works, same, working⟩
  | reorder => exact .inl pursues
  | jump idle forward punctual jumped =>
      rcases jump?_eq_some jumped with ⟨now, _, wakes, _⟩
      exact .inl (wakes.pursues pursues)
  | @act _ _ action outside => exact .inl ((fleet.act_wakes action).pursues pursues)
  | @begin _ task idle healthy distinct =>
      rcases (fleet.begin_wakes task).1.pursues pursues with
        ⟨there, assignment, found, acts, works, same, working⟩
      rcases Nat.lt_or_ge place fleet.tasks.length with inside | outside
      · rw [List.getElem?_append_left inside] at found
        exact .inl ⟨there, assignment, found, acts, works, same, working⟩
      · -- The task that begins has claimed nothing.
        rw [List.getElem?_append_right outside] at found
        cases List.mem_singleton.mp (List.mem_of_getElem? found)
        rw [idle agent assignment works] at working
        cases working
  | interrupt _ other => exact .inl ((fleet.interrupt_wakes other).pursues pursues)

end Fleet

end BuildFleet
