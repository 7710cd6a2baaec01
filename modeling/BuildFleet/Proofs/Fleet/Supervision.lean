import BuildFleet.Proofs.Agent.Watching
import BuildFleet.Proofs.Fleet.Pursuit
import BuildFleet.Proofs.Fleet.Rules

/-!
# Agents that watch over their builds

No two agents share a worker id, none asks anything of a job in the name of another, and
nobody makes their heartbeats fail. So whoever works on a build has had its last heartbeat
accepted no longer than one interval ago.
-/

namespace BuildFleet

open Relation (ReflTransGen)

/-! ## The rules -/

/-- Nothing is asked of a job in this worker's name. -/
def Call.Apart (worker : WorkerId) (call : Call) : Prop :=
  ∀ (id : JobId) (jobCall : JobCall), call = .store (jobCall.on id) → jobCall.Apart worker

/-- Agents have worker ids of their own and send heartbeats at whole milliseconds, which
nobody makes fail. Others act in other names, and every task may end before it is done. -/
def Rules.supervision : Rules where
  mayAsk fleet call := ∀ place actor agent, fleet.agent? place = some (actor, agent) →
    call.Apart agent.info.id
  mayBegin fleet task :=
    (∀ agent assignment, task.work? = some (agent, assignment) → assignment.work = .claiming) ∧
      ∀ agent, task.agent? = some agent → agent.Paced ∧
        ∀ place actor other, fleet.agent? place = some (actor, other) →
          other.info.id ≠ agent.info.id
  mayFail name := name ≠ "heartbeat"
  mayEnd _ := True

/-- A task asks in the name of its agent alone. -/
theorem Task.apart {task : Task} {worker : WorkerId} {call : Call}
    (other : ∀ agent, task.agent? = some agent → agent.info.id ≠ worker)
    (may : task.MayCall call) : call.Apart worker := by
  rintro id jobCall rfl
  have assigned : ∀ {agent : Agent} {assignment : Assignment}, agent.info.id ≠ worker →
      assignment.MayCall agent (.store (jobCall.on id)) → jobCall.Apart worker := by
    intro agent assignment foreign may
    cases jobCall with
    | claim | heartbeat | complete => exact may.2.1 ▸ foreign
    | cancel | expire => cases may
  rcases task with ⟨actor, startsAt, loop | ⟨agent, assignment⟩ | loop | loop | _⟩
  · rcases may with never | never | ⟨listening, assignment, _, may⟩
    · cases jobCall <;> cases never
    · cases never
    · exact assigned (other _ rfl) may
  · exact assigned (other _ rfl) may
  · cases jobCall <;> trivial
  · cases jobCall <;> cases may
  · cases may

/-- What a task works on after a step it has worked on before, unless it is still to be
claimed; and the step was one of that work, unless the task has not begun. -/
theorem Task.work_before {task : Task} {agent : Agent} {later : Assignment}
    {progress : Progress Task} {builds : BuildScripts} {interrupted : Bool} {actor : Actor}
    {services after : Services}
    (done : task.step builds interrupted actor services = (.done progress, after))
    (works : progress.state.work? = some (agent, later)) (claimed : later.work ≠ .claiming) :
    ∃ assignment, task.work? = some (agent, assignment) ∧ assignment.id = later.id ∧
      (assignment = later ∧ services.elapsed < task.startsAt ∨ task.startsAt ≤ services.elapsed ∧
        ∃ worked, assignment.Worked builds agent interrupted actor services worked after ∧
          progress = worked.map task.put ∧ worked.state = later) := by
  cases before : task.work? with
  | none => exact absurd (unclaimed_of_idle before done agent later works) claimed
  | some work =>
      rcases work with ⟨owner, assignment⟩
      rcases Nat.lt_or_ge services.elapsed task.startsAt with unbegun | begun
      · unfold step at done
        rcases Action.bind_eq_done done with ⟨elapsed, middle, reads, rest⟩
        cases reads
        rw [if_pos unbegun] at rest
        cases rest
        cases before.symm.trans works
        exact ⟨later, rfl, rfl, .inl ⟨rfl, unbegun⟩⟩
      · by_cases ended : ∃ outcome, assignment.work = .ended outcome
        · rcases ended with ⟨outcome, ended⟩
          rw [idle_of_ended before ended begun done] at works
          cases works
        · rw [step_work before (not_exists.mp ended) begun] at done
          rcases Action.bind_eq_done done with ⟨worked, left, steps, ends⟩
          cases ends
          rw [Progress.state_map, (task.put_eq before worked.state).1] at works
          cases works
          have same := (assignment.step_ensures builds agent interrupted actor services worked
            trivial (by rw [steps])).2
          exact ⟨assignment, rfl, same.symm, .inr ⟨begun, worked,
            Assignment.step_worked steps, rfl, rfl⟩⟩

namespace Fleet

variable {fleet next : Fleet} {place : Nat} {actor : Actor} {agent : Agent} {id : JobId}
  {beat : Nat}

/-! ## Agents of their own -/

/-- The agent is paced, and no other task is that of an agent with its worker id. -/
structure Peerless (fleet : Fleet) (place : Nat) (agent : Agent) : Prop where
  paced : agent.Paced
  alone : ∀ other partner fellow, fleet.agent? other = some (partner, fellow) →
    fellow.info.id = agent.info.id → other = place

theorem peerless_of_reached (reached : Rules.supervision.Reached fleet)
    (found : fleet.agent? place = some (actor, agent)) : fleet.Peerless place agent := by
  induction reached generalizing place actor agent with
  | start =>
      rcases agent?_eq_some.mp found with ⟨task, there, _⟩
      cases there
  | @change before after reached change peerless =>
      rcases change.agent_before found with was | ⟨last, task, may, its⟩
      · refine ⟨(peerless was).paced, fun other partner fellow theirs same => ?_⟩
        rcases change.agent_before theirs with were | ⟨_, task, may, its⟩
        · exact (peerless was).alone other partner fellow were same
        · exact absurd same.symm ((may.2 fellow its).2 place actor agent was)
      · refine ⟨(may.2 agent its).1, fun other partner fellow theirs same => ?_⟩
        rcases change.agent_before theirs with were | ⟨lastToo, _⟩
        · exact absurd same ((may.2 agent its).2 other partner fellow were)
        · exact lastToo.symm.trans last

/-! ## Where a watch stands -/

/-- The agent at this place watches over its build of the job, its last heartbeat having been
accepted at this millisecond. -/
inductive Supervised (fleet : Fleet) (place : Nat) (agent : Agent) (id : JobId) (beat : Nat) : Prop
  | intro {task : Task} {assignment : Assignment} (there : fleet.tasks[place]? = some task)
      (begun : task.startsAt ≤ fleet.services.elapsed)
      (works : task.work? = some (agent, assignment)) (addressed : assignment.id = id)
      (watchful : assignment.Watchful agent beat fleet.services.elapsed)
      (prompt : place ∈ fleet.ready ∨
        ∃ timer, assignment.wakesAt = some timer ∧ fleet.services.elapsed < timer)

theorem Supervised.recent (supervised : fleet.Supervised place agent id beat) :
    beat ≤ fleet.services.elapsed ∧
      fleet.services.elapsed ≤ beat + agent.heartbeat.milliseconds := by
  cases supervised with
  | intro _ _ _ _ watchful => exact watchful.recent

/-- The agent at this place is about to build the job, or builds it. -/
def Underway (fleet : Fleet) (place : Nat) (agent : Agent) (id : JobId) : Prop :=
  ∃ task assignment, fleet.tasks[place]? = some task ∧ task.work? = some (agent, assignment) ∧
    assignment.id = id ∧ assignment.work.Underway

/-- What a change makes of a watch. -/
inductive Supervises (fleet next : Fleet) (place : Nat) (agent : Agent) (id : JobId) (beat : Nat)
    (job : Job) : Prop
  | goesOn (supervised : next.Supervised place agent id beat)
      (kept : ∀ {Holds : Job → Prop},
        Job.Law (JobCall.Apart agent.info.id) fleet.services.now Holds →
          fleet.services.Every id Holds → next.services.Every id Holds)
  | extended {expiry : Instant} (owned : job.owner = some agent.info.id)
      (live : job.leaseLive fleet.services.now = true)
      (ends : fleet.services.now.addMilliseconds? job.leaseMs = some expiry)
      (found : next.services.store.job? id = some (job.renewedUntil expiry fleet.services.now))
      (supervised : next.Supervised place agent id fleet.services.elapsed)
  | stops (done : ¬ next.Underway place agent id)

/-- A step of the agent's own keeps up its watch, or ends it. -/
theorem Supervises.of_step {job : Job} {task : Task} {assignment : Assignment}
    {progress : Progress Task} {after : Services} (paced : agent.Paced)
    (planned : fleet.services.Planned Rules.supervision.mayFail)
    (found : fleet.services.store.job? assignment.id = some job)
    (begun : task.startsAt ≤ fleet.services.elapsed)
    (works : task.work? = some (agent, assignment))
    (watchful : assignment.Watchful agent beat fleet.services.elapsed)
    (steps : task.step fleet.builds (fleet.interrupted.contains task.actor) task.actor
      fleet.services = (.done progress, after))
    (services : next.services = { after with awakened := [] })
    (left : next.tasks[place]? = some progress.state)
    (ready : ∀ state, progress = .goesOn state → place ∈ next.ready) :
    Supervises fleet next place agent assignment.id beat job := by
  have unended : ∀ outcome, assignment.work ≠ .ended outcome := by
    intro outcome ended
    have underway := watchful.underway
    rw [ended] at underway
    cases underway
  rw [Task.step_work works unended begun] at steps
  rcases Action.bind_eq_done steps with ⟨worked, middle, stepped, ends⟩
  cases ends
  have same : worked.state.id = assignment.id :=
    (assignment.step_ensures fleet.builds agent _ task.actor fleet.services worked trivial
      (by rw [stepped])).2
  have moment := (assignment.step_within fleet.builds agent
    (fleet.interrupted.contains task.actor)).sameMoment task.actor fleet.services
  rw [stepped] at moment
  have elapsed : next.services.elapsed = fleet.services.elapsed := by
    rw [services]
    exact moment.elapsed
  have store : next.services.store = after.store := by rw [services]
  rw [Progress.state_map] at left
  rcases task.put_eq works worked.state with ⟨worksOn, _, startsAt⟩
  have supervised : ∀ {beat}, worked.state.Watchful agent beat fleet.services.elapsed →
      Grant.Prompt fleet.services.elapsed worked →
        next.Supervised place agent assignment.id beat := by
    intro beat watchful prompt
    refine .intro left (startsAt ▸ elapsed ▸ begun) worksOn same (elapsed ▸ watchful) ?_
    cases worked with
    | goesOn state => exact .inl (ready _ rfl)
    | waits state => exact .inr (elapsed ▸ prompt)
  cases watchful.step paced planned found (Assignment.step_worked stepped) with
  | goesOn watchful prompt kept =>
      refine .goesOn (supervised watchful prompt) fun _ every job there => every job ?_
      rw [store, kept] at there
      exact there
  | extended owned live expires foundAfter watchful prompt =>
      exact .extended owned live expires (store ▸ foundAfter) (supervised watchful prompt)
  | stops done =>
      refine .stops ?_
      rintro ⟨later, working, there, worksToo, _, underway⟩
      cases left.symm.trans there
      cases worksOn.symm.trans worksToo
      exact done underway

/-- A change keeps up the watch over a build, or ends it. -/
theorem Supervised.change {job : Job} (supervised : fleet.Supervised place agent id beat)
    (reached : Rules.supervision.Reached fleet)
    (found : fleet.services.store.job? id = some job)
    (change : Rules.supervision.Change fleet next) :
    Supervises fleet next place agent id beat job := by
  rcases supervised with @⟨task, assignment, there, begun, works, rfl, watchful, prompt⟩
  have its : fleet.agent? place = some (task.actor, agent) :=
    agent?_eq_some.mpr ⟨task, there, rfl, Task.agent?_of_work? works⟩
  have peerless := peerless_of_reached reached its
  cases change.fate there with
  | stepped first steps services left ready =>
      exact .of_step peerless.paced reached.sound.planned found begun works watchful steps services
        left ready
  | waited left ready moment =>
      have elapsed := moment.sameMoment.2
      refine .goesOn (.intro left (elapsed ▸ begun) works rfl (elapsed ▸ watchful)
        (prompt.imp ready fun early => elapsed ▸ early)) fun law every => ?_
      -- Neither those outside nor the other tasks act in the name of this agent.
      refine moment.every law (fun call may => may place _ agent its _ call rfl) ?_ every
      intro other task others foreign call may
      refine Task.apart (fun fellow theirs same => others ?_) may _ call rfl
      exact peerless.alone other task.actor fellow
        (agent?_eq_some.mpr ⟨task, foreign, rfl, theirs⟩) same
  | @jumped now later left idle forward reads services punctual =>
      -- Nobody can go on, so the agent waits, and the clock stops at its timer.
      rcases prompt with member | ⟨timer, due, _⟩
      · rw [idle] at member
        cases member
      · rcases punctual timer ((Task.wakesAt_of_work works begun).trans due) with ⟨soon, wakes⟩
        have elapsed : next.services.elapsed = later := by rw [services]
        refine .goesOn (.intro left (elapsed ▸ Nat.le_trans begun forward) works rfl
          (elapsed ▸ watchful.waits due forward soon) ?_) fun _ every => ?_
        · rw [elapsed]
          exact (Nat.lt_or_ge later timer).symm.imp wakes fun early => ⟨timer, due, early⟩
        · rw [services]
          exact every
  | gone _ left =>
      refine .stops ?_
      rintro ⟨later, working, thereToo, worksToo, _⟩
      cases left.symm.trans thereToo
      cases worksToo

/-! ## Whoever builds watches -/

/-- The agent watches over its build of the job, which it holds no longer than from its last
heartbeat on. -/
def Guarded (fleet : Fleet) (place : Nat) (agent : Agent) (id : JobId) : Prop :=
  ∃ beat reading, fleet.Supervised place agent id beat ∧
    fleet.origin.addMilliseconds? beat = some reading ∧
    fleet.services.Has id (Job.Extended agent.info.id reading)

theorem Guarded.change (guarded : fleet.Guarded place agent id)
    (reached : Rules.supervision.Reached fleet) (change : Rules.supervision.Change fleet next)
    (underway : next.Underway place agent id) : next.Guarded place agent id := by
  rcases guarded with ⟨beat, reading, supervised, reads, has⟩
  have origin := change.follows.origin
  have every := has.every
  rcases has with ⟨job, found, extended⟩
  cases supervised.change reached found change with
  | goesOn supervised kept =>
      exact ⟨beat, reading, supervised, origin ▸ reads,
        change.has ⟨job, found, extended⟩ (kept (Job.Extended.law _ _ _) every)⟩
  | extended owned live ends foundAfter supervised =>
      have nonneg := reached.every Job.leaseNonneg_law id job found
      exact ⟨_, _, supervised, origin ▸ reached.sound.clock, _, foundAfter, .of_renewed nonneg ends⟩
  | stops done => exact absurd underway done

/-- The first heartbeat sets the watch going, if it is accepted. -/
theorem Guarded.of_beginning {task : Task} {assignment : Assignment} {job : Job}
    {expiry : Instant} {worked : Progress Assignment} {after : Services}
    (reached : Rules.supervision.Reached fleet) (begun : task.startsAt ≤ fleet.services.elapsed)
    (works : task.work? = some (agent, assignment))
    (asks : (Services.heartbeat assignment.id agent.info.id).attempt task.actor fleet.services =
      (.done (.ok expiry), after))
    (goesOn : worked = .goesOn { assignment with work := .spawning (agent.buildSpec job) })
    (origin : next.origin = fleet.origin) (services : next.services = { after with awakened := [] })
    (left : next.tasks[place]? = some (worked.map task.put).state)
    (ready : ∀ state, worked.map task.put = .goesOn state → place ∈ next.ready) :
    next.Guarded place agent assignment.id := by
  subst goesOn
  have elapsed : next.services.elapsed = fleet.services.elapsed := by
    have within : (Services.heartbeat assignment.id agent.info.id).attempt.Within fun _ => True :=
      .attempt (.perform trivial)
    have moment := within.sameMoment task.actor fleet.services
    rw [asks] at moment
    rw [services]
    exact moment.elapsed
  rcases Services.found_of_heartbeat asks with ⟨before, found⟩
  rcases task.put_eq works { assignment with work := .spawning (agent.buildSpec job) } with
    ⟨worksOn, _, startsAt⟩
  have supervised : next.Supervised place agent assignment.id fleet.services.elapsed :=
    .intro left (startsAt ▸ elapsed ▸ begun) worksOn rfl elapsed (.inl (ready _ rfl))
  cases (Services.heartbeat_beats reached.sound.planned found asks).1 with
  | extended owned live ends foundAfter =>
      refine ⟨_, _, supervised, origin ▸ reached.sound.clock, before.renewedUntil expiry
        fleet.services.now, ?_, .of_renewed (reached.every Job.leaseNonneg_law _ before found) ends⟩
      rw [services]
      exact foundAfter

theorem guarded_of_underway (reached : Rules.supervision.Reached fleet)
    (underway : fleet.Underway place agent id) : fleet.Guarded place agent id := by
  induction reached generalizing place agent id with
  | start =>
      rcases underway with ⟨task, assignment, there, _⟩
      cases there
  | @change fleet next reached change induction =>
      have onward := underway
      rcases underway with ⟨later, worksLater, there, works, rfl, under⟩
      -- A task that has just begun has its job still to claim.
      have claimed : worksLater.work ≠ .claiming := by
        intro claiming
        rw [claiming] at under
        cases under
      rcases change.task_before there with ⟨before, was⟩ | ⟨_, may⟩
      · have same : ∀ {other : Task}, next.tasks[place]? = some other → other = later :=
          fun left => Option.some.inj (left.symm.trans there)
        cases change.fate was with
        | @stepped progress after first steps services left ready =>
            cases same left
            rcases Task.work_before steps works claimed with ⟨assignment, worked, sameId, how⟩
            rcases how with ⟨rfl, unbegun⟩ | ⟨begun, moved, step, rfl, rfl⟩
            · exact (induction ⟨before, _, was, worked, rfl, under⟩).change reached change onward
            · rcases step.underway_before under with
                wasUnder | ⟨job, expiry, beginning, asks, goesOn⟩
              · exact (induction ⟨before, _, was, worked, sameId, wasUnder⟩).change reached change
                  onward
              · rw [← sameId]
                exact .of_beginning reached begun worked asks goesOn change.follows.origin services
                  left ready
        | waited left | jumped left =>
            cases same left
            exact (induction ⟨_, _, was, works, rfl, under⟩).change reached change onward
        | gone _ left =>
            cases same left
            cases works
      · exact absurd (may.1 agent worksLater works) claimed

end Fleet

end BuildFleet
