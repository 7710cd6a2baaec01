import BuildFleet.Proofs.Fleet.Course
import BuildFleet.Proofs.Routing.Parties

/-!
# Runs of a fleet in virtual time

Tasks that can go on do so at one reading of the clock, in any order; the clock
jumps when nobody can go on, and no further than the next timer. In between the
dispatcher acts, tasks begin, and actors are shut down. No failure is planned.
-/

namespace BuildFleet

/-! ## Tasks -/

namespace Task

/-- The agent whose task it is. -/
def agent? (task : Task) : Option Agent :=
  match task.role with
  | .agent loop => some loop.agent
  | .job agent _ => some agent
  | _ => none

/-- The agent and what it works on. -/
def work? (task : Task) : Option (Agent × Assignment) :=
  match task.role with
  | .agent loop => loop.assignment?.map (Prod.mk loop.agent)
  | .job agent assignment => some (agent, assignment)
  | _ => none

/-- The task with its work in another state. -/
def put (task : Task) (assignment : Assignment) : Task :=
  match task.role with
  | .agent loop =>
    match loop.stage with
    | .working listening _ =>
      { task with role := .agent { loop with stage := .working listening assignment } }
    | _ => task
  | .job agent _ => { task with role := .job agent assignment }
  | _ => task

variable {task : Task} {agent : Agent} {assignment : Assignment} {actor : Actor}
  {services : Services} {builds : BuildScripts} {interrupted : Bool}

theorem agent?_of_work? (works : task.work? = some (agent, assignment)) :
    task.agent? = some agent := by
  rcases task with ⟨actor, startsAt, loop | ⟨other, before⟩ | loop | loop | _⟩
  · rcases Option.map_eq_some_iff.mp works with ⟨before, _, same⟩
    cases same
    rfl
  · cases works
    rfl
  · cases works
  · cases works
  · cases works

theorem put_eq (works : task.work? = some (agent, assignment)) (later : Assignment) :
    (task.put later).work? = some (agent, later) ∧ (task.put later).actor = task.actor ∧
      (task.put later).startsAt = task.startsAt := by
  rcases task with ⟨actor, startsAt, ⟨other, backoff, stage⟩ | ⟨other, before⟩ | loop | loop | _⟩
  · rcases Option.map_eq_some_iff.mp works with ⟨before, working, same⟩
    cases same
    cases stage <;> cases working
    exact ⟨rfl, rfl, rfl⟩
  · cases works
    exact ⟨rfl, rfl, rfl⟩
  · cases works
  · cases works
  · cases works

/-- Two changes of what goes on are one. -/
private theorem bind_map_map {α β γ : Type} (action : Action (Progress α)) (first : α → β)
    (second : β → γ) (actor : Actor) (services : Services) :
    ((action >>= fun progress => pure (progress.map first)) >>= fun progress =>
        pure (progress.map second)) actor services =
      (action >>= fun progress => pure (progress.map fun state => second (first state)))
        actor services := by
  rw [Action.bind_apply, Action.bind_apply, Action.bind_apply]
  rcases action actor services with ⟨(state | state) | failure | _, after⟩ <;> rfl

theorem step_begun (begun : task.startsAt ≤ services.elapsed) :
    task.step builds interrupted actor services =
      task.advance builds interrupted actor services := by
  show (if services.elapsed < task.startsAt then pure (Progress.waits task)
    else task.advance builds interrupted) actor services = _
  rw [if_neg (Nat.not_lt.mpr begun)]

/-- The step of a task that works on a job is a step of the work. -/
theorem step_work (works : task.work? = some (agent, assignment))
    (unended : ∀ outcome, assignment.work ≠ .ended outcome)
    (begun : task.startsAt ≤ services.elapsed) :
    task.step builds interrupted actor services =
      (assignment.step builds agent interrupted >>= fun progress =>
        pure (progress.map task.put)) actor services := by
  rw [step_begun begun]
  rcases task with ⟨owner, startsAt, ⟨other, backoff, stage⟩ | ⟨other, before⟩ | loop | loop | _⟩
  · rcases Option.map_eq_some_iff.mp works with ⟨before, working, same⟩
    cases same
    cases stage <;> cases working
    rename_i listening
    have steps : AgentLoop.step builds interrupted ⟨other, backoff, .working listening assignment⟩
        actor services = (assignment.step builds other interrupted >>= fun progress =>
          pure (progress.map fun assignment =>
            (⟨other, backoff, .working listening assignment⟩ : AgentLoop))) actor services := by
      unfold AgentLoop.step
      rw [Action.bind_apply]
      dsimp only [Services.elapsedTime]
      cases work : assignment.work with
      | ended outcome => exact absurd work (unended outcome)
      | _ => rfl
    show (AgentLoop.step builds interrupted ⟨other, backoff, .working listening assignment⟩ >>=
      fun progress => pure (progress.map fun loop =>
        (⟨owner, startsAt, .agent loop⟩ : Task))) actor services = _
    rw [Action.bind_apply, steps, ← Action.bind_apply]
    exact bind_map_map _ _ _ _ _
  · cases works
    unfold advance
    rw [Action.bind_apply]
    dsimp only [Services.elapsedTime]
    cases work : assignment.work with
    | ended outcome => exact absurd work (unended outcome)
    | _ => rfl
  · cases works
  · cases works
  · cases works

/-- The task goes on as that of the same agent, or of none. -/
structure Continues (task later : Task) : Prop where
  actor : later.actor = task.actor
  startsAt : later.startsAt = task.startsAt
  agent : ∀ agent, later.agent? = some agent → task.agent? = some agent

theorem Continues.refl (task : Task) : task.Continues task := ⟨rfl, rfl, fun _ => id⟩

theorem finish_ensures (task : Task) (happening : Happening) :
    (task.finish happening).Ensures (fun _ => True) fun progress =>
      task.Continues progress.state :=
  .bind (.anything _) fun _ _ => .pure ⟨rfl, rfl, fun _ finished => nomatch finished⟩

theorem step_ensures (builds : BuildScripts) (interrupted : Bool) (task : Task) :
    (task.step builds interrupted).Ensures (fun _ => True) fun progress =>
      task.Continues progress.state := by
  unfold step
  refine .bind (.anything _) fun elapsed _ => ?_
  split
  · exact .pure (.refl task)
  · unfold advance
    refine .bind (.anything _) fun elapsed _ => ?_
    rcases task with ⟨actor, startsAt, loop | ⟨agent, assignment⟩ | loop | loop | _⟩
    · have steps : (loop.step builds interrupted).Ensures (fun _ => True) fun progress =>
          progress.state.agent = loop.agent := by
        intro actor services progress _ done
        have works : loop.WorksOn fun _ => True := fun _ _ => trivial
        exact ⟨trivial, (loop.step_ensures builds interrupted works actor services progress
          (fun _ _ => trivial) done).2.1⟩
      refine .bind steps fun progress same => .pure ?_
      rw [Progress.state_map]
      exact ⟨rfl, rfl, fun agent there => by rw [← there]; exact congrArg some same.symm⟩
    · dsimp only
      split
      · exact finish_ensures _ _
      · refine .bind (.anything _) fun progress _ => .pure ?_
        rw [Progress.state_map]
        exact ⟨rfl, rfl, fun _ => id⟩
    · dsimp only
      split
      · exact finish_ensures _ _
      · refine .bind (.anything _) fun progress _ => .pure ?_
        rw [Progress.state_map]
        exact ⟨rfl, rfl, fun _ => id⟩
    · dsimp only
      split
      · exact finish_ensures _ _
      · refine .bind (.anything _) fun progress _ => .pure ?_
        rw [Progress.state_map]
        exact ⟨rfl, rfl, fun _ => id⟩
    · exact .pure (.refl _)

end Task

/-! ## In whose name calls are made -/

section Foreign

variable {agent : Agent} {id : JobId} {worker : WorkerId} {call : Call}

theorem Assignment.foreign {assignment : Assignment}
    (other : assignment.work.Pursues → assignment.id = id → agent.info.id ≠ worker)
    (may : assignment.MayCall agent call) : call.Foreign id worker := by
  rcases call with store | _ | _ | _
  · intro jobCall addressed
    cases store <;> cases addressed
    · trivial
    · exact may.2.1 ▸ other may.2.2 may.1.symm
    · exact may.2.1 ▸ other may.2.2 may.1.symm
    · cases may
    · cases may
  · trivial
  · trivial
  · trivial

theorem LeaseMonitor.foreign (may : LeaseMonitor.MayCall call) : call.Foreign id worker := by
  rcases call with store | _ | _ | _
  · intro jobCall addressed
    cases store <;> cases addressed <;> trivial
  · trivial
  · trivial
  · trivial

theorem Relay.foreign (may : Relay.MayCall call) : call.Foreign id worker := by
  rcases call with store | _ | _ | _
  · intro jobCall addressed
    cases store <;> cases addressed <;> cases may
  · trivial
  · trivial
  · trivial

theorem Dispatcher.foreign (may : Dispatcher.MayCall call) : call.Foreign id worker := by
  rcases call with store | _ | _ | _
  · intro jobCall addressed
    cases store <;> cases addressed <;> trivial
  · trivial
  · trivial
  · trivial

/-- Only a task that pursues a job in a worker's name asks anything of it in that name. -/
theorem Task.foreign {task : Task}
    (other : ∀ agent assignment, task.work? = some (agent, assignment) →
      assignment.work.Pursues → assignment.id = id → agent.info.id ≠ worker)
    (may : task.MayCall call) : call.Foreign id worker := by
  rcases task with ⟨actor, startsAt, loop | ⟨agent, assignment⟩ | loop | loop | _⟩
  · rcases may with rfl | rfl | ⟨listening, assignment, stage, may⟩
    · intro jobCall addressed
      cases addressed
    · trivial
    · refine Assignment.foreign (other loop.agent assignment ?_) may
      show loop.assignment?.map _ = _
      unfold AgentLoop.assignment?
      rw [stage]
      rfl
  · exact Assignment.foreign (other agent assignment rfl) may
  · exact LeaseMonitor.foreign may
  · exact Relay.foreign may
  · cases may

end Foreign

namespace Fleet

variable {fleet next : Fleet} {place : Nat}

/-! ## Who becomes ready -/

/-- The same fleet, but for more tasks that can go on. -/
def Wakes (fleet later : Fleet) : Prop :=
  ∃ ready, later = { fleet with ready } ∧ fleet.ready ⊆ ready

namespace Wakes

theorem refl (fleet : Fleet) : Wakes fleet fleet := ⟨fleet.ready, rfl, List.Subset.refl _⟩

theorem trans {later last : Fleet} (first : Wakes fleet later) (second : Wakes later last) :
    Wakes fleet last := by
  rcases first with ⟨ready, rfl, more⟩
  rcases second with ⟨latest, rfl, still⟩
  exact ⟨latest, rfl, fun _ member => still (more member)⟩

theorem ready {later : Fleet} (wakes : Wakes fleet later) (ready : place ∈ fleet.ready) :
    place ∈ later.ready := by
  rcases wakes with ⟨latest, rfl, more⟩
  exact more ready

end Wakes

theorem wake_wakes (fleet : Fleet) (place : Nat) :
    Wakes fleet (fleet.wake place) ∧ place ∈ (fleet.wake place).ready := by
  unfold wake
  split
  · rename_i already
    exact ⟨.refl fleet, List.contains_iff_mem.mp already⟩
  · have last := List.mem_append_right fleet.ready (List.mem_singleton_self place)
    exact ⟨⟨_, rfl, List.subset_append_left _ _⟩, last⟩

private theorem foldl_wake (holds : Task → Bool) (entries : List (Task × Nat)) (fleet : Fleet) :
    let woken := entries.foldl (fun fleet (task, place) =>
      if holds task then fleet.wake place else fleet) fleet
    Wakes fleet woken ∧ ∀ entry ∈ entries, holds entry.1 = true → entry.2 ∈ woken.ready := by
  induction entries generalizing fleet with
  | nil => exact ⟨.refl fleet, fun _ member => nomatch member⟩
  | cons entry rest induction =>
      rcases entry with ⟨task, place⟩
      rw [List.foldl_cons]
      by_cases does : holds task = true
      · simp only [does, if_true]
        rcases induction (fleet.wake place) with ⟨wakes, woken⟩
        refine ⟨(fleet.wake_wakes place).1.trans wakes, fun entry member does => ?_⟩
        rcases List.mem_cons.mp member with rfl | later
        · exact wakes.ready (fleet.wake_wakes place).2
        · exact woken entry later does
      · simp only [does, Bool.false_eq_true, if_false]
        rcases induction fleet with ⟨wakes, woken⟩
        refine ⟨wakes, fun entry member others => ?_⟩
        rcases List.mem_cons.mp member with rfl | later
        · exact absurd others does
        · exact woken entry later others

theorem wakeWhere_wakes (fleet : Fleet) (holds : Task → Bool) :
    Wakes fleet (fleet.wakeWhere holds) := (foldl_wake holds _ fleet).1

theorem mem_ready_wakeWhere (fleet : Fleet) {task : Task} {holds : Task → Bool}
    (there : fleet.tasks[place]? = some task) (does : holds task = true) :
    place ∈ (fleet.wakeWhere holds).ready :=
  (foldl_wake holds fleet.tasks.zipIdx fleet).2 (task, place)
    (List.mem_zipIdx_iff_getElem?.mpr there) does

theorem wakeSubscribers_wakes (fleet : Fleet) :
    Wakes { fleet with services := { fleet.services with awakened := [] } }
      fleet.wakeSubscribers := by
  unfold wakeSubscribers
  dsimp only
  generalize { fleet with services := { fleet.services with awakened := [] } } = asleep
  induction fleet.services.awakened generalizing asleep with
  | nil => exact .refl asleep
  | cons subscription rest induction =>
      exact (asleep.wakeWhere_wakes _).trans (induction _)

/-! ## The first of the tasks takes a step -/

/-- The places that stay ready after a task at the first of them has taken a step. -/
def remaining (ready : List Nat) : Progress Task → List Nat
  | .goesOn _ => ready
  | .waits _ => ready.tail

/-- All that a step of the fleet can be. -/
inductive Stepped (fleet next : Fleet) : Prop
  | idle (nobody : fleet.ready = []) (same : next = fleet)
  /-- There is no task at the place that was ready. -/
  | vacant {place : Nat} {rest : List Nat} (ready : fleet.ready = place :: rest)
      (vacant : fleet.tasks[place]? = none) (same : next = { fleet with ready := rest })
  | taken {place : Nat} {rest : List Nat} {task : Task} {progress : Progress Task}
      {after : Services} (ready : fleet.ready = place :: rest)
      (there : fleet.tasks[place]? = some task)
      (steps : task.step fleet.builds (fleet.interrupted.contains task.actor) task.actor
        fleet.services = (.done progress, after))
      (wakes : Wakes { fleet with
        services := { after with awakened := [] }
        tasks := fleet.tasks.set place progress.state
        ready := remaining fleet.ready progress } next)

theorem step_eq_done (stepped : fleet.step = .done next) : Stepped fleet next := by
  unfold step at stepped
  split at stepped
  · rename_i nobody
    cases stepped
    exact .idle nobody rfl
  · rename_i place rest ready
    split at stepped
    · rename_i vacant
      cases stepped
      exact .vacant ready vacant rfl
    · rename_i task there
      dsimp only at stepped
      generalize steps : task.step fleet.builds (fleet.interrupted.contains task.actor) task.actor
        fleet.services = performed at stepped
      rcases performed with ⟨(later | later) | failure | _, after⟩
      · cases stepped
        exact .taken ready there steps (wakeSubscribers_wakes _)
      · cases stepped
        refine .taken ready there steps ?_
        rw [ready]
        exact wakeSubscribers_wakes _
      · cases stepped
      · cases stepped

/-! ## Runs -/

/-- The agent whose task stands at a place, and the actor that it is. -/
def agent? (fleet : Fleet) (place : Nat) : Option (Actor × Agent) :=
  fleet.tasks[place]?.bind fun task => task.agent?.map (Prod.mk task.actor)

theorem agent?_eq_some {actor : Actor} {agent : Agent} :
    fleet.agent? place = some (actor, agent) ↔
      ∃ task, fleet.tasks[place]? = some task ∧ task.actor = actor ∧ task.agent? = some agent := by
  unfold agent?
  rw [Option.bind_eq_some_iff]
  refine exists_congr fun task => and_congr_right fun _ => ?_
  rw [Option.map_eq_some_iff]
  constructor
  · rintro ⟨other, its, same⟩
    cases same
    exact ⟨rfl, its⟩
  · rintro ⟨rfl, its⟩
    exact ⟨agent, its, rfl⟩

/-- A call in the name of none of the agents. -/
def Outside (fleet : Fleet) (call : Call) : Prop :=
  ∀ place actor agent, fleet.agent? place = some (actor, agent) →
    ∀ id, call.Foreign id agent.info.id

theorem outside_of_dispatcher (fleet : Fleet) (call : Call) (may : Dispatcher.MayCall call) :
    fleet.Outside call := fun _ _ _ _ _ => Dispatcher.foreign may

/-- What may happen next while nobody plans a failure. -/
inductive Move : Fleet → Fleet → Prop
  /-- The first of the tasks that can go on takes a step. -/
  | step {fleet next : Fleet} (stepped : fleet.step = .done next) : Move fleet next
  /-- Those that can go on do so in any order. -/
  | reorder (fleet : Fleet) {ready : List Nat} (same : ready.Perm fleet.ready) :
      Move fleet { fleet with ready }
  /-- When nobody can go on the clock jumps, and no further than the next timer. -/
  | jump {fleet next : Fleet} {elapsed : Nat} (idle : fleet.ready = [])
      (forward : fleet.services.elapsed ≤ elapsed)
      (punctual : ∀ timer, fleet.nextTimer? = some timer → elapsed ≤ timer)
      (jumped : fleet.jump? elapsed = some next) : Move fleet next
  /-- The dispatcher acts, or somebody else who is none of the agents. -/
  | act {α : Type} (fleet : Fleet) {action : Action α} (outside : action.Within fleet.Outside) :
      Move fleet (fleet.act action).2
  /-- A task begins that has not claimed anything. If it is an agent's, the agent is
  healthy, and no other agent has its identifier. -/
  | begin (fleet : Fleet) {task : Task}
      (idle : ∀ agent assignment, task.work? = some (agent, assignment) →
        assignment.work = .claiming)
      (healthy : ∀ agent, task.agent? = some agent → agent.Healthy)
      (distinct : ∀ place actor fellow agent, fleet.agent? place = some (actor, fellow) →
        task.agent? = some agent → fellow.info.id = agent.info.id →
          actor = task.actor ∧ fellow = agent) : Move fleet (fleet.begin task)
  /-- Somebody is shut down. -/
  | interrupt (fleet : Fleet) (actor : Actor) : Move fleet (fleet.interrupt actor)

/-- What the clock of the fleet has come to from a start with nothing. -/
inductive Reached : Fleet → Prop
  | start (settings : StoreSettings) (origin : Instant) (builds : BuildScripts) :
      Reached ⟨.start settings origin, origin, builds, [], [], []⟩
  | move {fleet next : Fleet} (reached : Reached fleet) (move : Move fleet next) : Reached next

/-! ## What every move keeps -/

theorem jump?_eq_some {elapsed : Nat} (jumped : fleet.jump? elapsed = some next) :
    ∃ now, fleet.origin.addMilliseconds? elapsed = some now ∧
      Wakes { fleet with services := { fleet.services with now, elapsed } } next ∧
      ∀ place task timer, fleet.tasks[place]? = some task →
        task.wakesAt fleet.services.elapsed = some timer → timer ≤ elapsed →
          place ∈ next.ready := by
  rcases Option.map_eq_some_iff.mp jumped with ⟨now, reads, rfl⟩
  refine ⟨now, reads, wakeWhere_wakes _ _, fun place task timer there wakes reached => ?_⟩
  refine mem_ready_wakeWhere _ there ?_
  rw [wakes]
  exact decide_eq_true reached

theorem act_wakes {α : Type} (fleet : Fleet) (action : Action α) :
    Wakes { fleet with services := { (action .main fleet.services).2 with awakened := [] } }
      (fleet.act action).2 := wakeSubscribers_wakes _

theorem begin_wakes (fleet : Fleet) (task : Task) :
    Wakes { fleet with tasks := fleet.tasks ++ [task] } (fleet.begin task) ∧
      fleet.tasks.length ∈ (fleet.begin task).ready := wake_wakes _ _

theorem interrupt_wakes (fleet : Fleet) (actor : Actor) :
    Wakes { fleet with interrupted := actor :: fleet.interrupted } (fleet.interrupt actor) :=
  wakeWhere_wakes _ _

/-- The clock reads what has elapsed since the start, no failure is planned, and the
agents are healthy and told apart by their identifiers. -/
structure Sound (fleet : Fleet) : Prop where
  clock : fleet.origin.addMilliseconds? fleet.services.elapsed = some fleet.services.now
  unplanned : fleet.services.plans = []
  healthy : ∀ place actor agent, fleet.agent? place = some (actor, agent) → agent.Healthy
  distinct : ∀ place actor agent other partner fellow,
    fleet.agent? place = some (actor, agent) → fleet.agent? other = some (partner, fellow) →
      agent.info.id = fellow.info.id → actor = partner ∧ agent = fellow

namespace Sound

/-- Neither time nor failures come with a moment, and nobody new comes. -/
theorem of_moment (sound : fleet.Sound) (origin : next.origin = fleet.origin)
    (moment : Services.SameMoment fleet.services next.services)
    (fewer : ∀ place member, next.agent? place = some member →
      fleet.agent? place = some member) : next.Sound where
  clock := by rw [origin, moment.elapsed, moment.now, sound.clock]
  unplanned := moment.plans sound.unplanned
  healthy place actor agent there := sound.healthy place actor agent (fewer _ _ there)
  distinct place actor agent other partner fellow there beside :=
    sound.distinct place actor agent other partner fellow (fewer _ _ there) (fewer _ _ beside)

theorem of_wakes (wakes : Wakes fleet next) (sound : fleet.Sound) : next.Sound := by
  rcases wakes with ⟨ready, rfl, _⟩
  exact sound.of_moment rfl (.refl _) fun _ _ => id

theorem stepped (sound : fleet.Sound) (stepped : Stepped fleet next) : next.Sound := by
  cases stepped with
  | idle _ same => exact same ▸ sound
  | vacant ready vacant same => exact same ▸ sound.of_moment rfl (.refl _) fun _ _ => id
  | @taken place rest task progress after ready there steps wakes =>
      have within := task.step_within fleet.builds (fleet.interrupted.contains task.actor)
      have moment := within.sameMoment task.actor fleet.services
      have continues := (task.step_ensures fleet.builds (fleet.interrupted.contains task.actor)
        task.actor fleet.services progress trivial (by rw [steps])).2
      rw [steps] at moment
      refine .of_wakes wakes (sound.of_moment rfl ⟨moment.now, moment.elapsed, moment.plans⟩ ?_)
      rintro other ⟨actor, agent⟩ found
      rcases agent?_eq_some.mp found with ⟨later, at1, acts, its⟩
      rw [List.getElem?_set] at at1
      split at at1
      · rename_i here
        subst here
        split at at1
        · cases at1
          exact agent?_eq_some.mpr ⟨task, there, continues.actor ▸ acts, continues.agent agent its⟩
        · cases at1
      · exact agent?_eq_some.mpr ⟨later, at1, acts, its⟩

theorem begun (sound : fleet.Sound) {task : Task}
    (healthy : ∀ agent, task.agent? = some agent → agent.Healthy)
    (distinct : ∀ place actor fellow agent, fleet.agent? place = some (actor, fellow) →
      task.agent? = some agent → fellow.info.id = agent.info.id →
        actor = task.actor ∧ fellow = agent) : (fleet.begin task).Sound := by
  refine .of_wakes (fleet.begin_wakes task).1 ?_
  have before : ∀ place actor agent,
      agent? { fleet with tasks := fleet.tasks ++ [task] } place = some (actor, agent) →
        fleet.agent? place = some (actor, agent) ∨
          actor = task.actor ∧ task.agent? = some agent := by
    intro place actor agent found
    rcases agent?_eq_some.mp found with ⟨there, at1, acts, its⟩
    rcases Nat.lt_or_ge place fleet.tasks.length with inside | outside
    · rw [List.getElem?_append_left inside] at at1
      exact .inl (agent?_eq_some.mpr ⟨there, at1, acts, its⟩)
    · rw [List.getElem?_append_right outside] at at1
      cases List.mem_singleton.mp (List.mem_of_getElem? at1)
      exact .inr ⟨acts.symm, its⟩
  refine ⟨sound.clock, sound.unplanned, fun place actor agent found => ?_,
    fun place actor agent other partner fellow found beside same => ?_⟩
  · rcases before place actor agent found with earlier | ⟨_, new⟩
    · exact sound.healthy place actor agent earlier
    · exact healthy agent new
  · rcases before place actor agent found with earlier | ⟨rfl, new⟩
    · rcases before other partner fellow beside with also | ⟨rfl, newer⟩
      · exact sound.distinct place actor agent other partner fellow earlier also same
      · exact distinct place actor agent fellow earlier newer same
    · rcases before other partner fellow beside with also | ⟨rfl, newer⟩
      · exact (distinct other partner fellow agent also new same.symm).imp Eq.symm Eq.symm
      · exact ⟨rfl, Option.some.inj (new.symm.trans newer)⟩

theorem move (sound : fleet.Sound) (move : Move fleet next) : next.Sound := by
  cases move with
  | step stepped => exact sound.stepped (step_eq_done stepped)
  | reorder _ _ => exact sound.of_moment rfl (.refl _) fun _ _ => id
  | jump idle forward punctual jumped =>
      rcases jump?_eq_some jumped with ⟨now, reads, wakes, _⟩
      exact .of_wakes wakes ⟨reads, sound.unplanned, sound.healthy, sound.distinct⟩
  | @act _ _ action outside =>
      have moment := outside.sameMoment .main fleet.services
      exact .of_wakes (fleet.act_wakes action)
        (sound.of_moment rfl ⟨moment.now, moment.elapsed, moment.plans⟩ fun _ _ => id)
  | begin _ idle healthy distinct => exact sound.begun healthy distinct
  | interrupt _ actor =>
      exact .of_wakes (fleet.interrupt_wakes actor) (sound.of_moment rfl (.refl _) fun _ _ => id)

end Sound

theorem Reached.sound (reached : Reached fleet) : fleet.Sound := by
  induction reached with
  | start settings origin builds =>
      refine ⟨origin.addMilliseconds?_zero, rfl, fun place actor agent found => ?_,
        fun place actor agent other partner fellow found => ?_⟩
      all_goals
        rcases agent?_eq_some.mp found with ⟨task, there, _⟩
        cases there
  | move _ move sound => exact sound.move move

theorem Reached.moves (reached : Reached fleet) (moves : Relation.ReflTransGen Move fleet next) :
    Reached next := by
  induction moves with
  | refl => exact reached
  | tail _ move induction => exact .move induction move

/-! ## The dispatcher in a run -/

section Dispatched

variable (reached : Reached fleet) (dispatcher : Dispatcher) (payload : Json) (id : JobId)
include reached

theorem Reached.dispatched {α : Type} {action : Action α}
    (within : action.Within Dispatcher.MayCall) : Reached (fleet.act action).2 :=
  .move reached (.act fleet (within.mono fleet.outside_of_dispatcher))

theorem Reached.submit (name : String) : Reached (fleet.act (dispatcher.submit name payload)).2 :=
  reached.dispatched (dispatcher.submit_within name payload)

theorem Reached.submitAll (names : List String) :
    Reached (fleet.act (dispatcher.submitAll names payload)).2 :=
  reached.dispatched (dispatcher.submitAll_within names payload)

theorem Reached.cancel : Reached (fleet.act (Dispatcher.cancel id)).2 :=
  reached.dispatched (Dispatcher.cancel_within id)

theorem Reached.query : Reached (fleet.act (Dispatcher.query id)).2 :=
  reached.dispatched (Dispatcher.query_within id)

theorem Reached.status : Reached (fleet.act dispatcher.status).2 :=
  reached.dispatched dispatcher.status_within

end Dispatched

/-! ## What stays throughout a run -/

/-- The origin and the builds stay, and whoever is shut down stays so. -/
structure Follows (fleet next : Fleet) : Prop where
  origin : next.origin = fleet.origin
  builds : next.builds = fleet.builds
  interrupted : fleet.interrupted ⊆ next.interrupted

theorem Follows.refl (fleet : Fleet) : Follows fleet fleet := ⟨rfl, rfl, List.Subset.refl _⟩

theorem Follows.wakes {middle : Fleet} (wakes : Wakes middle next)
    (follows : Follows fleet middle) : Follows fleet next := by
  rcases wakes with ⟨ready, rfl, _⟩
  exact ⟨follows.origin, follows.builds, follows.interrupted⟩

theorem Move.follows (move : Move fleet next) : Follows fleet next := by
  cases move with
  | step stepped =>
      cases step_eq_done stepped with
      | idle _ same => exact same ▸ .refl fleet
      | vacant ready vacant same => exact same ▸ ⟨rfl, rfl, List.Subset.refl _⟩
      | taken ready there steps wakes => exact .wakes wakes ⟨rfl, rfl, List.Subset.refl _⟩
  | reorder => exact ⟨rfl, rfl, List.Subset.refl _⟩
  | jump idle forward punctual jumped =>
      rcases jump?_eq_some jumped with ⟨now, _, wakes, _⟩
      exact .wakes wakes ⟨rfl, rfl, List.Subset.refl _⟩
  | @act _ _ action outside =>
      exact .wakes (fleet.act_wakes action) ⟨rfl, rfl, List.Subset.refl _⟩
  | begin _ idle healthy distinct =>
      exact .wakes (fleet.begin_wakes _).1 ⟨rfl, rfl, List.Subset.refl _⟩
  | interrupt _ actor =>
      exact .wakes (fleet.interrupt_wakes actor) ⟨rfl, rfl, List.subset_cons_self _ _⟩

end Fleet

end BuildFleet
