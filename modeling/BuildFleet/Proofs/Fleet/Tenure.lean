import BuildFleet.Proofs.Fleet.Pursuit

/-!
# The tenure of an agent

From the claim of a job on, its agent is on its course through the job until the
job has ended, whatever the other agents, the monitor and the dispatcher do in
the meantime: every move of the fleet leaves the agent on its course, provided
that no other task pursues the same job for it.
-/

namespace BuildFleet

/-- A claim that is granted answers the job as the store keeps it from then on. -/
theorem Services.claim_granted {services : Services} {actor : Actor} {id : JobId}
    {worker : WorkerId} {lease : Span} {job : Job}
    (granted : (claim id worker lease actor services).1 = .done job) :
    (claim id worker lease actor services).2.store.job? id = some job ∧
      ∃ before, services.store.job? id = some before ∧ Job.Step services.settings.maxAttempts
        services.now before (.claim worker lease) (.done job) job := by
  rcases perform_store_done actor services (.claim id worker lease) job granted with
    ⟨answered, left⟩
  rcases Store.claim_granted answered with ⟨found, step⟩
  exact ⟨left ▸ found, step⟩

namespace Grant

variable {grant : Grant} {fleet middle next : Fleet} {place : Nat} {actor : Actor} {job : Job}
  {since : Services}

/-- The job has been cancelled, or the agent has completed it. -/
structure Settled (grant : Grant) (job : Job) : Prop where
  attempts : job.attemptCount = grant.job.attemptCount
  ended : job.status = .cancelled ∨ grant.Completed job

theorem Settled.terminal (settled : grant.Settled job) : job.status.isTerminal = true := by
  rcases settled.ended with cancelled | completed
  · rw [cancelled]
    rfl
  · rw [completed.status]
    exact Job.terminal_of_result grant.verdict

/-! ## Stages that wait -/

theorem OnCourse.pursues {elapsed beat : Nat} {assignment : Assignment}
    (course : grant.OnCourse elapsed beat job assignment) : assignment.work.Pursues := by
  cases course with
  | beginning work | spawning work | openingLogs work | watching work | extending work
  | noting work | killing work | reporting work =>
      rw [work]
      trivial

/-- Only the watch over a build has a timer, and until that the agent stays on its
course. -/
theorem OnCourse.until_timer {elapsed later beat timer : Nat} {assignment : Assignment}
    (course : grant.OnCourse elapsed beat job assignment)
    (wakes : assignment.wakesAt = some timer) (early : later ≤ timer) :
    grant.OnCourse later beat job assignment ∧
      later ≤ beat + grant.agent.heartbeat.milliseconds ∧ later ≤ grant.endsAt := by
  cases course with
  | watching work running timed spawned intime =>
      rw [Assignment.wakesAt, work] at wakes
      cases wakes
      rw [timed.exitsAt, timed.deadline, timed.dueAt] at early
      rcases Nat.le_min.mp early with ⟨exits, others⟩
      rcases Nat.le_min.mp others with ⟨times, due⟩
      have intime : later ≤ grant.endsAt := by
        rw [endsAt_spawned spawned]
        exact Nat.le_min.mpr ⟨exits, times⟩
      exact ⟨.watching work running timed spawned intime, due, intime⟩
  | beginning work | spawning work | openingLogs work | extending work | noting work
  | killing work | reporting work =>
      rw [Assignment.wakesAt, work] at wakes
      cases wakes

/-! ## What holds from the claim on -/

/-- The job has ended, or the task at this place is on its course through it. -/
inductive Secure (grant : Grant) (place : Nat) (actor : Actor) (fleet : Fleet) : Prop
  | settled {job : Job} (found : fleet.services.store.job? grant.job.id = some job)
      (settled : grant.Settled job)
  | busy {beat : Nat} {job : Job} {task : Task} {assignment : Assignment}
      (found : fleet.services.store.job? grant.job.id = some job)
      (held : grant.Held fleet.origin beat job)
      (recent : fleet.services.elapsed ≤ beat + grant.agent.heartbeat.milliseconds)
      (there : fleet.tasks[place]? = some task) (acts : task.actor = actor)
      (works : task.work? = some (grant.agent, assignment))
      (addressed : assignment.id = grant.job.id)
      (begun : task.startsAt ≤ fleet.services.elapsed)
      (course : grant.OnCourse fleet.services.elapsed beat job assignment)
      (prompt : place ∈ fleet.ready ∨
        ∃ timer, assignment.wakesAt = some timer ∧ fleet.services.elapsed < timer)
      (intime : fleet.services.elapsed ≤ grant.endsAt)

theorem Secure.of_wakes (wakes : Fleet.Wakes middle next)
    (secure : grant.Secure place actor middle) : grant.Secure place actor next := by
  rcases wakes with ⟨ready, rfl, more⟩
  cases secure with
  | settled found settled => exact .settled found settled
  | busy found held recent there acts works addressed begun course prompt intime =>
      exact .busy found held recent there acts works addressed begun course
        (prompt.imp_left fun member => more member) intime

/-- A task on its course pursues the job. -/
theorem pursues_of_busy {elapsed beat : Nat} {task : Task} {assignment : Assignment}
    (there : fleet.tasks[place]? = some task) (acts : task.actor = actor)
    (works : task.work? = some (grant.agent, assignment)) (addressed : assignment.id = grant.job.id)
    (course : grant.OnCourse elapsed beat job assignment) :
    fleet.Pursues place actor grant.agent grant.job.id :=
  ⟨task, assignment, there, acts, works, addressed, course.pursues⟩

theorem Secure.safe (secure : grant.Secure place actor fleet) (sound : fleet.Sound) :
    ∃ job, fleet.services.store.job? grant.job.id = some job ∧
      job.Safe grant.agent.info.id fleet.services.now := by
  cases secure with
  | settled found settled => exact ⟨_, found, .inl settled.terminal⟩
  | busy found held recent there acts works addressed begun course prompt intime =>
      have pursues := pursues_of_busy there acts works addressed course
      exact ⟨_, found, held.safe (sound.healthy _ _ _ pursues.agent?) sound.clock recent⟩

/-- Nobody is granted a claim of the job. -/
theorem Secure.not_granted (secure : grant.Secure place actor fleet) (sound : fleet.Sound)
    {worker : WorkerId} {lease : Span} {claimant : Actor} {answer : Job} :
    (Services.claim grant.job.id worker lease claimant fleet.services).1 ≠ .done answer := by
  intro granted
  rcases Services.claim_granted granted with ⟨_, before, found, step⟩
  rcases secure.safe sound with ⟨job, foundToo, safe⟩
  cases found.symm.trans foundToo
  cases step with
  | granted queued => exact safe.not_queued queued
  | takenOver expired =>
      rw [safe.not_expired] at expired
      cases expired

/-- Nobody has taken the job since then, and the agent is on its course. -/
structure Tenure (grant : Grant) (place : Nat) (actor : Actor) (since : Services)
    (fleet : Fleet) : Prop where
  untaken : Services.Untaken grant.job.id since fleet.services
  secure : grant.Secure place actor fleet

namespace Tenure

theorem of_wakes (wakes : Fleet.Wakes middle next)
    (tenure : grant.Tenure place actor since middle) : grant.Tenure place actor since next := by
  have secure := tenure.secure.of_wakes wakes
  rcases wakes with ⟨ready, rfl, _⟩
  exact ⟨tenure.untaken, secure⟩

/-- A job that has ended stays as it is. -/
theorem of_settled (tenure : grant.Tenure place actor since fleet) (settled : grant.Settled job)
    (harmless : Services.Spares grant.job.id job fleet.services middle.services) :
    grant.Tenure place actor since middle := by
  rcases harmless.spared with ⟨later, foundAfter, spared⟩
  refine ⟨tenure.untaken.trans harmless.untaken, .settled foundAfter ?_⟩
  cases spared with
  | same => exact settled
  | cancelled unfinished => exact absurd settled.terminal (Bool.eq_false_iff.mp unfinished)

/-- What others do within a moment leaves the agent on its course, unless they
cancel the job. -/
theorem aside (tenure : grant.Tenure place actor since fleet) (sound : fleet.Sound)
    (origin : middle.origin = fleet.origin)
    (spares : ∀ job, fleet.services.store.job? grant.job.id = some job →
      job.Safe grant.agent.info.id fleet.services.now →
      (job.status.isTerminal = false → fleet.Pursues place actor grant.agent grant.job.id) →
        Services.Spares grant.job.id job fleet.services middle.services)
    (stays : ∀ task, fleet.tasks[place]? = some task → middle.tasks[place]? = some task)
    (ready : place ∈ fleet.ready → place ∈ middle.ready) :
    grant.Tenure place actor since middle := by
  cases tenure.secure with
  | settled found settled =>
      exact tenure.of_settled settled (spares _ found (.inl settled.terminal) fun unfinished =>
        absurd settled.terminal (Bool.eq_false_iff.mp unfinished))
  | busy found held recent there acts works addressed begun course prompt intime =>
      have pursues := pursues_of_busy there acts works addressed course
      have safe := held.safe (sound.healthy _ _ _ pursues.agent?) sound.clock recent
      have harmless := spares _ found safe fun _ => pursues
      have still := harmless.moment.elapsed
      rcases harmless.spared with ⟨later, foundAfter, spared⟩
      refine ⟨tenure.untaken.trans harmless.untaken, ?_⟩
      cases spared with
      | same =>
          refine .busy foundAfter (origin ▸ held) (still ▸ recent) (stays _ there) acts works
            addressed (still ▸ begun) (still ▸ course) ?_ (still ▸ intime)
          rw [still]
          exact prompt.imp_left ready
      | cancelled unfinished => exact .settled foundAfter ⟨held.attempts, .inl rfl⟩

/-- A step of the agent's own leads on. -/
theorem worked (tenure : grant.Tenure place actor since fleet) (sound : fleet.Sound)
    (scripted : fleet.builds (grant.agent.buildSpec grant.job) = grant.script)
    (running : actor ∉ fleet.interrupted) {rest : List Nat} {task : Task}
    {progress : Progress Task} {after : Services} (ready : fleet.ready = place :: rest)
    (there : fleet.tasks[place]? = some task)
    (steps : task.step fleet.builds (fleet.interrupted.contains task.actor) task.actor
      fleet.services = (.done progress, after)) :
    grant.Tenure place actor since { fleet with
      services := { after with awakened := [] }
      tasks := fleet.tasks.set place progress.state
      ready := Fleet.remaining fleet.ready progress } := by
  cases tenure.secure with
  | settled found settled =>
      have within := task.step_within fleet.builds (fleet.interrupted.contains task.actor)
      have harmless := within.spares_ended settled.terminal found task.actor
      rw [steps] at harmless
      exact tenure.of_settled settled harmless.asleep
  | @busy beat job working assignment found held recent at1 acts works addressed begun course
      prompt intime =>
      cases there.symm.trans at1
      have ours := (pursues_of_busy there acts works addressed course).agent?
      have stands : grant.Stands fleet.origin fleet.services beat job :=
        ⟨sound.healthy _ _ _ ours, sound.unplanned, sound.clock, found, held, recent⟩
      have unended : ∀ outcome, assignment.work ≠ .ended outcome := by
        intro outcome ended
        have pursues := course.pursues
        rw [ended] at pursues
        cases pursues
      have awake : fleet.interrupted.contains task.actor = false := by
        rw [acts, Bool.eq_false_iff]
        exact fun shut => running (List.contains_iff_mem.mp shut)
      rw [awake, Task.step_work works unended begun] at steps
      rcases Action.bind_eq_done steps with ⟨later, left, stepped, ends⟩
      cases ends
      have same : later.state.id = assignment.id :=
        (assignment.step_ensures fleet.builds grant.agent false task.actor fleet.services later
          trivial (by rw [stepped])).2
      have moment := (assignment.step_within fleet.builds grant.agent false).sameMoment task.actor
        fleet.services
      rw [stepped] at moment
      have still : after.elapsed = fleet.services.elapsed := moment.elapsed
      rcases stands.step addressed scripted course task.actor later after stepped with
        ⟨untaken, leaves⟩
      refine ⟨tenure.untaken.trans untaken, ?_⟩
      cases leaves with
      | completed foundAfter completed =>
          exact .settled foundAfter ⟨completed.attempts, .inr completed⟩
      | goesOn foundAfter heldAfter recentAfter courseAfter promptAfter =>
          rcases task.put_eq works later.state with ⟨worksOn, actsOn, startsAt⟩
          rw [← still] at recentAfter courseAfter promptAfter intime begun
          refine .busy foundAfter heldAfter recentAfter ?_ (actsOn.trans acts) worksOn
            (same.trans addressed) (startsAt ▸ begun) courseAfter ?_ intime
          · rw [Progress.state_map]
            exact List.getElem?_set_self (List.getElem?_eq_some_iff.mp there).1
          · cases later with
            | goesOn state =>
                left
                show place ∈ fleet.ready
                rw [ready]
                exact List.mem_cons_self
            | waits state => exact .inr promptAfter

/-- A step of another task leaves the agent on its course. -/
theorem other_worked (tenure : grant.Tenure place actor since fleet) (sound : fleet.Sound)
    (alone : ∀ other, fleet.Pursues other actor grant.agent grant.job.id →
      fleet.Pursues place actor grant.agent grant.job.id → other = place)
    {head : Nat} {rest : List Nat} {task : Task} {progress : Progress Task} {after : Services}
    (other : head ≠ place) (ready : fleet.ready = head :: rest)
    (there : fleet.tasks[head]? = some task)
    (steps : task.step fleet.builds (fleet.interrupted.contains task.actor) task.actor
      fleet.services = (.done progress, after)) :
    grant.Tenure place actor since { fleet with
      services := { after with awakened := [] }
      tasks := fleet.tasks.set head progress.state
      ready := Fleet.remaining fleet.ready progress } := by
  refine tenure.aside sound rfl (fun job found safe ours => ?_) (fun task there => ?_)
    fun member => ?_
  · have within := task.step_within fleet.builds (fleet.interrupted.contains task.actor)
    have foreign : job.status.isTerminal = false → ∀ call, task.MayCall call →
        call.Foreign grant.job.id grant.agent.info.id := by
      refine fun unfinished call =>
        Task.foreign fun agent assignment works pursues addressed same => ?_
      have theirs : fleet.Pursues head task.actor agent grant.job.id :=
        ⟨task, assignment, there, rfl, works, addressed, pursues⟩
      rcases sound.distinct _ _ _ _ _ _ theirs.agent? (ours unfinished).agent? same with ⟨acts, rfl⟩
      exact other (alone head (acts ▸ theirs) (ours unfinished))
    have harmless := within.spares foreign found safe task.actor
    rw [steps] at harmless
    exact harmless.asleep
  · rw [List.getElem?_set_ne other]
    exact there
  · cases progress with
    | goesOn state => exact member
    | waits state =>
        show place ∈ fleet.ready.tail
        rw [ready] at member ⊢
        exact (List.mem_cons.mp member).resolve_left fun same => other same.symm

theorem stepped (tenure : grant.Tenure place actor since fleet) (sound : fleet.Sound)
    (alone : ∀ other, fleet.Pursues other actor grant.agent grant.job.id →
      fleet.Pursues place actor grant.agent grant.job.id → other = place)
    (scripted : fleet.builds (grant.agent.buildSpec grant.job) = grant.script)
    (running : actor ∉ fleet.interrupted) (stepped : Fleet.Stepped fleet next) :
    grant.Tenure place actor since next := by
  cases stepped with
  | idle _ same => exact same ▸ tenure
  | vacant ready vacant same =>
      subst same
      cases tenure.secure with
      | settled found settled => exact ⟨tenure.untaken, .settled found settled⟩
      | busy found held recent there acts works addressed begun course prompt intime =>
          refine ⟨tenure.untaken, .busy found held recent there acts works addressed begun course
            (prompt.imp_left fun member => ?_) intime⟩
          rw [ready] at member
          refine (List.mem_cons.mp member).resolve_left fun same => ?_
          subst same
          cases vacant.symm.trans there
  | @taken head rest task progress after ready there steps wakes =>
      refine of_wakes wakes ?_
      by_cases here : head = place
      · subst here
        exact tenure.worked sound scripted running ready there steps
      · exact tenure.other_worked sound alone here ready there steps

/-- The clock jumps no further than the agent's next timer, and wakes it then. -/
theorem jumped (tenure : grant.Tenure place actor since fleet) {elapsed : Nat}
    (idle : fleet.ready = []) (forward : fleet.services.elapsed ≤ elapsed)
    (punctual : ∀ timer, fleet.nextTimer? = some timer → elapsed ≤ timer)
    (jumped : fleet.jump? elapsed = some next) : grant.Tenure place actor since next := by
  rcases Fleet.jump?_eq_some jumped with ⟨now, _, wakes, woken⟩
  rcases wakes with ⟨ready, rfl, _⟩
  refine ⟨tenure.untaken, ?_⟩
  cases tenure.secure with
  | settled found settled => exact .settled found settled
  | @busy _ _ task assignment found held recent there acts works addressed begun course prompt
      intime =>
      rcases prompt with member | ⟨timer, due, _⟩
      · rw [idle] at member
        cases member
      · have wakesAt : task.wakesAt fleet.services.elapsed = some timer :=
          (Task.wakesAt_of_work works begun).trans due
        rcases Fleet.nextTimer?_le there wakesAt with ⟨first, next, earlier⟩
        have early : elapsed ≤ timer := Nat.le_trans (punctual first next) earlier
        rcases course.until_timer due early with ⟨courseAfter, recentAfter, intimeAfter⟩
        refine .busy found held recentAfter there acts works addressed (Nat.le_trans begun forward)
          courseAfter ?_ intimeAfter
        rcases Nat.lt_or_eq_of_le early with later | rfl
        · exact .inr ⟨timer, due, later⟩
        · exact .inl (woken place task elapsed there wakesAt (Nat.le_refl _))

theorem move (tenure : grant.Tenure place actor since fleet) (sound : fleet.Sound)
    (alone : ∀ other, fleet.Pursues other actor grant.agent grant.job.id →
      fleet.Pursues place actor grant.agent grant.job.id → other = place)
    (scripted : fleet.builds (grant.agent.buildSpec grant.job) = grant.script)
    (running : actor ∉ fleet.interrupted) (move : Fleet.Move fleet next) :
    grant.Tenure place actor since next := by
  have still : ∀ job, fleet.services.store.job? grant.job.id = some job →
      job.Safe grant.agent.info.id fleet.services.now →
      (job.status.isTerminal = false → fleet.Pursues place actor grant.agent grant.job.id) →
        Services.Spares grant.job.id job fleet.services fleet.services :=
    fun job found _ _ => .refl found
  cases move with
  | step stepped => exact tenure.stepped sound alone scripted running (Fleet.step_eq_done stepped)
  | reorder _ same => exact tenure.aside sound rfl still (fun _ => id) same.mem_iff.mpr
  | jump idle forward punctual jumped => exact tenure.jumped idle forward punctual jumped
  | @act _ _ action outside =>
      refine of_wakes (fleet.act_wakes action) (tenure.aside sound rfl ?_ (fun _ => id) id)
      intro job found safe ours
      exact (outside.spares (fun unfinished call may => may place actor grant.agent
        (ours unfinished).agent? grant.job.id) found safe .main).asleep
  | begin _ idle healthy distinct =>
      refine of_wakes (fleet.begin_wakes _).1 (tenure.aside sound rfl still ?_ id)
      intro task there
      rw [List.getElem?_append_left (List.getElem?_eq_some_iff.mp there).1]
      exact there
  | interrupt _ other =>
      exact of_wakes (fleet.interrupt_wakes other) (tenure.aside sound rfl still (fun _ => id) id)

end Tenure

/-! ## The claim -/

/-- What an agent is granted when it claims the job at this moment. -/
def ofClaim (fleet : Fleet) (agent : Agent) (job : Job) : Grant where
  agent := agent
  job := job
  claimedAt := fleet.services.elapsed
  script := fleet.builds (agent.buildSpec job)

/-- Whoever is granted a claim holds the lease from then on. -/
theorem Held.of_claim {agent : Agent} {script : BuildScript} {limit elapsed : Nat}
    {origin now : Instant} {before : Job}
    (step : Job.Step limit now before (.claim agent.info.id agent.lease) (.done job) job)
    (clock : origin.addMilliseconds? elapsed = some now) :
    Held ⟨agent, job, elapsed, script⟩ origin elapsed job := by
  cases step with
  | granted queued ends =>
      have whole := Job.leaseMilliseconds_eq ends
      exact ⟨rfl, rfl, whole, rfl, now, _, clock, whole ▸ ends, rfl⟩
  | takenOver expired remaining ends =>
      have whole := Job.leaseMilliseconds_eq ends
      exact ⟨rfl, rfl, whole, rfl, now, _, clock, whole ▸ ends, rfl⟩

/-- A claim that is granted leads to the first heartbeat. -/
theorem step_of_granted {agent : Agent} {assignment : Assignment} {services : Services}
    (claiming : assignment.work = .claiming)
    (granted :
      (Services.claim assignment.id agent.info.id agent.lease actor services).1 = .done job)
    (builds : BuildScripts) (interrupted : Bool) :
    assignment.step builds agent interrupted actor services =
      (.done (.goesOn (assignment.observe agent (.claimed (.ok job)))),
        (Services.claim assignment.id agent.info.id agent.lease actor services).2) := by
  simp only [Assignment.step, claiming]
  rw [Action.bind_apply]
  dsimp only [Services.elapsedTime]
  rw [Action.bind_apply]
  unfold Action.attempt
  generalize Services.claim assignment.id agent.info.id agent.lease actor services = claimed
    at granted ⊢
  rcases claimed with ⟨outcome, after⟩
  cases granted
  rfl

/-- An agent whose claim is granted is on its course. -/
theorem Tenure.of_claim (sound : fleet.Sound) {agent : Agent} {id : JobId}
    (grants : fleet.Grants place actor agent id job) (stepped : fleet.step = .done next) :
    (ofClaim fleet agent job).Tenure place actor next.services next := by
  rcases grants.claiming with ⟨task, assignment, there, rfl, begun, works, rfl, claiming⟩
  have granted := grants.granted
  rcases Services.claim_granted granted with ⟨found, before, _, step⟩
  have addressed := Store.job?_id found
  have moment := Services.perform_sameMoment
    (.store (.claim assignment.id agent.info.id agent.lease)) task.actor fleet.services
  cases Fleet.step_eq_done stepped with
  | idle nobody =>
      have first := grants.first
      rw [nobody] at first
      cases first
  | vacant ready vacant =>
      have first := grants.first
      rw [ready] at first
      cases first
      cases vacant.symm.trans there
  | taken ready thereToo steps wakes =>
      have first := grants.first
      rw [ready] at first
      cases first
      cases there.symm.trans thereToo
      have unended : ∀ outcome, assignment.work ≠ .ended outcome := fun outcome ended =>
        nomatch claiming.symm.trans ended
      rw [Task.step_work works unended begun, Action.bind_apply,
        step_of_granted claiming granted] at steps
      cases steps
      refine ⟨.refl _, .of_wakes wakes ?_⟩
      rcases task.put_eq works (assignment.observe agent (.claimed (.ok job))) with
        ⟨worksOn, actsOn, startsAt⟩
      have still := moment.elapsed
      refine .busy (addressed ▸ found) (.of_claim step sound.clock)
        (Nat.le_add_right_of_le (Nat.le_of_eq still))
        (List.getElem?_set_self (List.getElem?_eq_some_iff.mp there).1) actsOn worksOn
        addressed.symm (startsAt ▸ still ▸ begun)
        (.beginning (Assignment.work_observe _ claiming rfl) still) (.inl ?_)
        (Nat.le_trans (Nat.le_of_eq still) (claimedAt_le_endsAt (ofClaim fleet agent job)))
      show _ ∈ fleet.ready
      rw [ready]
      exact List.mem_cons_self

end Grant

end BuildFleet
