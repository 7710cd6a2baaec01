import BuildFleet.Proofs.Fleet.Leases
import BuildFleet.Proofs.Fleet.Supervision

/-!
# How long a lost job is still built

An agent learns that it has lost its job by a heartbeat that is rejected, and it sends one
every interval. So its build is stopped no later than an interval after the loss, and its
result is refused.
-/

namespace BuildFleet

open Relation (ReflTransGen)

instance : DecidablePred Work.Builds
  | .openingLogs _ | .watching _ | .extending _ | .noting _ | .killing _ _ => .isTrue trivial
  | .claiming | .beginning _ | .spawning _ | .reporting _ _ | .pausing _ _ _ | .ended _ =>
    .isFalse id

namespace Fleet

variable {fleet next later : Fleet} {place : Nat} {agent : Agent} {worker : WorkerId} {id : JobId}
  {beat lost : Nat}

/-- The agent at this place runs a build of the job. -/
def Builds (fleet : Fleet) (place : Nat) (agent : Agent) (id : JobId) : Prop :=
  ∃ task assignment, fleet.tasks[place]? = some task ∧ task.work? = some (agent, assignment) ∧
    assignment.id = id ∧ assignment.work.Builds

theorem Builds.underway (builds : fleet.Builds place agent id) :
    fleet.Underway place agent id := by
  rcases builds with ⟨task, assignment, there, works, addressed, builds⟩
  exact ⟨task, assignment, there, works, addressed, builds.underway⟩

theorem builds_iff : fleet.Builds place agent id ↔
    ∃ work ∈ fleet.tasks[place]?.bind Task.work?,
      work.1 = agent ∧ work.2.id = id ∧ work.2.work.Builds := by
  constructor
  · rintro ⟨task, assignment, there, works, addressed, builds⟩
    refine ⟨(agent, assignment), ?_, rfl, addressed, builds⟩
    rw [there]
    exact works
  · rintro ⟨⟨_, assignment⟩, found, rfl, addressed, builds⟩
    rcases Option.bind_eq_some_iff.mp found with ⟨task, there, works⟩
    exact ⟨task, assignment, there, works, addressed, builds⟩

instance : Decidable (fleet.Builds place agent id) := decidable_of_iff _ builds_iff.symm

/-- The worker has lost the job at this millisecond: it is cancelled, waits again, belongs to
another one or has ended now, or the lease that the worker has on it was over then. -/
inductive Loses (fleet : Fleet) (worker : WorkerId) (id : JobId) (lost : Nat) : Prop
  | parted {job : Job} (found : fleet.services.store.job? id = some job)
      (unheld : job.owner = some worker → job.status.isLeased = false)
      (now : lost = fleet.services.elapsed)
  | expired {job : Job} {reading : Instant} (found : fleet.services.store.job? id = some job)
      (owned : job.owner = some worker) (past : lost ≤ fleet.services.elapsed)
      (reads : fleet.origin.addMilliseconds? lost = some reading)
      (expired : job.leaseExpired reading = true)

/-- Whoever has lost its job has had its last heartbeat accepted before, and holds no lease. -/
theorem Loses.parted_of_supervised {reading : Instant} (loses : fleet.Loses worker id lost)
    (clock : fleet.origin.addMilliseconds? fleet.services.elapsed = some fleet.services.now)
    (past : beat ≤ fleet.services.elapsed)
    (reads : fleet.origin.addMilliseconds? beat = some reading)
    (has : fleet.services.Has id (Job.Extended worker reading)) :
    beat ≤ lost ∧ fleet.services.Has id (Job.Parted worker fleet.services.now) := by
  rcases has with ⟨job, found, extended⟩
  cases loses with
  | parted foundToo unheld now =>
      cases found.symm.trans foundToo
      exact ⟨now ▸ past, job, found, extended.uncompleted,
        fun ours => Job.leaseLive_of_unleased (unheld ours)⟩
  | @expired _ ended foundToo owned earlier readsEnd expired =>
      cases found.symm.trans foundToo
      rcases Job.leaseExpired_iff.mp expired with ⟨leased, passed⟩
      rcases extended.ends owned leased with ⟨expiry, ends, given⟩
      refine ⟨?_, job, found, extended.uncompleted, fun _ => ?_⟩
      · -- A heartbeat after that would have extended the lease beyond it.
        by_contra late
        have before := Instant.reading_lt readsEnd reads (Nat.lt_of_not_le late)
        exact absurd (le_trans given (passed expiry ends)) (not_le.mpr before)
      · exact Job.leaseLive_later (Job.leaseLive_of_expired expired)
          (Instant.reading_le readsEnd clock earlier)

/-- While the agent goes on with a build that it has lost, no heartbeat of it is accepted. -/
theorem Supervised.lingers (supervised : fleet.Supervised place agent id beat)
    (reached : Rules.supervision.Reached fleet)
    (has : fleet.services.Has id (Job.Parted agent.info.id fleet.services.now))
    (changes : ReflTransGen (fun before after => Rules.supervision.Change before after ∧
      after.Builds place agent id) fleet later) : later.Supervised place agent id beat := by
  suffices lingers : later.Supervised place agent id beat ∧ Rules.supervision.Reached later ∧
      later.services.Has id (Job.Parted agent.info.id later.services.now) from lingers.1
  induction changes with
  | refl => exact ⟨supervised, reached, has⟩
  | @tail middle last _ step before =>
      rcases before with ⟨supervised, reached, has⟩
      rcases step with ⟨change, builds⟩
      have every := has.every
      rcases has with ⟨job, found, parted⟩
      cases supervised.change reached found change with
      | goesOn supervised kept =>
          have still := kept (Job.Parted.law _ _) every
          exact ⟨supervised, reached.change change, change.has ⟨job, found, parted⟩
            fun job there => (still job there).later (reached.now_le change)⟩
      | extended owned live =>
          -- Only a live lease can be extended, and the worker has none.
          exact absurd rfl (parted.other owned live)
      | stops done => exact absurd builds.underway done

/-- Until it is granted the job again, a worker that has lost it does not complete it. -/
theorem parted_until (reached : Rules.supervision.Reached fleet)
    (has : fleet.services.Has id (Job.Parted worker fleet.services.now))
    (changes : ReflTransGen Rules.supervision.Change fleet later) :
    later.services.Until (Happening.Grants worker id) (Happening.Completes worker id) id
      (Job.Parted worker later.services.now) fleet.services.journal := by
  suffices both : Rules.supervision.Reached later ∧ later.services.Until
      (Happening.Grants worker id) (Happening.Completes worker id) id
      (Job.Parted worker later.services.now) fleet.services.journal from both.2
  induction changes with
  | refl => exact ⟨reached, .start has⟩
  | tail _ change before =>
      rcases before with ⟨reached, holding⟩
      have still := change.until (fun _ completes => completes.answers)
        (fun _ _ call parted => parted.perform id call) holding
      exact ⟨reached.change change, still.imp fun _ _ parted =>
        parted.later (reached.now_le change)⟩

/-- When an agent has lost the job that it builds, its build is stopped no later than one
heartbeat interval after the loss. Its result is never stored, unless it is granted the job
again. -/
theorem build_stops_after_loss (reached : Rules.supervision.Reached fleet)
    (builds : fleet.Builds place agent id) (loses : fleet.Loses agent.info.id id lost) :
    (∀ later, ReflTransGen (fun before after => Rules.supervision.Change before after ∧
        after.Builds place agent id) fleet later →
      later.services.elapsed ≤ lost + agent.heartbeat.milliseconds) ∧
    ∀ later, ReflTransGen Rules.supervision.Change fleet later →
      later.services.Until (Happening.Grants agent.info.id id)
        (Happening.Completes agent.info.id id) id
        (fun job => job.owner = some agent.info.id → job.result = none)
        fleet.services.journal := by
  rcases guarded_of_underway reached builds.underway with ⟨beat, reading, supervised, reads, has⟩
  rcases loses.parted_of_supervised reached.sound.clock supervised.recent.1 reads has with
    ⟨earlier, parted⟩
  refine ⟨fun later changes => ?_, fun later changes => ?_⟩
  · have recent := (supervised.lingers reached parted changes).recent
    omega
  · have reaches := reached.changes changes
    exact (parted_until reached parted changes).imp fun job found parted =>
      parted.result_eq (reaches.every Job.reported_law id job found)

end Fleet

namespace Sample

/-- The build is on, and half a second has passed. -/
def midwayFleet : Fleet := ((settled claimingFleet).jump? 500).getD claimingFleet

/-- The job has been cancelled. -/
def cancelledFleet : Fleet := (midwayFleet.act (Services.cancel (freshId 0))).2

/-- The agent is about to send its next heartbeat. -/
def tickingFleet : Fleet := (cancelledFleet.jump? 1000).getD cancelledFleet

def beatingFleet : Fleet := tickingFleet.step.value?.getD tickingFleet

/-- The heartbeat has been rejected. -/
def killingFleet : Fleet := beatingFleet.step.value?.getD beatingFleet

def abortedFleet : Fleet := settled killingFleet

theorem claimingFleet_supervised : Rules.supervision.Reached claimingFleet := by
  have vacant : ∀ {fleet : Fleet} {place : Nat} {actor : Actor} {agent : Agent},
      fleet.tasks = [] → fleet.agent? place ≠ some (actor, agent) := by
    intro fleet place actor agent empty found
    rcases Fleet.agent?_eq_some.mp found with ⟨task, there, _⟩
    rw [empty] at there
    cases there
  have submitted : Rules.supervision.Reached
      (emptyFleet.act (Dispatcher.enqueue ⟨"amd64"⟩ .null)).2 :=
    .change (.start _ _ _) (.act _ ((Dispatcher.enqueue_within _ _).mono
      fun _ _ _ _ _ found => absurd found (vacant rfl)) (by decide +kernel))
  rcases emptyFleet.act_wakes (Dispatcher.enqueue ⟨"amd64"⟩ .null) with ⟨ready, same, _⟩
  refine .change submitted (.begin _ ⟨fun agent assignment works => ?_, fun agent its => ?_⟩)
  · cases works
    rfl
  · cases its
    refine ⟨⟨by decide, by decide⟩, fun place actor other found => absurd found (vacant ?_)⟩
    rw [same]
    rfl

theorem change_of_jump {rules : Rules} {fleet : Fleet} {elapsed : Nat} (idle : fleet.ready = [])
    (forward : fleet.services.elapsed ≤ elapsed)
    (punctual : ∀ timer ∈ fleet.nextTimer?, elapsed ≤ timer)
    (inside : (fleet.jump? elapsed).isSome = true) (other : Fleet) :
    rules.Change fleet ((fleet.jump? elapsed).getD other) := by
  rcases Option.isSome_iff_exists.mp inside with ⟨next, jumped⟩
  rw [jumped]
  exact .jump idle forward punctual jumped

theorem change_of_step {rules : Rules} {fleet : Fleet}
    (inside : fleet.step.value?.isSome = true) (other : Fleet) :
    rules.Change fleet (fleet.step.value?.getD other) := by
  rcases Option.isSome_iff_exists.mp inside with ⟨next, stepped⟩
  rw [stepped]
  exact .step (Outcome.value?_eq_some.mp stepped)

theorem settled_changes (rules : Rules) (fleet : Fleet) :
    ReflTransGen rules.Change fleet (settled fleet) := by
  unfold settled
  cases ends : (fleet.settle 10).value? with
  | some next =>
      exact ReflTransGen.mono (fun _ _ stepped => .step stepped) fleet next
        (Fleet.settle_steps (Outcome.value?_eq_some.mp ends))
  | none => exact .refl

theorem cancelledFleet_reached : Rules.supervision.Reached cancelledFleet := by
  have watching := claimingFleet_supervised.changes (settled_changes _ _)
  have midway : Rules.supervision.Reached midwayFleet :=
    watching.change (change_of_jump (by decide +kernel) (by decide +kernel) (by decide +kernel)
      (by decide +kernel) _)
  refine .change midway (.act _ (.perform fun place actor agent found id jobCall same => ?_)
    (by decide +kernel))
  cases jobCall <;> cases same
  trivial

theorem killingFleet_builds : ReflTransGen (fun before after =>
    Rules.supervision.Change before after ∧ after.Builds 0 steadyAgent (freshId 0))
      cancelledFleet killingFleet := by
  have ticks : Rules.supervision.Change cancelledFleet tickingFleet :=
    change_of_jump (by decide +kernel) (by decide +kernel) (by decide +kernel)
      (by decide +kernel) _
  have beats : Rules.supervision.Change tickingFleet beatingFleet :=
    change_of_step (by decide +kernel) _
  have kills : Rules.supervision.Change beatingFleet killingFleet :=
    change_of_step (by decide +kernel) _
  exact ((ReflTransGen.single ⟨ticks, by decide +kernel⟩).tail ⟨beats, by decide +kernel⟩).tail
    ⟨kills, by decide +kernel⟩

theorem cancelledFleet_loses : cancelledFleet.Loses steadyAgent.info.id (freshId 0) 500 := by
  have found : (cancelledFleet.services.store.job? (freshId 0)).isSome = true := by decide +kernel
  rcases Option.isSome_iff_exists.mp found with ⟨job, found⟩
  have unleased : ∀ job ∈ cancelledFleet.services.store.job? (freshId 0),
      job.status.isLeased = false := by decide +kernel
  exact .parted found (fun _ => unleased job found) (by decide +kernel)

end Sample

/-- The agent learns at its next heartbeat that the job has been cancelled, and aborts it. -/
theorem Fleet.sample_build_stops_after_loss :
    Rules.supervision.Reached Sample.cancelledFleet ∧
    Sample.cancelledFleet.Builds 0 Sample.steadyAgent (freshId 0) ∧
    Sample.cancelledFleet.Loses Sample.steadyAgent.info.id (freshId 0) 500 ∧
    ReflTransGen (fun before after => Rules.supervision.Change before after ∧
      after.Builds 0 Sample.steadyAgent (freshId 0)) Sample.cancelledFleet Sample.killingFleet ∧
    Sample.killingFleet.services.elapsed ≤ 500 + Sample.steadyAgent.heartbeat.milliseconds ∧
    ¬ Sample.abortedFleet.Builds 0 Sample.steadyAgent (freshId 0) ∧
    Sample.abortedFleet.services.Until (Happening.Grants ⟨"a"⟩ (freshId 0))
      (Happening.Completes ⟨"a"⟩ (freshId 0)) (freshId 0)
      (fun job => job.owner = some ⟨"a"⟩ → job.result = none)
      Sample.cancelledFleet.services.journal := by
  have builds : Sample.cancelledFleet.Builds 0 Sample.steadyAgent (freshId 0) := by decide +kernel
  have lasts := Sample.killingFleet_builds
  have stops := build_stops_after_loss Sample.cancelledFleet_reached builds
    Sample.cancelledFleet_loses
  have changes : ReflTransGen Rules.supervision.Change Sample.cancelledFleet Sample.abortedFleet :=
    (ReflTransGen.mono (fun _ _ step => step.1) _ _ lasts).trans (Sample.settled_changes _ _)
  exact ⟨Sample.cancelledFleet_reached, builds, Sample.cancelledFleet_loses, lasts,
    stops.1 _ lasts, by decide +kernel, stops.2 _ changes⟩

end BuildFleet
