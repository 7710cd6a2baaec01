import BuildFleet.Proofs.Fleet.Tenure

/-!
# Healthy agents keep their leases

Whoever pursues a job in a run of a fleet is on its course through it, and no agent
pursues a job twice. So the lease that an agent was granted is live at every moment,
nobody takes the job away, and when the build comes to its end the result is
recorded.
-/

namespace BuildFleet

open Relation (ReflTransGen)

/-! ## All agents -/

namespace Fleet

variable {fleet next : Fleet}

/-- Whoever pursues a job, and was not shut down, is on its course through it, and
no agent pursues a job twice. -/
structure Orderly (fleet : Fleet) : Prop where
  secure : ∀ place actor agent id, fleet.Pursues place actor agent id →
    actor ∉ fleet.interrupted → ∃ grant : Grant, grant.agent = agent ∧ grant.job.id = id ∧
      fleet.builds (grant.agent.buildSpec grant.job) = grant.script ∧
        grant.Secure place actor fleet
  alone : ∀ place other actor agent id, fleet.Pursues place actor agent id →
    fleet.Pursues other actor agent id → actor ∉ fleet.interrupted → place = other

theorem Orderly.move (orderly : fleet.Orderly) (sound : fleet.Sound) (move : Move fleet next) :
    next.Orderly where
  secure place actor agent id pursues running := by
    have follows := move.follows
    have runs : actor ∉ fleet.interrupted := fun shut => running (follows.interrupted shut)
    rcases move.pursues_before pursues with before | ⟨job, grants, stepped⟩
    · rcases orderly.secure place actor agent id before runs with
        ⟨grant, rfl, rfl, scripted, secure⟩
      have tenure : grant.Tenure place actor fleet.services fleet := ⟨.refl _, secure⟩
      exact ⟨grant, rfl, rfl, follows.builds ▸ scripted, (tenure.move sound
        (fun other theirs ours => orderly.alone other place _ _ _ theirs ours runs) scripted runs
          move).secure⟩
    · rcases Services.claim_granted grants.granted with ⟨found, _⟩
      exact ⟨.ofClaim fleet agent job, rfl, Store.job?_id found, congrFun follows.builds _,
        (Grant.Tenure.of_claim sound grants stepped).secure⟩
  alone place other actor agent id pursues beside running := by
    have runs : actor ∉ fleet.interrupted := fun shut => running (move.follows.interrupted shut)
    -- Whoever pursues a job already keeps others from being granted it.
    have refused : ∀ place other job, fleet.Pursues place actor agent id →
        ¬ fleet.Grants other actor agent id job := by
      intro place other job before grants
      rcases orderly.secure place actor agent id before runs with ⟨grant, rfl, rfl, _, secure⟩
      exact secure.not_granted sound grants.granted
    rcases move.pursues_before pursues with before | ⟨job, grants, _⟩
    · rcases move.pursues_before beside with also | ⟨job, grants, _⟩
      · exact orderly.alone place other actor agent id before also runs
      · exact absurd grants (refused place other job before)
    · rcases move.pursues_before beside with also | ⟨answer, grantsToo, _⟩
      · exact absurd grants (refused other place job also)
      · exact Option.some.inj (grants.first.symm.trans grantsToo.first)

theorem Reached.orderly (reached : Reached fleet) : fleet.Orderly := by
  induction reached with
  | start settings origin builds =>
      have nobody : ∀ place actor agent id,
          ¬ Pursues ⟨.start settings origin, origin, builds, [], [], []⟩ place actor agent id := by
        rintro place actor agent id ⟨task, assignment, there, _⟩
        cases there
      exact ⟨fun place actor agent id pursues => absurd pursues (nobody _ _ _ _),
        fun place other actor agent id pursues => absurd pursues (nobody _ _ _ _)⟩
  | move reached move orderly => exact orderly.move reached.sound move

end Fleet

/-! ## From the claim on -/

namespace Grant

variable {grant : Grant} {fleet next : Fleet} {place : Nat} {actor : Actor} {since : Services}

/-- An agent stays on its course until it is shut down. -/
theorem Tenure.moves (tenure : grant.Tenure place actor since fleet) (reached : fleet.Reached)
    (scripted : fleet.builds (grant.agent.buildSpec grant.job) = grant.script)
    (moves : ReflTransGen Fleet.Move fleet next) :
    actor ∈ next.interrupted ∨ grant.Tenure place actor since next := by
  have both : next.builds = fleet.builds ∧
      (actor ∈ next.interrupted ∨ grant.Tenure place actor since next) := by
    induction moves with
    | refl => exact ⟨rfl, .inr tenure⟩
    | @tail middle next moves move induction =>
        have reaches := reached.moves moves
        have follows := move.follows
        rcases induction with ⟨builds, kept⟩
        refine ⟨follows.builds.trans builds, ?_⟩
        by_cases shut : actor ∈ middle.interrupted
        · exact .inl (follows.interrupted shut)
        · exact .inr ((kept.resolve_left shut).move reaches.sound
            (fun other theirs ours => reaches.orderly.alone other place _ _ _ theirs ours shut)
            (builds ▸ scripted) shut move)
  exact both.2

/-- The build is over, and all that could go on at that moment has done so. -/
def Ended (grant : Grant) (fleet : Fleet) : Prop :=
  grant.endsAt < fleet.services.elapsed ∨
    grant.endsAt = fleet.services.elapsed ∧ fleet.ready = []

/-- The agent holds a live lease on the job, and its build is not over. -/
structure Holds (grant : Grant) (fleet : Fleet) (job : Job) : Prop where
  owner : job.owner = some grant.agent.info.id
  live : job.leaseLive fleet.services.now = true
  unended : ¬ grant.Ended fleet

theorem Secure.holds (secure : grant.Secure place actor fleet) (sound : fleet.Sound) :
    ∃ job, fleet.services.store.job? grant.job.id = some job ∧
      job.attemptCount = grant.job.attemptCount ∧
        (job.status = .cancelled ∨ grant.Completed job ∨ grant.Holds fleet job) := by
  cases secure with
  | settled found settled => exact ⟨_, found, settled.attempts, settled.ended.imp_right .inl⟩
  | busy found held recent there acts works addressed begun course prompt intime =>
      have pursues := pursues_of_busy there acts works addressed course
      have live := held.live (sound.healthy _ _ _ pursues.agent?) sound.clock recent
      have unended : ¬ grant.Ended fleet := by
        rintro (late | ⟨now, idle⟩)
        · exact absurd intime (Nat.not_le.mpr late)
        · -- Whoever is not ready waits for a timer before the end.
          rcases prompt with member | ⟨timer, due, later⟩
          · rw [idle] at member
            cases member
          · have early := (course.until_timer due (Nat.le_refl timer)).2.2
            exact absurd (Nat.lt_of_lt_of_le later early) (now ▸ Nat.lt_irrefl _)
      exact ⟨_, found, held.attempts, .inr (.inr ⟨held.owner, live, unended⟩)⟩

end Grant

/-- A healthy agent whose claim has been granted is not parted from the job: unless
it is shut down, nobody takes the job or counts an attempt, and until the job is
cancelled or the agent has completed it with what came of the build, the lease is
live and the build is not over. -/
theorem Fleet.Reached.healthy_agent_keeps_lease {fleet claimed later : Fleet} {place : Nat}
    {actor : Actor} {agent : Agent} {id : JobId} {job : Job} (reached : fleet.Reached)
    (grants : fleet.Grants place actor agent id job) (stepped : fleet.step = .done claimed)
    (moves : ReflTransGen Fleet.Move claimed later) :
    actor ∈ later.interrupted ∨
      Services.Untaken id claimed.services later.services ∧
        ∃ stored, later.services.store.job? id = some stored ∧
          stored.attemptCount = job.attemptCount ∧
            (stored.status = .cancelled ∨ (Grant.ofClaim fleet agent job).Completed stored ∨
              (Grant.ofClaim fleet agent job).Holds later stored) := by
  have reaches : claimed.Reached := .move reached (.step stepped)
  have tenure := Grant.Tenure.of_claim reached.sound grants stepped
  have same : job.id = id := Store.job?_id (Services.claim_granted grants.granted).1
  have scripted : claimed.builds (agent.buildSpec job) = (Grant.ofClaim fleet agent job).script :=
    congrFun (Fleet.Move.step stepped).follows.builds _
  rcases tenure.moves reaches scripted moves with shut | kept
  · exact .inl shut
  · subst same
    exact .inr ⟨kept.untaken, kept.secure.holds (reaches.moves moves).sound⟩

/-! ## A sample

An agent that sends heartbeats every second works for two and a half seconds on a
job under leases of five. -/

/-- The value of an operation that is done. -/
def Outcome.value? {α : Type} : Outcome α → Option α
  | done value => some value
  | _ => none

theorem Outcome.value?_eq_some {α : Type} {outcome : Outcome α} {value : α} :
    outcome.value? = some value ↔ outcome = .done value := by
  cases outcome <;> simp [value?]

namespace Sample

def steadyAgent : Agent where
  info := ⟨⟨"a"⟩, "host", ⟨"amd64"⟩, 1, moment 0⟩
  lease := lease
  heartbeat := .ofSeconds 1
  buildTimeout := .ofSeconds 60
  environment := []

theorem steadyAgent_healthy : steadyAgent.Healthy :=
  ⟨by decide, by decide, by decide, by decide⟩

def emptyFleet : Fleet :=
  ⟨.start settings (moment 0), moment 0, fun _ => { BuildScript.immediate with duration := 2500 },
    [], [], []⟩

def steadyTask : Task := ⟨.agent 0, 0, .job steadyAgent (.start steadyAgent (freshId 0))⟩

/-- The job has been submitted, and the agent is about to claim it. -/
def claimingFleet : Fleet :=
  (emptyFleet.act (Dispatcher.enqueue ⟨"amd64"⟩ .null)).2.begin steadyTask

/-- The fleet after all that can go on has done so. -/
def settled (fleet : Fleet) : Fleet := (fleet.settle 10).value?.getD fleet

theorem settled_moves (fleet : Fleet) : ReflTransGen Fleet.Move fleet (settled fleet) := by
  unfold settled
  cases ends : (fleet.settle 10).value? with
  | some next => exact Fleet.settle_moves (Outcome.value?_eq_some.mp ends)
  | none => exact .refl

/-- The fleet after it has jumped to its next timer, and all that can go on then has
done so. -/
def onward (fleet : Fleet) : Fleet :=
  match fleet.nextTimer?.bind fleet.jump? with
  | some next => settled next
  | none => fleet

theorem onward_moves {fleet : Fleet} (reached : fleet.Reached) (idle : fleet.ready = []) :
    ReflTransGen Fleet.Move fleet (onward fleet) := by
  unfold onward
  split
  · rename_i next jumps
    rcases Option.bind_eq_some_iff.mp jumps with ⟨timer, due, jumped⟩
    refine .head (.jump idle (Nat.le_of_lt (reached.elapsed_lt_nextTimer? idle due)) ?_ jumped)
      (settled_moves next)
    intro other same
    exact Nat.le_of_eq (Option.some.inj (due.symm.trans same))
  · exact .refl

def claimedFleet : Fleet := claimingFleet.step.value?.getD claimingFleet

/-- Two heartbeats later the build has come to its end. -/
def finishedFleet : Fleet := onward (onward (onward (settled claimedFleet)))

theorem claimingFleet_reached : claimingFleet.Reached := by
  have submitted : (emptyFleet.act (Dispatcher.enqueue ⟨"amd64"⟩ .null)).2.Reached :=
    Fleet.Reached.dispatched (.start _ _ _) (Dispatcher.enqueue_within _ _)
  refine .move submitted (.begin _ (fun agent assignment works => ?_) (fun agent its => ?_)
    fun place actor fellow agent found => ?_)
  · cases works
    rfl
  · cases its
    exact steadyAgent_healthy
  · rcases emptyFleet.act_wakes (Dispatcher.enqueue ⟨"amd64"⟩ .null) with ⟨ready, same, _⟩
    rw [same] at found
    rcases Fleet.agent?_eq_some.mp found with ⟨task, there, _⟩
    cases there

theorem claimingFleet_builds : claimingFleet.builds = emptyFleet.builds := by
  rcases emptyFleet.act_wakes (Dispatcher.enqueue ⟨"amd64"⟩ .null) with ⟨_, acted, _⟩
  rcases (Fleet.begin_wakes (emptyFleet.act (Dispatcher.enqueue ⟨"amd64"⟩ .null)).2
    steadyTask).1 with ⟨_, begun, _⟩
  unfold claimingFleet
  rw [begun, acted]

theorem claimedFleet_step : claimingFleet.step = .done claimedFleet := by
  have done : claimingFleet.step.value?.isSome = true := by decide +kernel
  rcases Option.isSome_iff_exists.mp done with ⟨next, ends⟩
  unfold claimedFleet
  rw [ends]
  exact Outcome.value?_eq_some.mp ends

theorem finishedFleet_moves : ReflTransGen Fleet.Move claimedFleet finishedFleet := by
  have reached := Fleet.Reached.move claimingFleet_reached (.step claimedFleet_step)
  have first := settled_moves claimedFleet
  have second := first.trans (onward_moves (reached.moves first) (by decide +kernel))
  have third := second.trans (onward_moves (reached.moves second) (by decide +kernel))
  exact third.trans (onward_moves (reached.moves third) (by decide +kernel))

theorem claimingFleet_grants :
    ∃ job, claimingFleet.Grants 0 (.agent 0) steadyAgent (freshId 0) job := by
  have done : (Services.claim (freshId 0) steadyAgent.info.id steadyAgent.lease (.agent 0)
      claimingFleet.services).1.value?.isSome = true := by decide +kernel
  rcases Option.isSome_iff_exists.mp done with ⟨job, granted⟩
  exact ⟨job, by decide +kernel, ⟨steadyTask, .start steadyAgent (freshId 0), rfl, rfl,
    Nat.zero_le _, rfl, rfl, rfl⟩, Outcome.value?_eq_some.mp granted⟩

end Sample

/-- The agent completes its job at its first attempt. -/
theorem Fleet.Reached.sample_agent_keeps_lease : ∃ job stored,
    Sample.claimingFleet.Reached ∧
    Sample.claimingFleet.Grants 0 (.agent 0) Sample.steadyAgent (freshId 0) job ∧
    Sample.claimingFleet.step = .done Sample.claimedFleet ∧
    ReflTransGen Fleet.Move Sample.claimedFleet Sample.finishedFleet ∧
    Sample.finishedFleet.services.store.job? (freshId 0) = some stored ∧
    stored.attemptCount = job.attemptCount ∧
    (Grant.ofClaim Sample.claimingFleet Sample.steadyAgent job).Completed stored := by
  rcases Sample.claimingFleet_grants with ⟨job, grants⟩
  have kept := Sample.claimingFleet_reached.healthy_agent_keeps_lease grants
    Sample.claimedFleet_step Sample.finishedFleet_moves
  have running : Actor.agent 0 ∉ Sample.finishedFleet.interrupted := by decide +kernel
  rcases kept.resolve_left running with ⟨_, stored, found, attempts, outcome⟩
  refine ⟨job, stored, Sample.claimingFleet_reached, grants, Sample.claimedFleet_step,
    Sample.finishedFleet_moves, found, attempts, ?_⟩
  have uncancelled : ∀ stored ∈ Sample.finishedFleet.services.store.job? (freshId 0),
      stored.status ≠ .cancelled := by decide +kernel
  have ended : Sample.finishedFleet.services.elapsed = 2500 ∧ Sample.finishedFleet.ready = [] := by
    decide +kernel
  have endsAt : (Grant.ofClaim Sample.claimingFleet Sample.steadyAgent job).endsAt = 2500 := by
    have start : Sample.claimingFleet.services.elapsed = 0 := by decide +kernel
    unfold Grant.ofClaim
    rw [Sample.claimingFleet_builds, start, Grant.endsAt_spawned rfl]
    show min (0 + 2500) (0 + Sample.steadyAgent.buildTimeout.millisecondsCeiling) = 2500
    decide
  rcases outcome with cancelled | completed | holds
  · exact absurd cancelled (uncancelled stored found)
  · exact completed
  · exact absurd (.inr ⟨endsAt.trans ended.1.symm, ended.2⟩) holds.unended

end BuildFleet
