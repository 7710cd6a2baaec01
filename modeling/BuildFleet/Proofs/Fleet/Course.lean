import BuildFleet.Proofs.Fleet.Calls
import BuildFleet.Proofs.Job.Keeping
import BuildFleet.Proofs.Services.Moment
import BuildFleet.Proofs.Time.Elapsed

/-!
# An agent's course through a job

From a claim that was granted to the report of its result, the work of an agent
goes through stages. Each stage says how long ago the lease was last extended and
when the timers are due; every step from it leads to a stage on the course again,
unless the job ends.
-/

namespace BuildFleet

/-! ## Healthy agents -/

/-- The agent sends heartbeats at whole milliseconds, and more often than its leases end. -/
structure Agent.Healthy (agent : Agent) : Prop where
  wholeHeartbeat : agent.heartbeat.nanoseconds % nanosPerMilli = 0
  wholeLease : agent.lease.nanoseconds % nanosPerMilli = 0
  beats : 0 < agent.heartbeat.nanoseconds
  renews : agent.heartbeat < agent.lease

namespace Agent.Healthy

variable {agent : Agent}

theorem heartbeat_lt (healthy : agent.Healthy) :
    0 < agent.heartbeat.milliseconds ∧ agent.heartbeat.milliseconds < agent.lease.milliseconds := by
  have wholeHeartbeat := healthy.wholeHeartbeat
  have wholeLease := healthy.wholeLease
  have beats := healthy.beats
  have renews : agent.heartbeat.nanoseconds < agent.lease.nanoseconds := healthy.renews
  unfold Span.milliseconds nanosPerMilli at *
  omega

theorem heartbeat_ne (healthy : agent.Healthy) : agent.heartbeat ≠ .zero := by
  intro none
  have beats := healthy.beats
  rw [none] at beats
  exact Nat.lt_irrefl 0 beats

end Agent.Healthy

/-! ## Stages and signals -/

/-- The stage after an event is the one that the work comes to. -/
theorem Assignment.work_observe {agent : Agent} {assignment : Assignment} {event : WorkEvent}
    {stage : Work} (later : Work) (work : assignment.work = stage)
    (next : stage.after agent event = some later) :
    (assignment.observe agent event).work = later := by
  rw [observe, work, next]
  rfl

/-- What an agent notices first that is not shut down: the end of the build, then the
time limit, then a tick. -/
inductive Assignment.Noticed (assignment : Assignment) (elapsed : Nat) :
    Option (BuildSignal × Ticker) → Prop
  | exited (ended : assignment.exitsAt ≤ elapsed) :
      Noticed assignment elapsed (some (.exited assignment.script.exit, assignment.heartbeats))
  | deadline (runs : elapsed < assignment.exitsAt) (late : firesAt assignment.deadline ≤ elapsed) :
      Noticed assignment elapsed (some (.deadline, assignment.heartbeats))
  | tick (runs : elapsed < assignment.exitsAt) (intime : elapsed < firesAt assignment.deadline)
      (due : firesAt assignment.heartbeats.due ≤ elapsed) :
      Noticed assignment elapsed (some (.tick, assignment.heartbeats.next elapsed))
  | nothing (early : elapsed < min assignment.exitsAt
        (min (firesAt assignment.deadline) (firesAt assignment.heartbeats.due))) :
      Noticed assignment elapsed none

theorem Assignment.noticed (assignment : Assignment) (elapsed : Nat) :
    assignment.Noticed elapsed (assignment.signal? false elapsed) := by
  rw [signal?, if_neg Bool.false_ne_true]
  split
  · rename_i ended
    exact .exited ended
  · rename_i runs
    split
    · rename_i late
      exact .deadline (Nat.lt_of_not_le runs) late
    · rename_i intime
      split
      · rename_i due
        exact .tick (Nat.lt_of_not_le runs) (Nat.lt_of_not_le intime) (of_decide_eq_true due)
      · rename_i quiet
        have early : ¬ firesAt assignment.heartbeats.due ≤ elapsed := fun reached =>
          quiet (decide_eq_true reached)
        exact .nothing (Nat.lt_min.mpr ⟨Nat.lt_of_not_le runs,
          Nat.lt_min.mpr ⟨Nat.lt_of_not_le intime, Nat.lt_of_not_le early⟩⟩)

/-- A signal that has not come has its timers still to come. -/
theorem Assignment.lt_of_no_signal {assignment : Assignment} {interrupted : Bool} {elapsed : Nat}
    (none : assignment.signal? interrupted elapsed = none) :
    elapsed < min assignment.exitsAt
      (min (firesAt assignment.deadline) (firesAt assignment.heartbeats.due)) := by
  cases interrupted with
  | true =>
      rw [signal?, if_pos rfl] at none
      cases none
  | false =>
      have noticed := assignment.noticed elapsed
      rw [none] at noticed
      cases noticed with
      | nothing early => exact early

/-! ## What an agent was granted -/

/-- A job that an agent has claimed. -/
structure Grant where
  agent : Agent
  /-- The job as the claim answered it. -/
  job : Job
  /-- When it was claimed, in milliseconds since the start. -/
  claimedAt : Nat
  /-- How the build environment treats the build. -/
  script : BuildScript

namespace Grant

/-- When the build ends by itself. -/
def exitsAt (grant : Grant) : Nat := grant.claimedAt + grant.script.duration

/-- When the build has taken too long. -/
def timesOutAt (grant : Grant) : Nat :=
  grant.claimedAt + grant.agent.buildTimeout.millisecondsCeiling

/-- When the build is over: at once if it cannot be started, or else when it ends by
itself or has taken too long. -/
def endsAt (grant : Grant) : Nat :=
  match grant.script.spawnFailure with
  | some _ => grant.claimedAt
  | none => min grant.exitsAt grant.timesOutAt

theorem endsAt_spawned {grant : Grant} (spawned : grant.script.spawnFailure = none) :
    grant.endsAt = min grant.exitsAt grant.timesOutAt := by
  rw [endsAt, spawned]

theorem claimedAt_le_endsAt (grant : Grant) : grant.claimedAt ≤ grant.endsAt := by
  unfold endsAt exitsAt timesOutAt
  split <;> omega

/-- What comes of the build. At the time limit an end by itself counts. -/
def buildResult (grant : Grant) : JobResult :=
  match grant.script.spawnFailure with
  | some failure => .ofFailure failure
  | none =>
    if grant.exitsAt ≤ grant.timesOutAt then
      match grant.script.exit with
      | .ok output => .ofOutput output
      | .error failure => .ofFailure failure
    else .failed .timeout

/-- The result that the agent reports. -/
def verdict (grant : Grant) : JobResult :=
  { grant.buildResult with worker := some grant.agent.info.id, elapsedMs := 0 }

/-- The agent has completed the job with the result of its build. -/
structure Completed (grant : Grant) (job : Job) : Prop where
  owner : job.owner = some grant.agent.info.id
  result : job.result = some grant.verdict
  status : job.status = grant.verdict.status
  attempts : job.attemptCount = grant.job.attemptCount

/-- The agent holds the lease on the job that it extended last at this millisecond. -/
structure Held (grant : Grant) (origin : Instant) (beat : Nat) (job : Job) : Prop where
  owner : job.owner = some grant.agent.info.id
  leased : job.status.isLeased = true
  leaseMs : job.leaseMs = grant.agent.lease.milliseconds
  attempts : job.attemptCount = grant.job.attemptCount
  expires : ∃ reading expiry, origin.addMilliseconds? beat = some reading ∧
    reading.addMilliseconds? grant.agent.lease.milliseconds = some expiry ∧
    job.leaseExpiry = some expiry

variable {grant : Grant} {origin now : Instant} {elapsed beat : Nat} {job : Job}

/-- The lease is live until the next heartbeat is due, and then, too. -/
theorem Held.live (held : grant.Held origin beat job) (healthy : grant.agent.Healthy)
    (clock : origin.addMilliseconds? elapsed = some now)
    (recent : elapsed ≤ beat + grant.agent.heartbeat.milliseconds) : job.leaseLive now = true := by
  rcases held.expires with ⟨reading, expiry, beats, ends, expires⟩
  have shorter := healthy.heartbeat_lt.2
  exact Job.leaseLive_iff.mpr ⟨held.leased, expiry, expires,
    Instant.lt_of_elapsed_lt (by omega) (by omega) (by omega) beats ends clock (by omega)⟩

theorem Held.safe (held : grant.Held origin beat job) (healthy : grant.agent.Healthy)
    (clock : origin.addMilliseconds? elapsed = some now)
    (recent : elapsed ≤ beat + grant.agent.heartbeat.milliseconds) :
    job.Safe grant.agent.info.id now :=
  .inr ⟨held.owner, held.live healthy clock recent⟩

theorem Held.renewed (held : grant.Held origin beat job) {expiry : Instant}
    (clock : origin.addMilliseconds? elapsed = some now)
    (ends : now.addMilliseconds? grant.agent.lease.milliseconds = some expiry) :
    grant.Held origin elapsed (job.renewedUntil expiry now) :=
  ⟨held.owner, rfl, held.leaseMs, held.attempts, now, expiry, clock, ends, rfl⟩

/-! ## The stages -/

/-- The timers of a build whose next heartbeat is due one interval after the last. -/
structure Timed (grant : Grant) (beat : Nat) (assignment : Assignment) : Prop where
  script : assignment.script = grant.script
  exitsAt : assignment.exitsAt = grant.exitsAt
  deadline : firesAt assignment.deadline = grant.timesOutAt
  heartbeats : assignment.heartbeats =
    ⟨(beat + grant.agent.heartbeat.milliseconds) * nanosPerMilli, grant.agent.heartbeat⟩

theorem Timed.dueAt {assignment : Assignment} (timed : grant.Timed beat assignment) :
    firesAt assignment.heartbeats.due = beat + grant.agent.heartbeat.milliseconds := by
  rw [timed.heartbeats, firesAt_whole]

/-- A new stage leaves the timers as they are. -/
theorem Timed.observe {assignment : Assignment} (timed : grant.Timed beat assignment)
    (agent : Agent) (event : WorkEvent) : grant.Timed beat (assignment.observe agent event) :=
  ⟨timed.script, timed.exitsAt, timed.deadline, timed.heartbeats⟩

/-- A tick is noticed on time, so the next one follows after a whole interval. -/
theorem Timed.next {assignment : Assignment} (timed : grant.Timed beat assignment)
    (healthy : grant.agent.Healthy) (due : elapsed = beat + grant.agent.heartbeat.milliseconds)
    (work : Work) : grant.Timed elapsed
      { assignment with work, heartbeats := assignment.heartbeats.next elapsed } := by
  refine ⟨timed.script, timed.exitsAt, timed.deadline, ?_⟩
  show assignment.heartbeats.next elapsed = _
  rw [timed.heartbeats, ← due]
  exact Ticker.next_whole elapsed healthy.wholeHeartbeat

/-- Where the agent stands with the job, the lease having been extended last at this
millisecond. -/
inductive OnCourse (grant : Grant) (elapsed beat : Nat) (job : Job) (assignment : Assignment) : Prop
  | beginning (work : assignment.work = .beginning grant.job)
      (soon : elapsed = grant.claimedAt)
  | spawning (work : assignment.work = .spawning (grant.agent.buildSpec grant.job))
      (running : job.status = .running) (soon : elapsed = grant.claimedAt)
      (fresh : beat = elapsed)
  | openingLogs {handle : BuildHandle} (work : assignment.work = .openingLogs handle)
      (running : job.status = .running) (soon : elapsed = grant.claimedAt)
      (fresh : beat = elapsed) (script : assignment.script = grant.script)
      (spawned : grant.script.spawnFailure = none)
  | watching {handle : BuildHandle} (work : assignment.work = .watching handle)
      (running : job.status = .running) (timed : grant.Timed beat assignment)
      (spawned : grant.script.spawnFailure = none) (intime : elapsed ≤ grant.endsAt)
  | extending {handle : BuildHandle} (work : assignment.work = .extending handle)
      (running : job.status = .running) (timed : grant.Timed elapsed assignment)
      (spawned : grant.script.spawnFailure = none) (intime : elapsed ≤ grant.endsAt)
  | noting {handle : BuildHandle} (work : assignment.work = .noting handle)
      (running : job.status = .running) (timed : grant.Timed beat assignment)
      (spawned : grant.script.spawnFailure = none) (intime : elapsed ≤ grant.endsAt)
  | killing {handle : BuildHandle} (work : assignment.work = .killing handle .timedOut)
      (running : job.status = .running) (spawned : grant.script.spawnFailure = none)
      (late : grant.timesOutAt < grant.exitsAt)
  | reporting {backoff : Backoff} (work : assignment.work = .reporting grant.verdict backoff)
      (running : job.status = .running)

/-- Whoever waits waits for a timer that is still to come. -/
def Prompt (elapsed : Nat) : Progress Assignment → Prop
  | .goesOn _ => True
  | .waits assignment => ∃ timer, assignment.wakesAt = some timer ∧ elapsed < timer

/-- What a step leaves: a job that the agent has completed, or the next stage. -/
inductive Leaves (grant : Grant) (origin : Instant) (elapsed : Nat) (store : Store)
    (progress : Progress Assignment) : Prop
  | completed {job : Job} (found : store.job? grant.job.id = some job)
      (completed : grant.Completed job)
  | goesOn {beat : Nat} {job : Job} (found : store.job? grant.job.id = some job)
      (held : grant.Held origin beat job)
      (recent : elapsed ≤ beat + grant.agent.heartbeat.milliseconds)
      (course : grant.OnCourse elapsed beat job progress.state)
      (prompt : Prompt elapsed progress)

/-! ## One step -/

/-- The agent holds the job in these services, in which no failure is planned. -/
structure Stands (grant : Grant) (origin : Instant) (services : Services) (beat : Nat)
    (job : Job) : Prop where
  healthy : grant.agent.Healthy
  unplanned : services.plans = []
  clock : origin.addMilliseconds? services.elapsed = some services.now
  found : services.store.job? grant.job.id = some job
  held : grant.Held origin beat job
  recent : services.elapsed ≤ beat + grant.agent.heartbeat.milliseconds

/-- All that the action can come to, unless a time lies outside the calendar. -/
def Leads (grant : Grant) (origin : Instant) (action : Action (Progress Assignment))
    (actor : Actor) (services : Services) : Prop :=
  ∀ progress after, action actor services = (.done progress, after) →
    Services.Untaken grant.job.id services after ∧
      grant.Leaves origin services.elapsed after.store progress

namespace Stands

open BuildFleet.Action Services Assignment

variable {services : Services} {actor : Actor} {assignment : Assignment} {handle : BuildHandle}

theorem live (stands : grant.Stands origin services beat job) :
    job.leaseLive services.now = true :=
  stands.held.live stands.healthy stands.clock stands.recent

/-- A heartbeat extends the lease from now on. -/
theorem heartbeat_done (stands : grant.Stands origin services beat job)
    {answer : Except Failure Instant} {after : Services}
    (done : (Services.heartbeat grant.job.id grant.agent.info.id).attempt actor services =
      (.done answer, after)) :
    ∃ expiry, answer = .ok expiry ∧ Untaken grant.job.id services after ∧
      after.store.job? grant.job.id = some (job.renewedUntil expiry services.now) ∧
      grant.Held origin services.elapsed (job.renewedUntil expiry services.now) := by
  rcases heartbeat_beats (unforeseen_of_unplanned stands.unplanned _) stands.found done with
    ⟨beats, untaken⟩
  cases beats with
  | extended _ _ ends found =>
      exact ⟨_, rfl, untaken, found, stands.held.renewed stands.clock (stands.held.leaseMs ▸ ends)⟩
  | rejected unheld =>
      have dead := unheld stands.held.owner
      rw [stands.live] at dead
      cases dead

theorem begins (stands : grant.Stands origin services beat job)
    (addressed : assignment.id = grant.job.id) (builds : BuildScripts)
    (work : assignment.work = .beginning grant.job)
    (soon : services.elapsed = grant.claimedAt) :
    grant.Leads origin (assignment.step builds grant.agent false) actor services := by
  intro progress after done
  simp only [Assignment.step, work, addressed] at done
  rcases bind_eq_done done with ⟨elapsed, middle, reads, rest⟩
  cases reads
  rcases bind_eq_done rest with ⟨answer, left, beats, ends⟩
  rcases stands.heartbeat_done beats with ⟨expiry, rfl, untaken, found, held⟩
  cases ends
  exact ⟨untaken, .goesOn found held (Nat.le_add_right _ _)
    (.spawning (work_observe _ work rfl) rfl soon rfl) trivial⟩

theorem spawns (stands : grant.Stands origin services beat job) {builds : BuildScripts}
    (scripted : builds (grant.agent.buildSpec grant.job) = grant.script)
    (work : assignment.work = .spawning (grant.agent.buildSpec grant.job))
    (running : job.status = .running) (soon : services.elapsed = grant.claimedAt)
    (fresh : beat = services.elapsed) :
    grant.Leads origin (assignment.step builds grant.agent false) actor services := by
  intro progress after done
  simp only [Assignment.step, work, scripted] at done
  rcases bind_eq_done done with ⟨elapsed, middle, reads, rest⟩
  cases reads
  rcases bind_eq_done rest with ⟨_, left, notes, ends⟩
  cases notes
  cases ends
  refine ⟨(Untaken.refl services).record _ rfl,
    .goesOn stands.found stands.held stands.recent ?_ trivial⟩
  cases spawned : grant.script.spawnFailure with
  | none =>
      refine .openingLogs (work_observe (.openingLogs ⟨grant.job.id, "", ""⟩) rfl ?_)
        running soon fresh rfl spawned
      rw [BuildScript.spawn, spawned]
      rfl
  | some failure =>
      refine .reporting (work_observe (.reporting grant.verdict Backoff.standard) rfl ?_)
        running
      rw [BuildScript.spawn, spawned, verdict, buildResult, spawned]
      rfl

theorem opensLogs (stands : grant.Stands origin services beat job) (builds : BuildScripts)
    (work : assignment.work = .openingLogs handle) (running : job.status = .running)
    (soon : services.elapsed = grant.claimedAt) (fresh : beat = services.elapsed)
    (script : assignment.script = grant.script) (spawned : grant.script.spawnFailure = none) :
    grant.Leads origin (assignment.step builds grant.agent false) actor services := by
  intro progress after done
  simp only [Assignment.step, work, if_neg stands.healthy.heartbeat_ne] at done
  rcases bind_eq_done done with ⟨elapsed, middle, reads, rest⟩
  cases reads
  rcases bind_eq_done rest with ⟨_, left, notes, ends⟩
  cases notes
  cases ends
  refine ⟨(Untaken.refl services).record _ rfl,
    .goesOn stands.found stands.held stands.recent
      (.watching (work_observe _ work rfl) running ⟨script, ?_, ?_, ?_⟩ spawned ?_) trivial⟩
  · show services.elapsed + assignment.script.duration = grant.exitsAt
    rw [soon, script, exitsAt]
  · show firesAt (deadlineAfter services.elapsed grant.agent.buildTimeout) = grant.timesOutAt
    rw [soon]
    unfold firesAt deadlineAfter timesOutAt Span.millisecondsCeiling nanosPerMilli
    omega
  · show Ticker.later services.elapsed grant.agent.heartbeat = _
    rw [fresh]
    exact Ticker.later_whole services.elapsed stands.healthy.wholeHeartbeat
  · rw [soon]
    exact grant.claimedAt_le_endsAt

theorem renews (stands : grant.Stands origin services beat job)
    (addressed : assignment.id = grant.job.id) (builds : BuildScripts)
    (work : assignment.work = .extending handle)
    (timed : grant.Timed services.elapsed assignment)
    (spawned : grant.script.spawnFailure = none) (intime : services.elapsed ≤ grant.endsAt) :
    grant.Leads origin (assignment.step builds grant.agent false) actor services := by
  intro progress after done
  simp only [Assignment.step, work, addressed] at done
  rcases bind_eq_done done with ⟨elapsed, middle, reads, rest⟩
  cases reads
  rcases bind_eq_done rest with ⟨answer, left, beats, ends⟩
  rcases stands.heartbeat_done beats with ⟨expiry, rfl, untaken, found, held⟩
  cases ends
  exact ⟨untaken, .goesOn found held (Nat.le_add_right _ _)
    (.noting (work_observe _ work rfl) rfl (timed.observe _ _) spawned intime) trivial⟩

theorem notes (stands : grant.Stands origin services beat job) (builds : BuildScripts)
    (work : assignment.work = .noting handle) (running : job.status = .running)
    (timed : grant.Timed beat assignment) (spawned : grant.script.spawnFailure = none)
    (intime : services.elapsed ≤ grant.endsAt) :
    grant.Leads origin (assignment.step builds grant.agent false) actor services := by
  intro progress after done
  simp only [Assignment.step, work] at done
  rcases bind_eq_done done with ⟨elapsed, middle, reads, rest⟩
  cases reads
  rcases bind_eq_done rest with ⟨answer, left, records, ends⟩
  have performed := perform_unforeseen (.store (.recordWorker grant.agent.info)) actor
    (unforeseen_of_unplanned stands.unplanned _)
  rcases attempt_eq_done records with ⟨_, rfl, answered⟩ | ⟨failure, _, answered⟩
  · cases performed.symm.trans answered
    cases ends
    exact ⟨(Untaken.of_eq rfl).record _ rfl, .goesOn stands.found stands.held stands.recent
      (.watching (work_observe _ work rfl) running (timed.observe _ _) spawned intime) trivial⟩
  · cases performed.symm.trans answered

theorem kills (stands : grant.Stands origin services beat job) (builds : BuildScripts)
    (work : assignment.work = .killing handle .timedOut) (running : job.status = .running)
    (spawned : grant.script.spawnFailure = none) (late : grant.timesOutAt < grant.exitsAt) :
    grant.Leads origin (assignment.step builds grant.agent false) actor services := by
  intro progress after done
  simp only [Assignment.step, work] at done
  rcases bind_eq_done done with ⟨elapsed, middle, reads, rest⟩
  cases reads
  rcases bind_eq_done rest with ⟨_, left, kills, ends⟩
  cases kills
  cases ends
  refine ⟨(Untaken.refl services).record _ rfl, .goesOn stands.found stands.held stands.recent
    (.reporting (work_observe (.reporting grant.verdict Backoff.standard) work ?_)
      running) trivial⟩
  rw [verdict, buildResult, spawned]
  simp only [if_neg (Nat.not_le.mpr late)]
  rfl

theorem reports (stands : grant.Stands origin services beat job)
    (addressed : assignment.id = grant.job.id) (builds : BuildScripts) {backoff : Backoff}
    (work : assignment.work = .reporting grant.verdict backoff)
    (running : job.status = .running) :
    grant.Leads origin (assignment.step builds grant.agent false) actor services := by
  intro progress after done
  simp only [Assignment.step, work, addressed] at done
  rcases bind_eq_done done with ⟨elapsed, middle, reads, rest⟩
  cases reads
  rcases bind_eq_done rest with ⟨answer, left, completes, ends⟩
  have applied : job.complete grant.agent.info.id grant.verdict services.now =
      (.done .applied, job.endedWith grant.verdict services.now) := by
    have owned := Job.ownedBy_iff.mpr stands.held.owner
    rw [Job.complete, owned, stands.live, running, if_neg (by decide), if_neg (by decide)]
    rfl
  rcases perform_on_job (.complete grant.agent.info.id grant.verdict) actor
      (unforeseen_of_unplanned stands.unplanned _)
    stands.found with ⟨after, performed, found, untaken⟩
  rw [Job.perform, applied] at performed found untaken
  rcases attempt_eq_done completes with ⟨_, rfl, answered⟩ | ⟨failure, _, answered⟩
  · cases performed.symm.trans answered
    cases ends
    exact ⟨untaken rfl, .completed found
      ⟨stands.held.owner, rfl, rfl, stands.held.attempts⟩⟩
  · cases performed.symm.trans answered

/-- The watch over a build ends with the first of its timers, and an end by itself
comes before the time limit. -/
theorem watches (stands : grant.Stands origin services beat job) (builds : BuildScripts)
    (work : assignment.work = .watching handle) (running : job.status = .running)
    (timed : grant.Timed beat assignment) (spawned : grant.script.spawnFailure = none)
    (intime : services.elapsed ≤ grant.endsAt) :
    grant.Leads origin (assignment.step builds grant.agent false) actor services := by
  intro progress after done
  simp only [Assignment.step, work] at done
  rcases bind_eq_done done with ⟨elapsed, middle, reads, rest⟩
  cases reads
  have leads : grant.OnCourse services.elapsed beat job progress.state →
      Prompt services.elapsed progress →
        grant.Leaves origin services.elapsed services.store progress :=
    .goesOn stands.found stands.held stands.recent
  have early : services.elapsed ≤ min assignment.exitsAt (firesAt assignment.deadline) := by
    rw [timed.exitsAt, timed.deadline, ← endsAt_spawned spawned]
    exact intime
  have noticed := assignment.noticed services.elapsed
  generalize assignment.signal? false services.elapsed = signal at noticed rest
  cases noticed with
  | exited ended =>
      rcases bind_eq_done rest with ⟨_, left, notes, ends⟩
      cases notes
      cases ends
      have first : grant.exitsAt ≤ grant.timesOutAt := by
        rw [← timed.exitsAt, ← timed.deadline]
        omega
      refine ⟨(Untaken.refl services).record _ rfl, leads
        (.reporting (work_observe (.reporting grant.verdict Backoff.standard) rfl ?_) running)
        trivial⟩
      rw [timed.script, verdict, buildResult, spawned]
      simp only [if_pos first]
      cases grant.script.exit <;> rfl
  | deadline runs late =>
      cases rest
      have first : grant.timesOutAt < grant.exitsAt := by
        rw [← timed.exitsAt, ← timed.deadline]
        omega
      exact ⟨.refl services, leads (.killing (work_observe _ rfl rfl) running spawned first)
        trivial⟩
  | tick runs intimeToo due =>
      cases rest
      have now : services.elapsed = beat + grant.agent.heartbeat.milliseconds :=
        Nat.le_antisymm stands.recent (timed.dueAt ▸ due)
      exact ⟨.refl services, leads (.extending (work_observe _ rfl rfl) running
        (timed.next stands.healthy now _) spawned intime) trivial⟩
  | nothing early =>
      cases rest
      exact ⟨.refl services, leads (.watching work running timed spawned intime)
        ⟨_, by rw [Assignment.wakesAt, work], early⟩⟩

/-- Every step from a stage on the course leads on. -/
theorem step (stands : grant.Stands origin services beat job)
    (addressed : assignment.id = grant.job.id) {builds : BuildScripts}
    (scripted : builds (grant.agent.buildSpec grant.job) = grant.script)
    (course : grant.OnCourse services.elapsed beat job assignment) (actor : Actor) :
    grant.Leads origin (assignment.step builds grant.agent false) actor services := by
  cases course with
  | beginning work soon => exact stands.begins addressed builds work soon
  | spawning work running soon fresh => exact stands.spawns scripted work running soon fresh
  | openingLogs work running soon fresh script spawned =>
      exact stands.opensLogs builds work running soon fresh script spawned
  | watching work running timed spawned intime =>
      exact stands.watches builds work running timed spawned intime
  | extending work running timed spawned intime =>
      exact stands.renews addressed builds work timed spawned intime
  | noting work running timed spawned intime =>
      exact stands.notes builds work running timed spawned intime
  | killing work running spawned late => exact stands.kills builds work running spawned late
  | reporting work running => exact stands.reports addressed builds work running

end Stands

end Grant

end BuildFleet
