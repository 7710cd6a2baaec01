import BuildFleet.Proofs.Agent.Exchanges
import BuildFleet.Proofs.Services.Parting

/-!
# The watch over a build

From the first heartbeat on an agent watches over its build. Its next heartbeat is due one
interval after the last one that was accepted, and a heartbeat that is rejected ends the
watch, as the end of the build does.
-/

namespace BuildFleet

/-- The agent sends heartbeats, and sends them at whole milliseconds. -/
structure Agent.Paced (agent : Agent) : Prop where
  whole : agent.heartbeat.nanoseconds % nanosPerMilli = 0
  beats : 0 < agent.heartbeat.nanoseconds

/-- The build has been started, and the agent has not yet got rid of it. -/
def Work.Builds : Work → Prop
  | .openingLogs _ | .watching _ | .extending _ | .noting _ | .killing _ _ => True
  | _ => False

/-- The agent is about to start the build, or it has been started. -/
def Work.Underway : Work → Prop
  | .spawning _ => True
  | work => work.Builds

theorem Work.Builds.underway {work : Work} (builds : work.Builds) : work.Underway := by
  cases work <;> first | exact builds | trivial

theorem Work.not_underway_report (agent : Agent) (result : JobResult) :
    ¬ (Work.report agent result).Underway := id

namespace Services

variable {id : JobId} {worker : WorkerId} {actor : Actor} {services after : Services}

theorem found_of_heartbeat {expiry : Instant}
    (asks : (heartbeat id worker).attempt actor services = (.done (.ok expiry), after)) :
    ∃ job, services.store.job? id = some job := by
  cases found : services.store.job? id with
  | some job => exact ⟨job, rfl⟩
  | none =>
      exfalso
      have missing : (services.store.perform services.settings services.now
        ((JobCall.heartbeat worker).on id)).1 = _ := Store.perform_on_missing found _
      rcases Action.attempt_eq_done asks with ⟨other, same, answered⟩ | ⟨failure, same, answered⟩
      · rcases perform_eq (.store (.heartbeat id worker)) actor services with
          ⟨plans, ⟨failure, failed⟩ | carried⟩
        · cases failed.symm.trans answered
        · have outcome := congrArg Prod.fst (carried.symm.trans answered)
          cases missing.symm.trans outcome
      · cases same

end Services

namespace Assignment

variable {builds : BuildScripts} {agent : Agent} {interrupted : Bool} {actor : Actor}
  {services after : Services} {assignment : Assignment} {progress : Progress Assignment}
  {beat elapsed : Nat} {job : Job}

/-! ## The stages of the watch -/

/-- The next heartbeat is due at this millisecond. -/
def TicksAt (agent : Agent) (milliseconds : Nat) (assignment : Assignment) : Prop :=
  assignment.heartbeats = ⟨milliseconds * nanosPerMilli, agent.heartbeat⟩

/-- Where an agent is that watches over a build, its last heartbeat having been accepted at
this millisecond. -/
def Watchful (agent : Agent) (beat elapsed : Nat) (assignment : Assignment) : Prop :=
  let next := beat + agent.heartbeat.milliseconds
  match assignment.work with
  | .spawning _ | .openingLogs _ => elapsed = beat
  | .watching _ | .noting _ => assignment.TicksAt agent next ∧ beat ≤ elapsed ∧ elapsed ≤ next
  | .extending _ =>
    assignment.TicksAt agent (elapsed + agent.heartbeat.milliseconds) ∧ elapsed = next
  | .killing _ _ => beat ≤ elapsed ∧ elapsed ≤ next
  | _ => False

theorem observe_eq {event : WorkEvent} {stage later : Work} (work : assignment.work = stage)
    (next : stage.after agent event = some later) :
    assignment.observe agent event = { assignment with work := later } := by
  rw [observe, work, next]
  rfl

theorem watchful_of_work {stage : Work} (work : assignment.work = stage)
    (holds : Watchful agent beat elapsed { assignment with work := stage }) :
    assignment.Watchful agent beat elapsed := by
  rcases assignment with ⟨id, before, script, exitsAt, deadline, heartbeats, resumesAt⟩
  cases work
  exact holds

namespace Watchful

theorem recent (watchful : assignment.Watchful agent beat elapsed) :
    beat ≤ elapsed ∧ elapsed ≤ beat + agent.heartbeat.milliseconds := by
  unfold Watchful at watchful
  cases work : assignment.work <;> rw [work] at watchful <;> dsimp only at watchful <;> omega

theorem underway (watchful : assignment.Watchful agent beat elapsed) :
    assignment.work.Underway := by
  unfold Watchful at watchful
  cases work : assignment.work <;> rw [work] at watchful <;> trivial

/-- Only while it watches an agent waits, and then no longer than to the next heartbeat. -/
theorem waits (watchful : assignment.Watchful agent beat elapsed) {timer later : Nat}
    (due : assignment.wakesAt = some timer) (forward : elapsed ≤ later) (punctual : later ≤ timer) :
    assignment.Watchful agent beat later := by
  unfold wakesAt at due
  cases work : assignment.work with
  | watching handle =>
      rw [work] at due
      cases due
      rw [Watchful, work] at watchful
      rcases watchful with ⟨ticks, past, soon⟩
      have fires : firesAt assignment.heartbeats.due = beat + agent.heartbeat.milliseconds := by
        rw [ticks, firesAt_whole]
      refine watchful_of_work work ⟨ticks, Nat.le_trans past forward, ?_⟩
      omega
  | pausing result delay backoff =>
      have underway := watchful.underway
      rw [work] at underway
      cases underway
  | _ =>
      rw [work] at due
      cases due

end Watchful

/-! ## One step of the watch -/

/-- What a step of the watch comes to. -/
inductive Watches (agent : Agent) (services : Services) (assignment : Assignment) (beat : Nat)
    (job : Job) (progress : Progress Assignment) (after : Services) : Prop
  | goesOn (watchful : progress.state.Watchful agent beat services.elapsed)
      (prompt : Grant.Prompt services.elapsed progress)
      (same : after.store.job? assignment.id = services.store.job? assignment.id)
  | extended {expiry : Instant} (owned : job.owner = some agent.info.id)
      (live : job.leaseLive services.now = true)
      (ends : services.now.addMilliseconds? job.leaseMs = some expiry)
      (found : after.store.job? assignment.id = some (job.renewedUntil expiry services.now))
      (watchful : progress.state.Watchful agent services.elapsed services.elapsed)
      (prompt : Grant.Prompt services.elapsed progress)
  | stops (ended : ¬ progress.state.work.Underway)

theorem signal?_cases {signal : BuildSignal} {heartbeats : Ticker}
    (noticed : assignment.signal? interrupted elapsed = some (signal, heartbeats)) :
    heartbeats = assignment.heartbeats ∧ signal ≠ .tick ∨
      signal = .tick ∧ firesAt assignment.heartbeats.due ≤ elapsed ∧
        heartbeats = assignment.heartbeats.next elapsed := by
  unfold signal? at noticed
  split at noticed
  · cases noticed
    exact .inl ⟨rfl, nofun⟩
  · split at noticed
    · cases noticed
      exact .inl ⟨rfl, nofun⟩
    · split at noticed
      · cases noticed
        exact .inl ⟨rfl, nofun⟩
      · split at noticed
        · rename_i due
          cases noticed
          exact .inr ⟨rfl, of_decide_eq_true due, rfl⟩
        · cases noticed

/-- A tick is noticed on time, so the next one follows after a whole interval. -/
theorem TicksAt.next (paced : agent.Paced) (ticks : assignment.TicksAt agent elapsed) :
    assignment.heartbeats.next elapsed =
      ⟨(elapsed + agent.heartbeat.milliseconds) * nanosPerMilli, agent.heartbeat⟩ := by
  rw [ticks]
  exact Ticker.next_whole elapsed paced.whole

theorem Watchful.signalled {handle : BuildHandle} {signal : BuildSignal} {heartbeats : Ticker}
    (paced : agent.Paced) (work : assignment.work = .watching handle)
    (watchful : assignment.Watchful agent beat services.elapsed)
    (noticed : assignment.signal? interrupted services.elapsed = some (signal, heartbeats)) :
    Watches agent services assignment beat job
      (.goesOn ({ assignment with heartbeats }.observe agent (.signalled signal)))
      (services.tell actor assignment.id signal) := by
  rw [Watchful, work] at watchful
  rcases watchful with ⟨ticks, past, soon⟩
  have next : { assignment with heartbeats }.observe agent (.signalled signal) =
      { assignment with heartbeats, work := Work.afterSignal agent handle signal } :=
    observe_eq work rfl
  rw [next]
  rcases signal?_cases noticed with ⟨_, untimely⟩ | ⟨rfl, due, rfl⟩
  · cases signal with
    | shutdown | deadline => exact .goesOn ⟨past, soon⟩ trivial rfl
    | exited outcome => cases outcome <;> exact .stops (Work.not_underway_report _ _)
    | tick => exact absurd rfl untimely
  · have onTime : services.elapsed = beat + agent.heartbeat.milliseconds := by
      rw [ticks, firesAt_whole] at due
      omega
    exact .goesOn ⟨(onTime ▸ ticks).next paced, onTime⟩ trivial rfl

theorem job?_recordWorker {id : JobId} {info : WorkerInfo} {answer : Except Failure Unit}
    (asks : (Services.recordWorker info).attempt actor services = (.done answer, after)) :
    after.store.job? id = services.store.job? id := by
  have left : after = (Services.recordWorker info actor services).2 := by
    rw [← Action.attempt_services, asks]
  rcases Services.perform_carried_or_failed (.store (.recordWorker info)) actor services with
    ⟨later, ⟨performed, store, _⟩ | ⟨failure, performed, store, _⟩⟩
  · rw [left, Services.recordWorker, performed, store]
    rfl
  · rw [left, Services.recordWorker, performed, store]

/-- A step of the watch keeps it up, or it ends. -/
theorem Watchful.step (paced : agent.Paced)
    (unforeseen : ∀ plan ∈ services.plans, plan.call ≠ "heartbeat")
    (found : services.store.job? assignment.id = some job)
    (watchful : assignment.Watchful agent beat services.elapsed)
    (worked : assignment.Worked builds agent interrupted actor services progress after) :
    Watches agent services assignment beat job progress after := by
  have underway := watchful.underway
  cases worked with
  | @spawned spec work =>
      rw [Watchful, work] at watchful
      have next : { assignment with script := builds spec }.observe agent
          (.spawned ((builds spec).spawn spec)) = { assignment with
            script := builds spec, work := Work.afterSpawn agent ((builds spec).spawn spec) } :=
        observe_eq work rfl
      rw [next]
      cases (builds spec).spawn spec with
      | ok handle => exact .goesOn watchful trivial rfl
      | error failure => exact .stops (Work.not_underway_report _ _)
  | @opened handle work =>
      rw [Watchful, work] at watchful
      have begins : services.elapsed = beat := watchful
      have timed : (assignment.startTimers agent services.elapsed).work = .openingLogs handle :=
        work
      rw [observe_eq timed rfl]
      refine .goesOn ⟨?_, Nat.le_of_eq begins.symm, begins ▸ Nat.le_add_right _ _⟩ trivial rfl
      exact begins ▸ Ticker.later_whole services.elapsed paced.whole
  | signalled work noticed => exact watchful.signalled paced work noticed
  | watches work quiet =>
      refine .goesOn watchful ⟨_, ?_, lt_of_no_signal quiet⟩ rfl
      rw [wakesAt, work]
  | extended work asks =>
      rw [Watchful, work] at watchful
      rcases watchful with ⟨ticks, due⟩
      cases (Services.heartbeat_beats unforeseen found asks).1 with
      | extended owned live ends foundAfter =>
          refine .extended owned live ends foundAfter ?_ trivial
          rw [observe_eq work rfl]
          exact ⟨ticks, Nat.le_refl _, Nat.le_add_right _ _⟩
      | rejected _ foundAfter =>
          refine .goesOn ?_ trivial (foundAfter.trans found.symm)
          rw [observe_eq work rfl]
          exact ⟨due ▸ Nat.le_add_right _ _, Nat.le_of_eq due⟩
  | noted work asks =>
      rw [Watchful, work] at watchful
      refine .goesOn ?_ trivial (job?_recordWorker asks)
      rw [observe_eq work rfl]
      exact watchful
  | @killed handle reason work =>
      rw [observe_eq work rfl]
      cases reason <;> exact .stops fun never => never
  | claimed work | began work | reported work | paused work | pauses work | rests work =>
      -- At these stages there is no watch.
      rw [work] at underway
      cases underway

/-- Work comes to be underway by the first heartbeat, if it is accepted. -/
theorem Worked.underway_before
    (worked : assignment.Worked builds agent interrupted actor services progress after)
    (underway : progress.state.work.Underway) : assignment.work.Underway ∨
      ∃ job expiry, assignment.work = .beginning job ∧
        (Services.heartbeat assignment.id agent.info.id).attempt actor services =
          (.done (.ok expiry), after) ∧
        progress = .goesOn { assignment with work := .spawning (agent.buildSpec job) } := by
  cases worked with
  | @claimed answer _ work =>
      rw [Progress.state, observe_eq work rfl] at underway
      rcases answer with failure | job
      · cases failure <;> cases underway
      · cases underway
  | @began job answer _ work asks =>
      rw [Progress.state, observe_eq work rfl] at underway
      rcases answer with failure | expiry
      · cases failure <;> cases underway
      · exact .inr ⟨job, expiry, work, asks, congrArg Progress.goesOn (observe_eq work rfl)⟩
  | spawned work | opened work | signalled work | watches work | extended work | noted work
  | killed work => exact .inl (work ▸ trivial)
  | @reported result backoff answer _ work asks =>
      have next : ((assignment.observe agent (.reported answer)).startPause services.elapsed).work =
          Work.afterReport result backoff answer :=
        (startPause_work _ _).trans (work_observe _ work rfl)
      rw [Progress.state, next] at underway
      unfold Work.afterReport at underway
      split at underway
      · cases underway
      · cases underway
      · split at underway <;> cases underway
  | paused work =>
      cases interrupted <;> rw [Progress.state, observe_eq work rfl] at underway <;> cases underway
  | pauses work | rests work =>
      rw [Progress.state, work] at underway
      cases underway

end Assignment

end BuildFleet
