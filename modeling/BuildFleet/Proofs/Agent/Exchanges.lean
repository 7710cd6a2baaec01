import BuildFleet.Proofs.Agent.Dialogue
import BuildFleet.Proofs.Fleet.Course

/-!
# Steps of an agent's work

`Assignment.Worked` lists all that a step of an assignment can be: an exchange of
the work, told in the journal as far as anything was asked or noticed, or a wait that
changes nothing.
-/

namespace BuildFleet

/-- Tell of the end of a build that the agent has noticed. -/
def Services.tell (services : Services) (actor : Actor) (id : JobId) :
    BuildSignal → Services
  | .exited outcome => services.record actor (.finished id outcome)
  | _ => services

/-- What the journal tells of an exchange about a job. -/
def WorkExchange.happening? (agent : Agent) (id : JobId) (exchange : WorkExchange) :
    Option Happening :=
  match exchange.stage, exchange.event with
  | .claiming, .claimed answer =>
    some (.called (.store (.claim id agent.info.id agent.lease)) (.ofExcept answer))
  | .beginning _, .heartbeat answer | .extending _, .heartbeat answer =>
    some (.called (.store (.heartbeat id agent.info.id)) (.ofExcept answer))
  | .spawning spec, .spawned answer => some (.spawned spec answer)
  | .openingLogs _, .openedLogs answer => some (.openedLogs id answer)
  | .watching _, .signalled (.exited outcome) => some (.finished id outcome)
  | .noting _, .noted answer =>
    some (.called (.store (.recordWorker agent.info)) (.ofExcept answer))
  | .killing _ _, .killed answer => some (.killed id answer)
  | .reporting result _, .reported answer =>
    some (.called (.store (.complete id agent.info.id result)) (.ofExcept answer))
  | _, _ => none

namespace Assignment

open BuildFleet.Action

variable {builds : BuildScripts} {agent : Agent} {interrupted : Bool} {actor : Actor}
  {services after : Services} {assignment : Assignment} {progress : Progress Assignment}

/-- All that a step can come to. -/
inductive Worked (builds : BuildScripts) (agent : Agent) (interrupted : Bool) (actor : Actor)
    (services : Services) (assignment : Assignment) : Progress Assignment → Services → Prop
  | claimed {answer : Except Failure Job} {after : Services} (work : assignment.work = .claiming)
      (asks : (Services.claim assignment.id agent.info.id agent.lease).attempt actor services =
        (.done answer, after)) :
      Worked builds agent interrupted actor services assignment
        (.goesOn (assignment.observe agent (.claimed answer))) after
  | began {job : Job} {answer : Except Failure Instant} {after : Services}
      (work : assignment.work = .beginning job)
      (asks : (Services.heartbeat assignment.id agent.info.id).attempt actor services =
        (.done answer, after)) :
      Worked builds agent interrupted actor services assignment
        (.goesOn (assignment.observe agent (.heartbeat answer))) after
  | spawned {spec : BuildSpec} (work : assignment.work = .spawning spec) :
      Worked builds agent interrupted actor services assignment
        (.goesOn ({ assignment with script := builds spec }.observe agent
          (.spawned ((builds spec).spawn spec))))
        (services.record actor (.spawned spec ((builds spec).spawn spec)))
  | opened {handle : BuildHandle} (work : assignment.work = .openingLogs handle) :
      Worked builds agent interrupted actor services assignment
        (.goesOn ((assignment.startTimers agent services.elapsed).observe agent
          (.openedLogs assignment.script.openLogs)))
        (services.record actor (.openedLogs assignment.id assignment.script.openLogs))
  | signalled {handle : BuildHandle} {signal : BuildSignal} {heartbeats : Ticker}
      (work : assignment.work = .watching handle)
      (noticed : assignment.signal? interrupted services.elapsed = some (signal, heartbeats)) :
      Worked builds agent interrupted actor services assignment
        (.goesOn ({ assignment with heartbeats }.observe agent (.signalled signal)))
        (services.tell actor assignment.id signal)
  | watches {handle : BuildHandle} (work : assignment.work = .watching handle)
      (quiet : assignment.signal? interrupted services.elapsed = none) :
      Worked builds agent interrupted actor services assignment (.waits assignment) services
  | extended {handle : BuildHandle} {answer : Except Failure Instant} {after : Services}
      (work : assignment.work = .extending handle)
      (asks : (Services.heartbeat assignment.id agent.info.id).attempt actor services =
        (.done answer, after)) :
      Worked builds agent interrupted actor services assignment
        (.goesOn (assignment.observe agent (.heartbeat answer))) after
  | noted {handle : BuildHandle} {answer : Except Failure Unit} {after : Services}
      (work : assignment.work = .noting handle)
      (asks : (Services.recordWorker agent.info).attempt actor services = (.done answer, after)) :
      Worked builds agent interrupted actor services assignment
        (.goesOn (assignment.observe agent (.noted answer))) after
  | killed {handle : BuildHandle} {reason : KillReason}
      (work : assignment.work = .killing handle reason) :
      Worked builds agent interrupted actor services assignment
        (.goesOn (assignment.observe agent (.killed assignment.script.kill)))
        (services.record actor (.killed assignment.id assignment.script.kill))
  | reported {result : JobResult} {backoff : Backoff} {answer : Except Failure Unit}
      {after : Services} (work : assignment.work = .reporting result backoff)
      (asks : (Services.complete assignment.id agent.info.id result).attempt actor services =
        (.done answer, after)) :
      Worked builds agent interrupted actor services assignment
        (.goesOn ((assignment.observe agent (.reported answer)).startPause services.elapsed)) after
  | paused {result : JobResult} {delay : Span} {backoff : Backoff}
      (work : assignment.work = .pausing result delay backoff)
      (passed : interrupted = true ∨ assignment.resumesAt ≤ services.elapsed) :
      Worked builds agent interrupted actor services assignment
        (.goesOn (assignment.observe agent (.paused interrupted))) services
  | pauses {result : JobResult} {delay : Span} {backoff : Backoff}
      (work : assignment.work = .pausing result delay backoff) :
      Worked builds agent interrupted actor services assignment (.waits assignment) services
  | rests {outcome : Except Failure JobOutcome} (work : assignment.work = .ended outcome) :
      Worked builds agent interrupted actor services assignment (.waits assignment) services

theorem step_worked
    (done : assignment.step builds agent interrupted actor services = (.done progress, after)) :
    assignment.Worked builds agent interrupted actor services progress after := by
  rcases assignment with ⟨id, work, script, exitsAt, deadline, heartbeats, resumesAt⟩
  unfold step at done
  rcases bind_eq_done done with ⟨elapsed, middle, reads, rest⟩
  cases reads
  cases work with
  | claiming =>
      rcases bind_eq_done rest with ⟨answer, left, asks, ends⟩
      cases ends
      exact .claimed rfl asks
  | beginning job =>
      rcases bind_eq_done rest with ⟨answer, left, asks, ends⟩
      cases ends
      exact .began rfl asks
  | spawning spec =>
      rcases bind_eq_done rest with ⟨_, left, notes, ends⟩
      cases notes
      cases ends
      exact .spawned rfl
  | openingLogs handle =>
      rcases bind_eq_done rest with ⟨_, left, notes, opened⟩
      cases notes
      split at opened
      · rcases bind_eq_done opened with ⟨_, _, stops, _⟩
        cases stops
      · cases opened
        exact .opened rfl
  | watching handle =>
      dsimp only at rest
      generalize noticed : signal? interrupted services.elapsed _ = signalled at rest
      cases signalled with
      | none =>
          cases rest
          exact .watches rfl noticed
      | some signalled =>
          rcases signalled with ⟨_ | outcome | _ | _, heartbeats⟩
          · cases rest
            exact .signalled rfl noticed
          · rcases bind_eq_done rest with ⟨_, left, notes, ends⟩
            cases notes
            cases ends
            exact .signalled rfl noticed
          · cases rest
            exact .signalled rfl noticed
          · cases rest
            exact .signalled rfl noticed
  | extending handle =>
      rcases bind_eq_done rest with ⟨answer, left, asks, ends⟩
      cases ends
      exact .extended rfl asks
  | noting handle =>
      rcases bind_eq_done rest with ⟨answer, left, asks, ends⟩
      cases ends
      exact .noted rfl asks
  | killing handle reason =>
      rcases bind_eq_done rest with ⟨_, left, notes, ends⟩
      cases notes
      cases ends
      exact .killed rfl
  | reporting result backoff =>
      rcases bind_eq_done rest with ⟨answer, left, asks, ends⟩
      cases ends
      exact .reported rfl asks
  | pausing result delay backoff =>
      cases interrupted with
      | true =>
          cases rest
          exact .paused rfl (.inl rfl)
      | false =>
          dsimp only at rest
          rw [if_neg Bool.false_ne_true] at rest
          split at rest
          · rename_i passed
            cases rest
            exact .paused rfl (.inr passed)
          · cases rest
            exact .pauses rfl
  | ended outcome =>
      cases rest
      exact .rests rfl

/-! ## Steps and exchanges -/

/-- The journal tells of a call that was attempted, and what was answered. -/
theorem journal_of_attempt {call : Call} {answer : Except Failure call.Answer}
    (asks : (Services.perform call).attempt actor services = (.done answer, after)) :
    after.journal = ⟨services.elapsed, actor, .called call (.ofExcept answer)⟩ ::
      services.journal := by
  have journal := Services.journal_perform call actor services
  rcases attempt_eq_done asks with ⟨value, rfl, performed⟩ | ⟨failure, rfl, performed⟩
  · rw [performed] at journal
    exact journal
  · rw [performed] at journal
    exact journal

theorem startPause_work (assignment : Assignment) (elapsed : Nat) :
    (assignment.startPause elapsed).work = assignment.work := by
  unfold startPause
  split <;> rfl

theorem after_observe {event : WorkEvent}
    (belongs : (assignment.work.after agent event).isSome = true) :
    assignment.work.after agent event = some (assignment.observe agent event).work := by
  rcases Option.isSome_iff_exists.mp belongs with ⟨later, leads⟩
  rw [work_observe later rfl leads, leads]

/-- A step of an assignment is an exchange of its work, which the journal tells of, or a
wait. -/
theorem Worked.exchange
    (worked : assignment.Worked builds agent interrupted actor services progress after) :
    progress = .waits assignment ∧ after = services ∨ ∃ event,
      assignment.work.after agent event = some progress.state.work ∧
        after.journal = ((WorkExchange.happening? agent assignment.id ⟨assignment.work, event⟩).map
          (Entry.mk services.elapsed actor)).toList ++ services.journal := by
  cases worked with
  | claimed work asks =>
      exact .inr ⟨.claimed _, after_observe (by rw [work]; rfl),
        by rw [work]; exact journal_of_attempt asks⟩
  | began work asks =>
      exact .inr ⟨.heartbeat _, after_observe (by rw [work]; rfl),
        by rw [work]; exact journal_of_attempt asks⟩
  | @spawned spec work =>
      exact .inr ⟨.spawned ((builds spec).spawn spec), after_observe (by rw [work]; rfl),
        by rw [work]; rfl⟩
  | opened work =>
      have belongs : ((assignment.startTimers agent services.elapsed).work.after agent
          (.openedLogs assignment.script.openLogs)).isSome = true := by
        show (assignment.work.after agent _).isSome = true
        rw [work]
        rfl
      exact .inr ⟨_, after_observe belongs, by rw [work]; rfl⟩
  | @signalled handle signal heartbeats work noticed =>
      exact .inr ⟨.signalled signal, after_observe (by rw [work]; rfl),
        by rw [work]; cases signal <;> rfl⟩
  | watches => exact .inl ⟨rfl, rfl⟩
  | extended work asks =>
      exact .inr ⟨.heartbeat _, after_observe (by rw [work]; rfl),
        by rw [work]; exact journal_of_attempt asks⟩
  | noted work asks =>
      exact .inr ⟨.noted _, after_observe (by rw [work]; rfl),
        by rw [work]; exact journal_of_attempt asks⟩
  | killed work =>
      exact .inr ⟨.killed assignment.script.kill, after_observe (by rw [work]; rfl),
        by rw [work]; rfl⟩
  | reported work asks =>
      refine .inr ⟨.reported _, ?_, by rw [work]; exact journal_of_attempt asks⟩
      rw [Progress.state, startPause_work]
      exact after_observe (by rw [work]; rfl)
  | paused work =>
      exact .inr ⟨.paused interrupted, after_observe (by rw [work]; cases interrupted <;> rfl),
        by rw [work]; rfl⟩
  | pauses => exact .inl ⟨rfl, rfl⟩
  | rests => exact .inl ⟨rfl, rfl⟩

theorem Worked.dialogue {first : Work} {past : List WorkExchange}
    (worked : assignment.Worked builds agent interrupted actor services progress after)
    (dialogue : Work.Dialogue agent first past assignment.work) :
    ∃ exchanges, Work.Dialogue agent first (past ++ exchanges) progress.state.work ∧
      after.journal = exchanges.filterMap (fun exchange =>
        (exchange.happening? agent assignment.id).map (Entry.mk services.elapsed actor)) ++
          services.journal := by
  rcases worked.exchange with ⟨rfl, rfl⟩ | ⟨event, leads, told⟩
  · exact ⟨[], by rw [List.append_nil]; exact dialogue, rfl⟩
  · refine ⟨[⟨assignment.work, event⟩], dialogue.goesOn leads, told.trans ?_⟩
    rw [List.filterMap_cons]
    cases WorkExchange.happening? agent assignment.id ⟨assignment.work, event⟩ <;> rfl

end Assignment

end BuildFleet
