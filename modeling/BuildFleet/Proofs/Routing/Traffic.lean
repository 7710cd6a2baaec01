import BuildFleet.Proofs.Routing.Parties

/-!
# Jobs reach workers of their own target

Any number of submissions, scans and agents run side by side on one store and
one queue. Calls fail as planned, parties break off at any point, and others call
the store and take from the queue as they like; only the dispatcher and the
monitor publish. In every state that this leads to, what waits at a target was
made for it, and the agents have claimed jobs of their own targets alone.
-/

namespace BuildFleet

open Services

/-- The parties and the services that they share. -/
structure Traffic where
  services : Services
  submissions : List Dispatcher.Phase
  /-- The monitors, each with how far its scan has come. -/
  scans : List (LeaseMonitor × LeaseMonitor.Phase)
  /-- The agents, each at the place of its number. -/
  agents : List AgentLoop

/-- The agent after a step. One whose step does not come to an end has stopped. -/
def AgentLoop.resumed (loop : AgentLoop) : Outcome (Progress AgentLoop) → AgentLoop
  | .done progress => progress.state
  | _ => { loop with stage := .stopped }

theorem AgentLoop.resumed_continues {loop : AgentLoop} {Known : JobId → Prop}
    {services : Services} (works : loop.WorksOn Known) (builds : BuildScripts)
    (interrupted : Bool) (actor : Actor)
    (waiting : Waiting loop.agent.info.target Known services) :
    (loop.resumed (loop.step builds interrupted actor services).1).agent = loop.agent ∧
      (loop.resumed (loop.step builds interrupted actor services).1).WorksOn Known := by
  have ensures := loop.step_ensures builds interrupted works actor services
  generalize (loop.step builds interrupted actor services).1 = outcome at ensures ⊢
  cases outcome with
  | done progress => exact (ensures progress waiting rfl).2
  | failed failure => exact ⟨rfl, worksOn_idle rfl⟩
  | outOfTime => exact ⟨rfl, worksOn_idle rfl⟩

namespace Traffic

/-- What may happen next. -/
inductive Step : Traffic → Traffic → Prop
  /-- The dispatcher takes up a submission to some targets. -/
  | submit (traffic : Traffic) (payload : Json) (targets : List Target) :
      Step traffic { traffic with
        submissions := traffic.submissions ++ [Dispatcher.begin payload targets] }
  | dispatch (traffic : Traffic) {place : Nat} {phase : Dispatcher.Phase}
      (there : traffic.submissions[place]? = some phase) (fresh : phase.Fresh traffic.services) :
      Step traffic { traffic with
        services := (Dispatcher.turn phase traffic.services).2
        submissions := traffic.submissions.set place (Dispatcher.turn phase traffic.services).1 }
  /-- A submission is broken off. -/
  | withdraw (traffic : Traffic) (place : Nat) :
      Step traffic { traffic with submissions := traffic.submissions.set place .ended }
  | watch (traffic : Traffic) (monitor : LeaseMonitor) :
      Step traffic { traffic with scans := traffic.scans ++ [(monitor, .resting)] }
  | scan (traffic : Traffic) {place : Nat} {monitor : LeaseMonitor} {phase : LeaseMonitor.Phase}
      (there : traffic.scans[place]? = some (monitor, phase)) :
      Step traffic { traffic with
        services := (monitor.turn phase traffic.services).2
        scans := traffic.scans.set place (monitor, (monitor.turn phase traffic.services).1) }
  /-- A scan is broken off. -/
  | rest (traffic : Traffic) (place : Nat) (monitor : LeaseMonitor) :
      Step traffic { traffic with scans := traffic.scans.set place (monitor, .resting) }
  | join (traffic : Traffic) (agent : Agent) :
      Step traffic { traffic with agents := traffic.agents ++ [.start agent] }
  | work (traffic : Traffic) {place : Nat} {loop : AgentLoop}
      (there : traffic.agents[place]? = some loop) (builds : BuildScripts) (interrupted : Bool) :
      Step traffic { traffic with
        services := (loop.step builds interrupted (.agent place) traffic.services).2
        agents := traffic.agents.set place
          (loop.resumed (loop.step builds interrupted (.agent place) traffic.services).1) }
  /-- An agent breaks down. -/
  | leave (traffic : Traffic) {place : Nat} {loop : AgentLoop}
      (there : traffic.agents[place]? = some loop) :
      Step traffic { traffic with
        agents := traffic.agents.set place { loop with stage := .stopped } }
  /-- An agent works on a job that it was told to work on. -/
  | process (traffic : Traffic) (builds : BuildScripts) (agent : Agent) (interrupted : Bool)
      (assignment : Assignment) :
      Step traffic { traffic with
        services := (assignment.step builds agent interrupted .main traffic.services).2 }
  /-- Somebody else makes a call to the store. -/
  | call (traffic : Traffic) {actor : Actor} {call : StoreCall}
      (other : ∀ number, actor ≠ .agent number)
      (proper : traffic.services.Proper (.store call)) :
      Step traffic { traffic with services := (perform (.store call) actor traffic.services).2 }
  /-- Somebody else takes from a queue. -/
  | take (traffic : Traffic) (target : Target) {call : QueueCall}
      (takes : ∀ id, call ≠ .publish id) :
      Step traffic { traffic with services := { traffic.services with
        queue := (traffic.services.queue.perform target call).2 } }
  /-- The clock, the plans for failures and all that is not observed may become others. -/
  | outside (traffic : Traffic) {changed : Services}
      (store : changed.store = traffic.services.store)
      (queue : changed.queue = traffic.services.queue)
      (journal : changed.journal = traffic.services.journal) :
      Step traffic { traffic with services := changed }

/-- The states that a fleet can be in that has started with nothing. -/
inductive Reached : Traffic → Prop
  | start (settings : StoreSettings) (now : Instant) :
      Reached ⟨.start settings now, [], [], []⟩
  | step {traffic next : Traffic} (reached : Reached traffic) (step : Step traffic next) :
      Reached next

/-! ## Whole submissions and scans -/

/-- An identifier that is in use is about to be handed out again. -/
def Clashes (traffic : Traffic) : Prop :=
  ∃ phase ∈ traffic.submissions, ¬ phase.Fresh traffic.services

variable {traffic : Traffic}

/-- The turns of a submission that nothing interrupts lead on, unless an identifier
is handed out twice. -/
theorem Reached.finish_submission {place : Nat} {phase : Dispatcher.Phase} {after : Services}
    (reached : Reached traffic) (there : traffic.submissions[place]? = some phase)
    (finishes : Finishes Dispatcher.turn .ended phase traffic.services after) :
    Reached { traffic with
      services := after, submissions := traffic.submissions.set place .ended } ∨
      ∃ traffic, Reached traffic ∧ traffic.Clashes := by
  generalize here : traffic.services = services at finishes
  induction finishes generalizing traffic with
  | rests =>
      subst here
      exact .inl (reached.step (.withdraw traffic place))
  | @goesOn phase services after later induction =>
      subst here
      by_cases fresh : phase.Fresh traffic.services
      · have next := induction (reached.step (.dispatch traffic there fresh))
          (List.getElem?_set_self (List.getElem?_eq_some_iff.mp there).1) rfl
        rw [List.set_set] at next
        exact next
      · exact .inr ⟨traffic, reached, phase, List.mem_of_getElem? there, fresh⟩

/-- A submission by name is such a run. -/
theorem Reached.submit (reached : Reached traffic) (dispatcher : Dispatcher) (name : String)
    (payload : Json) :
    (∃ submissions, Reached { traffic with
      services := (dispatcher.submit name payload .main traffic.services).2, submissions }) ∨
      ∃ traffic, Reached traffic ∧ traffic.Clashes := by
  rcases dispatcher.submit_finishes name payload traffic.services with ⟨targets, finishes⟩
  have begun := reached.step (.submit traffic payload targets)
  exact (begun.finish_submission List.getElem?_concat_length finishes).imp_left fun after =>
    ⟨_, after⟩

/-- So is a submission by several names at once. -/
theorem Reached.submitAll (reached : Reached traffic) (dispatcher : Dispatcher)
    (names : List String) (payload : Json) :
    (∃ submissions, Reached { traffic with
      services := (dispatcher.submitAll names payload .main traffic.services).2, submissions }) ∨
      ∃ traffic, Reached traffic ∧ traffic.Clashes := by
  rcases dispatcher.submitAll_finishes names payload traffic.services with ⟨targets, finishes⟩
  have begun := reached.step (.submit traffic payload targets)
  exact (begun.finish_submission List.getElem?_concat_length finishes).imp_left fun after =>
    ⟨_, after⟩

/-- The turns of a scan that nothing interrupts lead on. -/
theorem Reached.finish_scan {place : Nat} {monitor : LeaseMonitor} {phase : LeaseMonitor.Phase}
    {after : Services} (reached : Reached traffic)
    (there : traffic.scans[place]? = some (monitor, phase))
    (finishes : Finishes monitor.turn .resting phase traffic.services after) :
    Reached { traffic with
      services := after, scans := traffic.scans.set place (monitor, .resting) } := by
  generalize here : traffic.services = services at finishes
  induction finishes generalizing traffic with
  | rests =>
      subst here
      exact reached.step (.rest traffic place monitor)
  | goesOn later induction =>
      subst here
      have next := induction (reached.step (.scan traffic there))
        (List.getElem?_set_self (List.getElem?_eq_some_iff.mp there).1) rfl
      rw [List.set_set] at next
      exact next

/-- A whole scan is such a run. -/
theorem Reached.scan (reached : Reached traffic) (monitor : LeaseMonitor) :
    ∃ scans, Reached { traffic with
      services := (monitor.scan .monitor traffic.services).2, scans } := by
  have watching := reached.step (.watch traffic monitor)
  have begun := watching.step (.scan _ List.getElem?_concat_length)
  have inside : traffic.scans.length <
      (traffic.scans ++ [(monitor, LeaseMonitor.Phase.resting)]).length := by simp
  exact ⟨_, begun.finish_scan (List.getElem?_set_self inside)
    (monitor.scan_finishes traffic.services)⟩

/-! ## What the parties keep -/

/-- All that the parties know is true, and no agent has claimed a job of another
target than its own. -/
structure Orderly (traffic : Traffic) : Prop where
  routed : traffic.services.Routed
  submissions : ∀ phase ∈ traffic.submissions, phase.Knows traffic.services.store
  scans : ∀ scan ∈ traffic.scans, scan.2.Knows traffic.services.store
  agents : ∀ loop ∈ traffic.agents,
    loop.WorksOn (traffic.services.store.Routes · loop.agent.info.target)
  claims : ∀ entry ∈ traffic.services.journal, ∀ number, entry.actor = .agent number →
    ∀ job, entry.happening.granted? = some job →
      ∃ loop, traffic.agents[number]? = some loop ∧ job.target = loop.agent.info.target

namespace Orderly

theorem start (settings : StoreSettings) (now : Instant) :
    Orderly ⟨.start settings now, [], [], []⟩ where
  routed := ⟨List.nodup_nil, fun _ _ member => nomatch member⟩
  submissions _ member := nomatch member
  scans _ member := nomatch member
  agents _ member := nomatch member
  claims _ member := nomatch member

/-- What a party does that keeps to the routes disturbs nobody. -/
theorem carried (orderly : traffic.Orderly) {actor : Actor} {ids : JobId → Prop}
    {after : Services} (carries : Carries actor ids traffic.services after)
    (served : ∀ number, actor = .agent number → ∃ loop, traffic.agents[number]? = some loop ∧
      ∀ id, ids id → traffic.services.store.Routes id loop.agent.info.target) :
    Orderly { traffic with services := after } where
  routed := carries.routed orderly.routed
  submissions phase member := (orderly.submissions phase member).mono carries.routes
  scans scan member := (orderly.scans scan member).mono carries.routes
  agents loop member := (orderly.agents loop member).mono fun id => carries.routes id _
  claims entry member number agent job granted := by
    rcases carries.journal entry member with earlier | ⟨sameActor, claimed⟩
    · exact orderly.claims entry earlier number agent job granted
    · rcases served number (sameActor.symm.trans agent) with ⟨loop, there, ours⟩
      rcases claimed job granted with ⟨claims, routes⟩
      exact ⟨loop, there, routes.unique (carries.routes _ _ (ours _ claims))⟩

theorem set_submission (orderly : traffic.Orderly) (place : Nat) {phase : Dispatcher.Phase}
    (knows : phase.Knows traffic.services.store) :
    Orderly { traffic with submissions := traffic.submissions.set place phase } where
  routed := orderly.routed
  submissions other member := by
    rcases List.mem_or_eq_of_mem_set member with before | rfl
    · exact orderly.submissions other before
    · exact knows
  scans := orderly.scans
  agents := orderly.agents
  claims := orderly.claims

theorem set_scan (orderly : traffic.Orderly) (place : Nat) (monitor : LeaseMonitor)
    {phase : LeaseMonitor.Phase} (knows : phase.Knows traffic.services.store) :
    Orderly { traffic with scans := traffic.scans.set place (monitor, phase) } where
  routed := orderly.routed
  submissions := orderly.submissions
  scans other member := by
    rcases List.mem_or_eq_of_mem_set member with before | rfl
    · exact orderly.scans other before
    · exact knows
  agents := orderly.agents
  claims := orderly.claims

/-- An agent goes on and serves the target that it served. -/
theorem set_agent (orderly : traffic.Orderly) {place : Nat} {loop later : AgentLoop}
    (there : traffic.agents[place]? = some loop) (same : later.agent = loop.agent)
    (works : later.WorksOn (traffic.services.store.Routes · loop.agent.info.target)) :
    Orderly { traffic with agents := traffic.agents.set place later } where
  routed := orderly.routed
  submissions := orderly.submissions
  scans := orderly.scans
  agents other member := by
    rcases List.mem_or_eq_of_mem_set member with before | rfl
    · exact orderly.agents other before
    · rw [same]
      exact works
  claims entry member number agent job granted := by
    rcases orderly.claims entry member number agent job granted with ⟨server, found, target⟩
    rw [List.getElem?_set]
    by_cases here : place = number
    · subst here
      rw [there] at found
      cases found
      have inside := (List.getElem?_eq_some_iff.mp there).1
      exact ⟨later, by rw [if_pos rfl, if_pos inside], by rw [same, target]⟩
    · exact ⟨server, by rw [if_neg here, found], target⟩

theorem step {next : Traffic} (orderly : traffic.Orderly) (step : Step traffic next) :
    next.Orderly := by
  cases step with
  | submit payload targets =>
      refine { orderly with submissions := fun phase member => ?_ }
      rcases List.mem_append.mp member with before | newest
      · exact orderly.submissions phase before
      · rw [List.mem_singleton.mp newest]
        exact Dispatcher.knows_begin _ payload targets
  | dispatch there fresh =>
      rcases Dispatcher.turn_carries (orderly.submissions _ (List.mem_of_getElem? there)) fresh with
        ⟨carries, knows⟩
      exact (orderly.carried carries nofun).set_submission _ knows
  | withdraw place => exact orderly.set_submission place trivial
  | watch monitor =>
      refine { orderly with scans := fun scan member => ?_ }
      rcases List.mem_append.mp member with before | newest
      · exact orderly.scans scan before
      · rw [List.mem_singleton.mp newest]
        exact LeaseMonitor.knows_resting _
  | scan there =>
      rcases LeaseMonitor.turn_carries orderly.routed
        (orderly.scans _ (List.mem_of_getElem? there)) with ⟨carries, knows⟩
      exact (orderly.carried carries nofun).set_scan _ _ knows
  | rest place monitor => exact orderly.set_scan place monitor (LeaseMonitor.knows_resting _)
  | join agent =>
      refine { orderly with agents := fun loop member => ?_, claims := ?_ }
      · rcases List.mem_append.mp member with before | newest
        · exact orderly.agents loop before
        · rw [List.mem_singleton.mp newest]
          exact AgentLoop.worksOn_idle rfl
      · intro entry member number agent job granted
        rcases orderly.claims entry member number agent job granted with ⟨loop, found, target⟩
        have inside := (List.getElem?_eq_some_iff.mp found).1
        exact ⟨loop, by rw [List.getElem?_append_left inside, found], target⟩
  | @work place loop there builds interrupted =>
      have works := orderly.agents loop (List.mem_of_getElem? there)
      have carries := (loop.step_within builds interrupted).carries
        (fun _ => loop.quiet_of_mayCall works) (.agent place) traffic.services
      have carried := orderly.carried carries fun number same =>
        ⟨loop, by cases same; exact there, fun _ => id⟩
      rcases loop.resumed_continues works builds interrupted (.agent place)
        (orderly.routed.waits _) with ⟨same, worksOn⟩
      exact carried.set_agent there same (worksOn.mono fun id => carries.routes id _)
  | @leave place loop there =>
      exact orderly.set_agent there rfl (AgentLoop.worksOn_idle rfl)
  | process builds agent interrupted assignment =>
      have carries := (assignment.step_within builds agent interrupted).carries
        (fun _ => Assignment.quiet_of_mayCall) .main traffic.services
      exact orderly.carried carries nofun
  | call other proper =>
      exact orderly.carried (perform_carries proper) fun number same => absurd same (other number)
  | take target takes =>
      have carries : Carries .main (fun _ => False) traffic.services { traffic.services with
          queue := (traffic.services.queue.perform target _).2 } :=
        .of_taken rfl (traffic.services.queue.pending_perform_subset target _ takes) rfl
      exact orderly.carried carries nofun
  | outside store queue journal =>
      have carries : Carries .main (fun _ => False) traffic.services _ :=
        .of_eq store queue journal
      exact orderly.carried carries nofun

end Orderly

theorem Reached.orderly (reached : Reached traffic) : traffic.Orderly := by
  induction reached with
  | start settings now => exact .start settings now
  | step _ step orderly => exact orderly.step step

/-- What waits at a target is a job of the store that was made for it, and every
job that an agent has claimed was made for the target that the agent serves. -/
theorem Reached.jobs_reach_own_target (reached : Reached traffic) :
    (∀ target, ∀ id ∈ traffic.services.queue.pending target,
      ∃ job, traffic.services.store.job? id = some job ∧ job.target = target) ∧
    ∀ entry ∈ traffic.services.journal, ∀ number id worker lease job,
      entry.actor = .agent number →
      entry.happening = .called (.store (.claim id worker lease)) (.done job) →
      ∃ loop, traffic.agents[number]? = some loop ∧ job.target = loop.agent.info.target := by
  refine ⟨reached.orderly.routed.waits, ?_⟩
  intro entry member number id worker lease job agent claimed
  exact reached.orderly.claims entry member number agent job (by rw [claimed]; rfl)

end Traffic

/-! ## A sample

Two jobs are submitted, and an agent takes the one that was made for its target. -/

namespace Sample

def armAgent : Agent where
  info := ⟨⟨"a"⟩, "host", ⟨"arm64"⟩, 1, moment 0⟩
  lease := lease
  heartbeat := .ofSeconds 1
  buildTimeout := .ofSeconds 60
  environment := []

/-- The first submission takes a turn. -/
def dispatched (traffic : Traffic) : Traffic :=
  match traffic.submissions[0]? with
  | some phase => { traffic with
      services := (Dispatcher.turn phase traffic.services).2
      submissions := traffic.submissions.set 0 (Dispatcher.turn phase traffic.services).1 }
  | none => traffic

/-- The first agent takes a step. -/
def worked (traffic : Traffic) : Traffic :=
  match traffic.agents[0]? with
  | some loop => { traffic with
      services := (loop.step (fun _ => .immediate) false (.agent 0) traffic.services).2
      agents := traffic.agents.set 0
        (loop.resumed (loop.step (fun _ => .immediate) false (.agent 0) traffic.services).1) }
  | none => traffic

theorem dispatched_reached {traffic : Traffic} (reached : traffic.Reached)
    (fresh : ∀ phase ∈ traffic.submissions[0]?, phase.Fresh traffic.services) :
    (dispatched traffic).Reached := by
  unfold dispatched
  split
  · rename_i there
    exact reached.step (.dispatch traffic there (fresh _ there))
  · exact reached

theorem worked_reached {traffic : Traffic} (reached : traffic.Reached) :
    (worked traffic).Reached := by
  unfold worked
  split
  · rename_i there
    exact reached.step (.work traffic there _ _)
  · exact reached

def twoTargets : StoreSettings := ⟨⟨[⟨"amd64"⟩, ⟨"arm64"⟩], []⟩, 2⟩

def awaitingTurns : Traffic :=
  ⟨.start twoTargets (moment 0), [Dispatcher.begin .null [⟨"amd64"⟩, ⟨"arm64"⟩]], [],
    [.start armAgent]⟩

def submitted : Traffic := dispatched (dispatched (dispatched (dispatched awaitingTurns)))

/-- The agent records itself, subscribes, records itself again, takes an
identifier and claims the job. -/
def claimed : Traffic := worked (worked (worked (worked (worked (worked submitted)))))

theorem claimed_reached : claimed.Reached := by
  have awaiting : awaitingTurns.Reached :=
    ((Traffic.Reached.start twoTargets (moment 0)).step (.submit _ _ _)).step (.join _ armAgent)
  have first := dispatched_reached awaiting (by decide +kernel)
  have second := dispatched_reached first (by decide +kernel)
  have third := dispatched_reached second (by decide +kernel)
  have fourth : submitted.Reached := dispatched_reached third (by decide +kernel)
  iterate 6 refine worked_reached ?_
  exact fourth

theorem claimed_waits : claimed.services.queue.pending ⟨"amd64"⟩ = [freshId 0] ∧
    claimed.services.journal.any (fun entry => decide (entry.actor = .agent 0) &&
      entry.happening.granted?.any (·.id = freshId 1)) = true := by
  decide +kernel

end Sample

/-- The job for the other target waits on. -/
theorem Traffic.Reached.sample_jobs_reach_own_target : Sample.claimed.Reached ∧
    (∃ job, Sample.claimed.services.store.job? (freshId 0) = some job ∧
      job.target = ⟨"amd64"⟩) ∧
    ∃ entry ∈ Sample.claimed.services.journal, entry.actor = .agent 0 ∧
      ∃ job loop, entry.happening.granted? = some job ∧ job.id = freshId 1 ∧
        Sample.claimed.agents[0]? = some loop ∧ job.target = loop.agent.info.target := by
  rcases Sample.claimed_reached.jobs_reach_own_target with ⟨waits, claims⟩
  rcases Sample.claimed_waits with ⟨waiting, granted⟩
  rcases List.any_eq_true.mp granted with ⟨entry, member, both⟩
  rw [Bool.and_eq_true, decide_eq_true_eq, Option.any_eq_true] at both
  rcases both with ⟨agent, job, isGranted, isClaimed⟩
  rcases Happening.granted?_eq_some.mp isGranted with ⟨id, worker, lease, happened⟩
  rcases claims entry member 0 id worker lease job agent happened with ⟨loop, found, target⟩
  refine ⟨Sample.claimed_reached, waits ⟨"amd64"⟩ (freshId 0) ?_, entry, member, agent, job, loop,
    isGranted, of_decide_eq_true isClaimed, found, target⟩
  rw [waiting]
  exact List.mem_singleton_self _

end BuildFleet
