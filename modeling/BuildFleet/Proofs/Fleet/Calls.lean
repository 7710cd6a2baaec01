import BuildFleet.Dispatcher
import BuildFleet.Fleet.Basic
import BuildFleet.Proofs.Services.Deeds

/-!
# Who makes which calls

An agent makes calls in the name of its worker, and claims, keeps and completes
only the job that it works on. The monitor, the relay and the dispatcher have
calls of their own.
-/

namespace BuildFleet

open BuildFleet.Action

/-- The state in which something goes on, at once or later. -/
def Progress.state {α : Type} : Progress α → α
  | goesOn state => state
  | waits state => state

theorem Progress.state_map {α β : Type} (transform : α → β) (progress : Progress α) :
    (progress.map transform).state = transform progress.state := by
  cases progress <;> rfl

/-! ## Agents -/

/-- The agent has claimed the job and is not done with it. -/
def Work.Pursues : Work → Prop
  | .claiming | .ended _ => False
  | _ => True

/-- The calls that an agent makes for a job. -/
def Assignment.MayCall (agent : Agent) (assignment : Assignment) : Call → Prop
  | .store (.claim id worker lease) =>
    id = assignment.id ∧ worker = agent.info.id ∧ lease = agent.lease
  | .store (.heartbeat id worker) =>
    id = assignment.id ∧ worker = agent.info.id ∧ assignment.work.Pursues
  | .store (.complete id worker _) =>
    id = assignment.id ∧ worker = agent.info.id ∧ assignment.work.Pursues
  | .store (.recordWorker info) => info = agent.info
  | _ => False

theorem Assignment.step_within (builds : BuildScripts) (agent : Agent) (interrupted : Bool)
    (assignment : Assignment) :
    (assignment.step builds agent interrupted).Within (assignment.MayCall agent) := by
  have claims : (Services.claim assignment.id agent.info.id agent.lease).attempt.Within
      (assignment.MayCall agent) := .attempt (.perform ⟨rfl, rfl, rfl⟩)
  have beats : assignment.work.Pursues →
      (Services.heartbeat assignment.id agent.info.id).attempt.Within
        (assignment.MayCall agent) := fun pursues => .attempt (.perform ⟨rfl, rfl, pursues⟩)
  have completes : ∀ result, assignment.work.Pursues →
      (Services.complete assignment.id agent.info.id result).attempt.Within
        (assignment.MayCall agent) := fun _ pursues => .attempt (.perform ⟨rfl, rfl, pursues⟩)
  have records : (Services.recordWorker agent.info).attempt.Within
      (assignment.MayCall agent) := .attempt (.perform rfl)
  unfold step
  refine .bind .elapsedTime fun elapsed => ?_
  dsimp only
  split
  · exact .bind claims fun _ => .pure _
  · rename_i work
    exact .bind (beats (work ▸ trivial)) fun _ => .pure _
  · exact .bind (.note rfl) fun _ => .pure _
  · refine .bind (.note rfl) fun _ => ?_
    split
    · exact .bind .stop fun _ => .pure _
    · exact .pure _
  · split
    · exact .pure _
    · split
      · exact .bind (.note rfl) fun _ => .pure _
      · exact .pure _
  · rename_i work
    exact .bind (beats (work ▸ trivial)) fun _ => .pure _
  · exact .bind records fun _ => .pure _
  · exact .bind (.note rfl) fun _ => .pure _
  · rename_i work
    exact .bind (completes _ (work ▸ trivial)) fun _ => .pure _
  · split
    · exact .pure _
    · split <;> exact .pure _
  · exact .pure _

theorem Assignment.id_startPause (assignment : Assignment) (elapsed : Nat) :
    (assignment.startPause elapsed).id = assignment.id := by
  unfold startPause
  split <;> rfl

/-- An assignment is for one job to its end. -/
theorem Assignment.step_ensures (builds : BuildScripts) (agent : Agent) (interrupted : Bool)
    (assignment : Assignment) : (assignment.step builds agent interrupted).Ensures
      (fun _ => True) fun progress => progress.state.id = assignment.id := by
  unfold step
  refine .bind (.anything _) fun elapsed _ => ?_
  dsimp only
  split
  · exact .bind (.anything _) fun _ _ => .pure rfl
  · exact .bind (.anything _) fun _ _ => .pure rfl
  · exact .bind (.anything _) fun _ _ => .pure rfl
  · refine .bind (.anything _) fun _ _ => ?_
    split
    · exact .bind (.anything _) fun _ _ => .pure rfl
    · exact .pure rfl
  · split
    · exact .pure rfl
    · split
      · exact .bind (.anything _) fun _ _ => .pure rfl
      · exact .pure rfl
  · exact .bind (.anything _) fun _ _ => .pure rfl
  · exact .bind (.anything _) fun _ _ => .pure rfl
  · exact .bind (.anything _) fun _ _ => .pure rfl
  · exact .bind (.anything _) fun _ _ => .pure (id_startPause _ _)
  · split
    · exact .pure rfl
    · split <;> exact .pure rfl
  · exact .pure rfl

/-- What the agent works on. -/
def AgentLoop.assignment? (loop : AgentLoop) : Option Assignment :=
  match loop.stage with
  | .working _ assignment => some assignment
  | _ => none

/-- The calls that an agent makes: for the job that it works on, and for itself. -/
def AgentLoop.MayCall (loop : AgentLoop) (call : Call) : Prop :=
  call = .store (.recordWorker loop.agent.info) ∨ call = .subscribe loop.agent.info.target ∨
    ∃ listening assignment, loop.stage = .working listening assignment ∧
      assignment.MayCall loop.agent call

namespace AgentLoop

variable {May : Call → Prop}

theorem stop_within (loop : AgentLoop) (listening : Option Listening) :
    (loop.stop listening).Within May := by
  have stops : (do
      Services.note .stopped
      return .waits { loop with stage := .stopped } : Action (Progress AgentLoop)).Within May :=
    .bind (.note rfl) fun _ => .pure _
  unfold stop
  split
  · exact .bind (.unsubscribe _ _) fun _ => stops
  · exact stops

theorem receive_within (loop : AgentLoop) (listening : Listening) (elapsed : Nat)
    (delivery : Delivery) : (loop.receive listening elapsed delivery).Within May := by
  have notes : (Services.note (.delivered delivery)).Within May := .note rfl
  unfold receive
  refine .bind notes fun _ => ?_
  dsimp only
  split
  · exact .pure _
  · exact .pure _
  · exact .bind (.unsubscribe _ _) fun _ => .pure _

/-- What the agent does with what the script plans for it. Where nothing is planned it
asks the queue. -/
def afterPlan (loop : AgentLoop) (listening : Listening) (elapsed : Nat) :
    Option Delivery → Action (Progress AgentLoop)
  | some delivery => loop.receive listening elapsed delivery
  | none => do
    match ← Services.poll loop.agent.info.target listening.subscription with
    | some id => loop.receive listening elapsed (.item id)
    | none => return .waits { loop with stage := .listening { listening with awaiting := true } }

theorem listen_eq (loop : AgentLoop) (listening : Listening) (elapsed : Nat) :
    loop.listen listening elapsed =
      (if listening.awaiting then pure none else Services.planDelivery) >>=
        loop.afterPlan listening elapsed := by
  unfold listen
  dsimp only
  split <;> rfl

theorem afterPlan_within (loop : AgentLoop) (listening : Listening) (elapsed : Nat)
    (planned : Option Delivery) : (loop.afterPlan listening elapsed planned).Within May := by
  cases planned with
  | some delivery => exact loop.receive_within listening elapsed delivery
  | none =>
      refine .bind (.poll _ _) fun polled => ?_
      split
      · exact loop.receive_within listening elapsed _
      · exact .pure _

theorem listen_within (loop : AgentLoop) (listening : Listening) (elapsed : Nat) :
    (loop.listen listening elapsed).Within May := by
  rw [listen_eq]
  split
  · exact .bind (.pure none) (loop.afterPlan_within listening elapsed)
  · exact .bind .planDelivery (loop.afterPlan_within listening elapsed)

theorem step_within (builds : BuildScripts) (interrupted : Bool) (loop : AgentLoop) :
    (loop.step builds interrupted).Within loop.MayCall := by
  unfold step
  refine .bind .elapsedTime fun elapsed => ?_
  dsimp only
  have records : (Services.recordWorker loop.agent.info).attempt.Within loop.MayCall :=
    Within.attempt (Within.perform (.inl rfl))
  split
  · exact .bind records fun _ => .pure _
  · split
    · exact loop.stop_within none
    · refine .bind (Within.attempt (Within.perform (.inr (.inl rfl)))) fun answer => ?_
      split
      · exact .pure _
      · split
        · exact .bind .stop fun _ => .pure _
        · exact .pure _
  · split
    · exact loop.stop_within _
    · split
      · exact .pure _
      · exact loop.listen_within _ _
  · exact .bind records fun _ => .pure _
  · rename_i listening assignment working
    split
    · exact .pure _
    · refine .bind ((assignment.step_within builds loop.agent interrupted).mono ?_) fun _ => .pure _
      exact fun call may => .inr (.inr ⟨listening, assignment, working, may⟩)
  · split
    · exact loop.stop_within _
    · split
      · split <;> exact .pure _
      · exact .pure _
  · exact .pure _

end AgentLoop

/-! ## The monitor and the relay -/

/-- The calls that a monitor makes. -/
def LeaseMonitor.MayCall : Call → Prop
  | .store (.expiredLeases _) | .store (.expireLease _) | .store (.staleQueued _ _) => True
  | .publish _ _ => True
  | _ => False

namespace LeaseMonitor

variable {May : Call → Prop}

theorem publishAgain_within {job : Job} (publishes : ∀ target id, May (.publish target id)) :
    (publishAgain job).Within May :=
  .bind (.attempt (.perform (publishes _ _))) fun _ => .pure _

theorem expireEach_within {jobs : List Job} (report : ScanReport)
    (publishes : ∀ target id, May (.publish target id))
    (expires : ∀ job ∈ jobs, May (.store (.expireLease job.id))) :
    (expireEach jobs report).Within May := by
  induction jobs generalizing report with
  | nil => exact .pure _
  | cons job rest induction =>
      have expiresFirst : (Services.expireLease job.id).attempt.Within May :=
        .attempt (.perform (expires job List.mem_cons_self))
      have others := fun report =>
        induction report fun job member => expires job (List.mem_cons_of_mem _ member)
      unfold expireEach
      refine .bind expiresFirst fun answer => ?_
      split
      · exact .bind (publishAgain_within publishes) fun _ => others _
      · exact others _
      · exact others _
      · split
        · exact .fail _
        · exact others _

theorem republishEach_within (jobs : List Job) (report : ScanReport)
    (publishes : ∀ target id, May (.publish target id)) :
    (republishEach jobs report).Within May := by
  induction jobs generalizing report with
  | nil => exact .pure _
  | cons job rest induction => exact .bind (publishAgain_within publishes) fun _ => induction _

theorem scan_within (monitor : LeaseMonitor) : monitor.scan.Within MayCall := by
  have listsExpired : (Services.expiredLeases monitor.batchSize).Within MayCall :=
    .perform trivial
  have listsStale : (Services.staleQueued monitor.scanInterval monitor.batchSize).Within MayCall :=
    .perform trivial
  have publishes : ∀ target id, MayCall (.publish target id) := fun _ _ => trivial
  exact .bind listsExpired fun jobs => .bind (expireEach_within _ publishes fun _ _ => trivial)
    fun _ => .bind listsStale fun stale => republishEach_within stale _ publishes

end LeaseMonitor

/-- The calls that a relay makes. -/
def Relay.MayCall : Call → Prop
  | .store (.pendingEvents _) | .store (.acknowledge _) => True
  | .notify _ _ => True
  | _ => False

namespace Relay

theorem tellEach_within (event : JobEvent) (frontEnds : List String) :
    (tellEach event frontEnds).Within MayCall := by
  induction frontEnds with
  | nil => exact .pure _
  | cons frontEnd rest induction =>
      have tells : (Services.notify frontEnd event).Within MayCall := .perform trivial
      exact .bind tells fun _ => induction

theorem deliverEach_within (relay : Relay) (events : List JobEvent) (delivered : Nat) :
    (relay.deliverEach events delivered).Within MayCall := by
  induction events generalizing delivered with
  | nil => exact .pure _
  | cons event rest induction =>
      have acknowledges : (Services.acknowledge event.number).Within MayCall := .perform trivial
      exact .bind (tellEach_within event relay.frontEnds) fun _ =>
        .bind acknowledges fun _ => induction _

theorem deliver_within (relay : Relay) : relay.deliver.Within MayCall := by
  have lists : (Services.pendingEvents batchSize).Within MayCall := .perform trivial
  exact .bind lists fun events => relay.deliverEach_within events 0

end Relay

/-! ## The dispatcher -/

/-- The calls that the dispatcher makes. -/
def Dispatcher.MayCall : Call → Prop
  | .store (.create _ _ _) | .store (.cancel _) | .store (.get _) | .store .summary
  | .store (.workers _) => True
  | .publish _ _ => True
  | _ => False

namespace Dispatcher

theorem enqueue_within (target : Target) (payload : Json) :
    (enqueue target payload).Within MayCall := by
  have creates : (Services.create target payload).Within MayCall := .create fun _ => trivial
  have publishes : ∀ id, (Services.publish target id).attempt.Within MayCall := fun _ =>
    .attempt (.perform trivial)
  exact .bind creates fun id => .bind (publishes id) fun _ => .pure _

theorem enqueueAll_within (payload : Json) (targets : List Target) :
    (enqueueAll payload targets).Within MayCall := by
  induction targets with
  | nil => exact .pure _
  | cons target rest induction =>
      exact .bind (enqueue_within target payload) fun _ => .bind induction fun _ => .pure _

theorem submit_within (dispatcher : Dispatcher) (name : String) (payload : Json) :
    (dispatcher.submit name payload).Within MayCall :=
  .bind (.ofExcept _) fun target => .bind (.ofExcept _) fun _ => enqueue_within target payload

theorem submitAll_within (dispatcher : Dispatcher) (names : List String) (payload : Json) :
    (dispatcher.submitAll names payload).Within MayCall :=
  .bind (.ofExcept _) fun targets => .bind (.ofExcept _) fun _ => enqueueAll_within payload targets

theorem cancel_within (id : JobId) : (cancel id).Within MayCall := .perform trivial

theorem query_within (id : JobId) : (query id).Within MayCall := .perform trivial

theorem status_within (dispatcher : Dispatcher) : dispatcher.status.Within MayCall := by
  have sums : Services.summary.Within MayCall := .perform trivial
  have lists : (Services.workers dispatcher.offlineAfter).Within MayCall := .perform trivial
  exact .bind sums fun _ => .bind lists fun _ => .pure _

end Dispatcher

/-! ## Tasks -/

namespace Task

/-- The calls that a task makes. -/
def MayCall (task : Task) (call : Call) : Prop :=
  match task.role with
  | .agent loop => loop.MayCall call
  | .job agent assignment => assignment.MayCall agent call
  | .monitor _ => LeaseMonitor.MayCall call
  | .relay _ => Relay.MayCall call
  | .finished => False

theorem finish_within {May : Call → Prop} (task : Task) {happening : Happening}
    (silent : happening.isCall = false) : (task.finish happening).Within May :=
  .bind (.note silent) fun _ => .pure _

theorem advance_within (builds : BuildScripts) (interrupted : Bool) (task : Task) :
    (task.advance builds interrupted).Within task.MayCall := by
  rcases task with ⟨actor, startsAt, loop | ⟨agent, assignment⟩ | loop | loop | _⟩
  all_goals
    unfold advance
    refine .bind .elapsedTime fun elapsed => ?_
    dsimp only
  · exact .bind (loop.step_within builds interrupted) fun _ => .pure _
  · split
    · exact finish_within _ rfl
    · exact .bind (assignment.step_within builds agent interrupted) fun _ => .pure _
  · split
    · exact finish_within _ rfl
    · unfold MonitorLoop.step
      refine .bind ?_ fun _ => .pure _
      split
      · exact .pure _
      · exact .bind (.attempt loop.monitor.scan_within) fun _ => .pure _
  · split
    · exact finish_within _ rfl
    · unfold RelayLoop.step
      refine .bind ?_ fun _ => .pure _
      split
      · exact .pure _
      · exact .bind (.attempt loop.relay.deliver_within) fun _ => .pure _
  · exact .pure _

theorem step_within (builds : BuildScripts) (interrupted : Bool) (task : Task) :
    (task.step builds interrupted).Within task.MayCall := by
  unfold step
  refine .bind .elapsedTime fun elapsed => ?_
  split
  · exact .pure _
  · exact task.advance_within builds interrupted

end Task

end BuildFleet
