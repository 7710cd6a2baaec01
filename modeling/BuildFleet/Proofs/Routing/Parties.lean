import BuildFleet.Proofs.Routing.Calls

/-!
# What each party knows of the routes

The dispatcher knows the target of the job that it has just made, and the
monitor those of the jobs that it was told of. An agent works on identifiers
that it has taken from the queue of its own target. Each turn keeps to the
routes and leaves its party with such knowledge again.
-/

namespace BuildFleet

namespace Services

variable {actor : Actor} {services : Services} {call : StoreCall}

/-- An answer of the store is the answer to a call that took effect. -/
theorem perform_store_done (actor : Actor) (services : Services) (call : StoreCall)
    (answer : call.Answer)
    (done : (perform (.store call) actor services).1 = .done answer) :
    (services.store.perform services.settings services.now call).1 = .done answer ∧
      (perform (.store call) actor services).2.store =
        (services.store.perform services.settings services.now call).2 := by
  rcases perform_eq (.store call) actor services with ⟨plans, ⟨failure, failed⟩ | carried⟩
  · rw [failed] at done
    cases done
  · rw [carried] at done ⊢
    exact ⟨done, rfl⟩

end Services

open Services

/-! ## The dispatcher -/

namespace Dispatcher

/-- The job that is about to be published belongs where it goes. -/
def Phase.Knows (store : Store) : Phase → Prop
  | .publishing target id _ _ => store.Routes id target
  | _ => True

/-- The identifier of the job that is about to be made is not in use. -/
def Phase.Fresh (services : Services) : Phase → Prop
  | .creating _ _ _ => services.store.job? (freshId services.made) = none
  | _ => True

instance (services : Services) : (phase : Phase) → Decidable (phase.Fresh services)
  | .creating _ _ _ => inferInstanceAs (Decidable (services.store.job? _ = none))
  | .publishing _ _ _ _ => inferInstanceAs (Decidable True)
  | .ended => inferInstanceAs (Decidable True)

theorem knows_begin (store : Store) (payload : Json) (targets : List Target) :
    (begin payload targets).Knows store := by
  cases targets <;> trivial

theorem Phase.Knows.mono {before after : Store} {phase : Phase} (knows : phase.Knows before)
    (routes : ∀ id target, before.Routes id target → after.Routes id target) :
    phase.Knows after := by
  cases phase with
  | publishing target id payload rest => exact routes id target knows
  | creating => trivial
  | ended => trivial

private theorem create_carries (target : Target) (payload : Json) {services : Services}
    (unused : services.store.job? (freshId services.made) = none) :
    Carries .main (fun _ => False) services (Services.create target payload .main services).2 ∧
      ∀ id, (Services.create target payload .main services).1 = .done id →
        (Services.create target payload .main services).2.store.Routes id target := by
  have fresh : Operation.Fresh services.settings ⟨services.store, services.now,
      .create (freshId services.made) target payload⟩ := by
    intro job created
    rcases StoreCall.created?_eq_some created with ⟨id, place, body, same, _, rfl⟩
    cases same
    exact unused
  have carries := perform_carries_unclaimed .main services
    (.store (.create (freshId services.made) target payload)) fresh rfl
  have answers := perform_store_done .main services
    (.create (freshId services.made) target payload)
  unfold Services.create
  split
  · rename_i id after performed
    rw [performed] at carries answers
    rcases answers id rfl with ⟨answered, left⟩
    refine ⟨carries.trans (.of_eq rfl rfl rfl), fun other done => ?_⟩
    cases done
    rcases Store.routes_of_create unused answered with ⟨rfl, routes⟩
    exact left ▸ routes
  · rename_i performed
    rw [performed] at carries
    exact ⟨carries, nofun⟩
  · rename_i performed
    rw [performed] at carries
    exact ⟨carries, nofun⟩

theorem turn_carries {phase : Phase} {services : Services} (knows : phase.Knows services.store)
    (fresh : phase.Fresh services) :
    Carries .main (fun _ => False) services (turn phase services).2 ∧
      (turn phase services).1.Knows (turn phase services).2.store := by
  cases phase with
  | creating target payload rest =>
      have created := create_carries target payload fresh
      rw [turn]
      generalize Services.create target payload .main services = performed at created ⊢
      rcases performed with ⟨id | failure | _, after⟩
      · exact ⟨created.1, created.2 id rfl⟩
      · exact ⟨created.1, trivial⟩
      · exact ⟨created.1, trivial⟩
  | publishing target id payload rest =>
      exact ⟨perform_carries_unclaimed _ _ (.publish target id) knows rfl,
        knows_begin _ payload rest⟩
  | ended => exact ⟨.refl services, trivial⟩

end Dispatcher

/-! ## The monitor -/

namespace LeaseMonitor

/-- The jobs that the monitor has yet to deal with. -/
def Phase.jobs : Phase → List Job
  | .resting => []
  | .expiring jobs => jobs
  | .returning job rest => job :: rest
  | .republishing job rest => job :: rest

/-- The monitor knows its jobs as they are but for their status. -/
def Phase.Knows (store : Store) (phase : Phase) : Prop :=
  ∀ job ∈ phase.jobs, store.Routes job.id job.target

variable {monitor : LeaseMonitor}

/-- The monitor makes no jobs. -/
theorem proper_of_mayCall {services : Services} {call : StoreCall} (may : MayCall (.store call)) :
    services.Proper (.store call) := by
  refine proper_store fun id target payload same => ?_
  subst same
  exact may

theorem knows_resting (store : Store) : Phase.resting.Knows store := by
  intro job member
  cases member

theorem jobs_republish (jobs : List Job) : (republish jobs).jobs = jobs := by
  cases jobs <;> rfl

theorem Phase.Knows.mono {before after : Store} {phase : Phase} (knows : phase.Knows before)
    (routes : ∀ id target, before.Routes id target → after.Routes id target) :
    phase.Knows after := fun job member => routes _ _ (knows job member)

/-- What a turn of the monitor leaves. -/
def Carried (monitor : LeaseMonitor) (phase : Phase) (services : Services) : Prop :=
  Carries .monitor (fun _ => False) services (monitor.turn phase services).2 ∧
    (monitor.turn phase services).1.Knows (monitor.turn phase services).2.store

theorem carried_resting {services : Services} (routed : services.Routed) :
    monitor.Carried .resting services := by
  have carries := perform_carries_unclaimed .monitor services
    (.store (.expiredLeases monitor.batchSize)) (proper_of_mayCall trivial) rfl
  have done := perform_store_done .monitor services (.expiredLeases monitor.batchSize)
  rw [Carried, turn, Services.expiredLeases]
  generalize perform (.store (.expiredLeases monitor.batchSize)) .monitor services = performed
    at carries done ⊢
  rcases performed with ⟨jobs | failure | _, after⟩
  · exact ⟨carries, fun job member => carries.routes _ _ (Store.routes_of_mem routed.distinct
      (Store.mem_of_expiredLeases (done jobs rfl).1 member))⟩
  · exact ⟨carries, knows_resting _⟩
  · exact ⟨carries, knows_resting _⟩

theorem carried_listing {services : Services} (routed : services.Routed) :
    monitor.Carried (.expiring []) services := by
  have carries := perform_carries_unclaimed .monitor services
    (.store (.staleQueued monitor.scanInterval monitor.batchSize)) (proper_of_mayCall trivial) rfl
  have done := perform_store_done .monitor services
    (.staleQueued monitor.scanInterval monitor.batchSize)
  rw [Carried, turn, Services.staleQueued]
  generalize perform (.store (.staleQueued monitor.scanInterval monitor.batchSize)) .monitor
    services = performed at carries done ⊢
  rcases performed with ⟨jobs | failure | _, after⟩
  · refine ⟨carries, fun job member => ?_⟩
    rw [jobs_republish] at member
    exact carries.routes _ _ (Store.routes_of_mem routed.distinct
      (Store.mem_of_staleQueued (done jobs rfl).1 member))
  · exact ⟨carries, knows_resting _⟩
  · exact ⟨carries, knows_resting _⟩

theorem carried_expiring {services : Services} {job : Job} {rest : List Job}
    (knows : (Phase.expiring (job :: rest)).Knows services.store) :
    monitor.Carried (.expiring (job :: rest)) services := by
  have carries := perform_carries_unclaimed .monitor services
    (.store (.expireLease job.id)) (proper_of_mayCall trivial) rfl
  have all := knows.mono carries.routes
  have later : ∀ job ∈ rest, _ := fun job member => all job (List.mem_cons_of_mem _ member)
  rw [Carried, turn, Services.expireLease]
  generalize perform (.store (.expireLease job.id)) .monitor services = performed
    at carries all later ⊢
  rcases performed with ⟨(_ | ⟨_ | _⟩) | failure | _, after⟩
  · exact ⟨carries, later⟩
  · exact ⟨carries, all⟩
  · exact ⟨carries, later⟩
  · -- A transient failure leaves the rest for the next scan.
    refine ⟨carries, ?_⟩
    cases transient : failure.isTransient with
    | true => simp [transient, Phase.Knows, Phase.jobs]
    | false => simpa [transient, Phase.Knows, Phase.jobs] using later
  · exact ⟨carries, knows_resting _⟩

theorem turn_carries {phase : Phase} {services : Services} (routed : services.Routed)
    (knows : phase.Knows services.store) : monitor.Carried phase services := by
  have publishes : ∀ job ∈ phase.jobs, Carries .monitor (fun _ => False) services
      (perform (.publish job.target job.id) .monitor services).2 := fun job member =>
    perform_carries_unclaimed .monitor services (.publish job.target job.id) (knows job member) rfl
  rcases phase with _ | jobs | ⟨job, rest⟩ | ⟨job, rest⟩
  · exact carried_resting routed
  · cases jobs with
    | nil => exact carried_listing routed
    | cons job rest => exact carried_expiring knows
  · have carries := publishes job List.mem_cons_self
    exact ⟨carries, fun other member =>
      carries.routes _ _ (knows other (List.mem_cons_of_mem _ member))⟩
  · have carries := publishes job List.mem_cons_self
    refine ⟨carries, fun other member => ?_⟩
    rw [turn, jobs_republish] at member
    exact carries.routes _ _ (knows other (List.mem_cons_of_mem _ member))

end LeaseMonitor

/-! ## Agents -/

theorem Queue.mem_of_polled {queue : Queue} {target : Target} {subscription : Subscription}
    {id : JobId} (polled : (queue.poll target subscription).1 = some id) :
    id ∈ queue.pending target := by
  have found : ((queue.ofTarget target).poll subscription).1 = some id := polled
  rcases (queue.ofTarget target).poll_pending subscription with ⟨none, _⟩ | ⟨popped, _⟩
  · rw [none] at found
    cases found
  · rw [popped] at found
    rcases (queue.ofTarget target).pop_cases with ⟨_, same⟩ | ⟨first, rest, waiting, taken⟩
    · rw [same] at found
      cases found
    · rw [taken] at found
      cases found
      exact List.mem_of_mem_head? (by rw [pending, waiting]; rfl)

namespace Services

/-- What waits at a target is known. -/
def Waiting (target : Target) (Known : JobId → Prop) (services : Services) : Prop :=
  ∀ id ∈ services.queue.pending target, Known id

theorem Deed.waiting {May : Call → Prop} {actor : Actor} {before after : Services}
    {target : Target} {Known : JobId → Prop} (deed : Deed May actor before after)
    (silent : ∀ place id, ¬ May (.publish place id)) (waiting : Waiting target Known before) :
    Waiting target Known after := by
  cases deed with
  | @call call may =>
      have same : (perform call actor before).2.queue.pending target =
          before.queue.pending target := by
        rcases perform_eq call actor before with ⟨plans, ⟨failure, failed⟩ | carried⟩
        · rw [failed]
          rfl
        · rw [carried]
          cases call with
          | publish place id => exact absurd may (silent place id)
          | store call => rfl
          | subscribe place => rfl
          | notify frontEnd event => rfl
      unfold Waiting
      rw [same]
      exact waiting
  | note => exact waiting
  | plan =>
      unfold plannedDelivery
      split
      · exact waiting
      · split <;> exact waiting
  | poll place subscription =>
      exact fun id member => waiting id (before.queue.pending_perform_subset place
        (.poll subscription) nofun target member)
  | unsubscribe place subscription =>
      exact fun id member => waiting id (before.queue.pending_perform_subset place
        (.drop subscription) nofun target member)
  | count => exact waiting

end Services

namespace Assignment

variable {agent : Agent} {assignment : Assignment}

theorem quiet_of_mayCall {call : Call} (may : assignment.MayCall agent call) :
    Quiet (· = assignment.id) call := by
  rcases call with store | _ | _ | _
  · refine ⟨nofun, ?_, ?_⟩
    · intro id target payload same
      cases same
      exact may
    · intro id claimed
      cases store <;> cases claimed
      exact may.1
  · exact False.elim may
  · exact False.elim may
  · exact False.elim may

end Assignment

namespace AgentLoop

variable {loop : AgentLoop} {Known : JobId → Prop}

/-- The job that the agent works on is known. -/
def WorksOn (Known : JobId → Prop) (loop : AgentLoop) : Prop :=
  ∀ assignment ∈ loop.assignment?, Known assignment.id

theorem WorksOn.mono {Other : JobId → Prop} (works : loop.WorksOn Known)
    (wider : ∀ id, Known id → Other id) : loop.WorksOn Other :=
  fun assignment working => wider _ (works assignment working)

theorem worksOn_idle (idle : loop.assignment? = none) : loop.WorksOn Known := by
  intro assignment working
  rw [idle] at working
  cases working

theorem quiet_of_mayCall {call : Call} (works : loop.WorksOn Known) (may : loop.MayCall call) :
    Quiet Known call := by
  rcases may with rfl | rfl | ⟨listening, assignment, stage, may⟩
  · exact ⟨nofun, nofun, nofun⟩
  · exact ⟨nofun, nofun, nofun⟩
  · rcases Assignment.quiet_of_mayCall may with ⟨publishes, creates, claims⟩
    have working : loop.assignment? = some assignment := by rw [assignment?, stage]
    exact ⟨publishes, creates, fun id claimed => claims id claimed ▸ works assignment working⟩

/-- The same agent goes on, and works on nothing but what is known. -/
def Continues (loop : AgentLoop) (Known : JobId → Prop) (progress : Progress AgentLoop) : Prop :=
  progress.state.agent = loop.agent ∧ progress.state.WorksOn Known

theorem continues_idle {progress : Progress AgentLoop} (same : progress.state.agent = loop.agent)
    (idle : progress.state.assignment? = none) : loop.Continues Known progress :=
  ⟨same, worksOn_idle idle⟩

theorem stop_ensures (loop : AgentLoop) (listening : Option Listening) :
    (loop.stop listening).Ensures (fun _ => True) (loop.Continues Known) := by
  have stops : (do
      Services.note .stopped
      return .waits { loop with stage := .stopped } : Action (Progress AgentLoop)).Ensures
        (fun _ => True) (loop.Continues Known) :=
    .bind (.anything _) fun _ _ => .pure (continues_idle rfl rfl)
  unfold stop
  split
  · exact .bind (.anything _) fun _ _ => stops
  · exact stops

theorem receive_ensures (loop : AgentLoop) (listening : Listening) (elapsed : Nat)
    {delivery : Delivery} (known : ∀ id, delivery = .item id → Known id) :
    (loop.receive listening elapsed delivery).Ensures (fun _ => True) (loop.Continues Known) := by
  unfold receive
  refine .bind (.anything _) fun _ _ => ?_
  dsimp only
  split
  · rename_i id
    refine .pure ⟨rfl, fun assignment working => ?_⟩
    cases working
    exact known id rfl
  · exact .pure (continues_idle rfl rfl)
  · exact .bind (.anything _) fun _ _ => .pure (continues_idle rfl rfl)

/-- What every deed but a publication keeps. -/
private theorem Ensures.waiting {α : Type} (May : Call → Prop) {action : Action α}
    {Post : α → Prop} {target : Target} (ensures : action.Ensures (fun _ => True) Post)
    (within : action.Within May) (silent : ∀ place id, ¬ May (.publish place id)) :
    action.Ensures (Waiting target Known) Post :=
  ensures.of_within within fun _ _ _ deed waiting => deed.waiting silent waiting

/-- No item is planned. -/
private theorem planDelivery_ensures {target : Target} : Services.planDelivery.Ensures
    (Waiting target Known) fun planned => ∀ id, planned ≠ some (.item id) := by
  intro actor services planned waiting done
  have plans : Deed (fun _ => False) actor services _ := .plan services
  refine ⟨plans.waiting (fun _ _ => id) waiting, ?_⟩
  cases done
  split
  · nofun
  · split <;> nofun

private theorem poll_ensures (target : Target) (subscription : Subscription) :
    (Services.poll target subscription).Ensures (Waiting target Known)
      fun polled => ∀ id, polled = some id → Known id := by
  intro actor services polled waiting done
  have polls : Deed (fun _ => False) actor services _ := .poll services target subscription
  refine ⟨polls.waiting (fun _ _ => id) waiting, fun id found => ?_⟩
  subst found
  exact waiting id (Queue.mem_of_polled (Outcome.done.inj done))

theorem listen_ensures (loop : AgentLoop) (listening : Listening) (elapsed : Nat) :
    (loop.listen listening elapsed).Ensures (Waiting loop.agent.info.target Known)
      (loop.Continues Known) := by
  have receives : ∀ delivery, (∀ id, delivery = .item id → Known id) →
      (loop.receive listening elapsed delivery).Ensures (Waiting loop.agent.info.target Known)
        (loop.Continues Known) := fun delivery known =>
    Ensures.waiting (fun _ => False) (loop.receive_ensures listening elapsed known)
      (loop.receive_within listening elapsed delivery) fun _ _ => id
  have plans : (if listening.awaiting then pure none else Services.planDelivery).Ensures
      (Waiting loop.agent.info.target Known) fun planned => ∀ id, planned ≠ some (.item id) := by
    split
    · exact .pure fun _ => Option.some_ne_none _ ∘ Eq.symm
    · exact planDelivery_ensures
  rw [listen_eq]
  refine .bind plans fun planned noItem => ?_
  cases planned with
  | some delivery =>
      exact receives delivery fun id item => absurd (congrArg some item) (noItem id)
  | none =>
      refine .bind (poll_ensures _ _) fun polled known => ?_
      split
      · rename_i id
        exact receives (.item id) fun other item => by
          cases item
          exact known id rfl
      · exact .pure (continues_idle rfl rfl)

/-- One stage of an agent's life. What it takes from the queue was waiting there. -/
theorem step_ensures (builds : BuildScripts) (interrupted : Bool) (loop : AgentLoop)
    (works : loop.WorksOn Known) :
    (loop.step builds interrupted).Ensures (Waiting loop.agent.info.target Known)
      (loop.Continues Known) := by
  have silent : ∀ place id, ¬ loop.MayCall (.publish place id) := fun place id may =>
    (loop.quiet_of_mayCall works may).1 place id rfl
  have stops : ∀ listening, (loop.stop listening).Ensures (Waiting loop.agent.info.target Known)
      (loop.Continues Known) := fun listening =>
    Ensures.waiting (fun _ => False) (loop.stop_ensures listening)
      (loop.stop_within listening) fun _ _ => id
  have records : (Services.recordWorker loop.agent.info).attempt.Ensures
      (Waiting loop.agent.info.target Known) fun _ => True :=
    Ensures.waiting _ (.anything _) (.attempt (.perform (.inl rfl))) silent
  have subscribes : (Services.subscribe loop.agent.info.target).attempt.Ensures
      (Waiting loop.agent.info.target Known) fun _ => True :=
    Ensures.waiting _ (.anything _) (.attempt (.perform (.inr (.inl rfl)))) silent
  unfold step
  refine .bind (Ensures.waiting _ (.anything _) .elapsedTime silent) fun elapsed _ => ?_
  dsimp only
  split
  · exact .bind records fun _ _ => .pure (continues_idle rfl rfl)
  · split
    · exact stops none
    · refine .bind subscribes fun answer _ => ?_
      split
      · exact .pure (continues_idle rfl rfl)
      · split
        · exact .bind (Ensures.waiting _ (.anything _) .stop silent) fun _ _ =>
            .pure (continues_idle rfl rfl)
        · exact .pure (continues_idle rfl rfl)
  · split
    · exact stops _
    · split
      · exact .pure (continues_idle rfl rfl)
      · exact loop.listen_ensures _ _
  · exact .bind records fun _ _ => .pure (continues_idle rfl rfl)
  · rename_i listening assignment stage
    have known : Known assignment.id := works assignment (by rw [assignment?, stage]; rfl)
    split
    · exact .pure (continues_idle rfl rfl)
    · refine .bind (Ensures.waiting _ (assignment.step_ensures builds loop.agent interrupted)
        (assignment.step_within builds loop.agent interrupted) fun _ _ => id)
        fun progress same => ?_
      refine .pure ⟨by rw [Progress.state_map], fun later working => ?_⟩
      rw [Progress.state_map] at working
      cases working
      exact same ▸ known
  · split
    · exact stops _
    · split
      · split <;> exact .pure (continues_idle rfl rfl)
      · rename_i stage _ _
        exact .pure (continues_idle rfl (by rw [Progress.state, assignment?, stage]))
  · rename_i stage
    exact .pure (continues_idle rfl (by rw [Progress.state, assignment?, stage]))

end AgentLoop

end BuildFleet
