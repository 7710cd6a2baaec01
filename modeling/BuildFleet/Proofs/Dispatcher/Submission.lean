import Mathlib.Data.List.Nodup
import BuildFleet.Dispatcher
import BuildFleet.Proofs.Fleet.Calls
import BuildFleet.Proofs.Queue.Pending
import BuildFleet.Proofs.Services.Moment
import BuildFleet.Proofs.Services.Plans
import BuildFleet.Proofs.Store.Lookup
import BuildFleet.Proofs.Target.Registry

/-!
# What comes of a submission or a cancellation

A job is made unless its creation fails, and published unless its publication fails.
While no call of the dispatcher is made to fail, a submission that is accepted adds
its jobs to the store and publishes them, one that is refused does nothing, and a
cancellation ends one job or does nothing. Each command has one statement here that
lists all its outcomes.
-/

namespace BuildFleet

/-! ## New jobs -/

/-- The job that a part of a submission stands for. -/
def Submitted.job (payload : Json) (now : Instant) (submitted : Submitted) : Job :=
  Job.new submitted.jobId submitted.target payload now

/-- The parts of a submission to these targets, under the next identifiers. -/
def Submitted.numbered (made : Nat) : List Target → List Submitted
  | [] => []
  | target :: rest => ⟨target, freshId made⟩ :: numbered (made + 1) rest

@[simp] theorem Submitted.map_target_numbered (made : Nat) (targets : List Target) :
    (numbered made targets).map (·.target) = targets := by
  induction targets generalizing made with
  | nil => rfl
  | cons target rest induction => simp [numbered, induction]

/-- The identifiers that are handed out next. -/
def freshIds (made count : Nat) : List JobId :=
  (List.range count).map fun place => freshId (made + place)

theorem freshIds_sublist (made : Nat) {fewer count : Nat} (fit : fewer ≤ count) :
    (freshIds made fewer).Sublist (freshIds made count) :=
  (List.range_sublist.mpr fit).map _

theorem Submitted.map_jobId_numbered (made : Nat) (targets : List Target) :
    (numbered made targets).map (·.jobId) = freshIds made targets.length := by
  induction targets generalizing made with
  | nil => rfl
  | cons target rest induction =>
      simp [numbered, induction, freshIds, List.range_succ_eq_map, Nat.add_comm, Nat.add_left_comm]

/-- If the next identifiers are new, so are those of the parts. -/
theorem Submitted.unused_numbered {store : Store} {made count : Nat} {targets : List Target}
    (unused : ∀ id ∈ freshIds made count, store.job? id = none) (fit : targets.length ≤ count) :
    ∀ part ∈ numbered made targets, store.job? part.jobId = none := by
  intro part member
  have isFresh : part.jobId ∈ freshIds made targets.length := by
    rw [← map_jobId_numbered]
    exact List.mem_map_of_mem member
  exact unused _ ((freshIds_sublist _ fit).subset isFresh)

/-- The parts of a submission that are published, by what is planned for their publications. -/
def Submitted.published (verdicts : Nat → Option Failure) : List Submitted → List Submitted
  | [] => []
  | part :: rest =>
    let others := published (fun position => verdicts (position + 1)) rest
    if verdicts 0 = none then part :: others else others

/-- What is left of the plans when a job has been made and its publication been tried. -/
def FailurePlan.spent (plans : List FailurePlan) : List FailurePlan :=
  (consult "publish" (consult "create" plans).2).2

theorem FailurePlan.verdict_create_spent (plans : List FailurePlan) (position : Nat) :
    verdict "create" (spent plans) position = verdict "create" plans (position + 1) := by
  rw [spent, verdict_consult (by decide), verdict]

theorem FailurePlan.verdict_publish_spent (plans : List FailurePlan) :
    verdict "publish" (spent plans) = fun position => verdict "publish" plans (position + 1) := by
  funext position
  rw [spent, consult_consult (by decide), verdict_consult (by decide), verdict]

namespace Services

variable {actor : Actor} {services : Services} {May : Call → Prop}

/-- Why the job for a target cannot be made, if it is the next but so many: its creation is
planned to fail, or the store does not know the target. -/
def fault? (services : Services) (position : Nat) (target : Target) : Option Failure :=
  (FailurePlan.verdict "create" services.plans position).or
    (if services.settings.targets.contains target then none
    else some (.invalidTarget target.name))

/-- The services with these parts of a submission made, and published unless that fails. -/
def submitting (services : Services) (payload : Json) (parts : List Submitted)
    (plans : List FailurePlan) (awakened : List Subscription) (journal : List Entry) : Services :=
  { services with
    store := { services.store with
      jobs := services.store.jobs ++ parts.map (Submitted.job payload services.now) }
    queue := services.queue.publishEach
      ((Submitted.published (FailurePlan.verdict "publish" services.plans) parts).map
        (Submitted.job payload services.now))
    made := services.made + parts.length
    plans, awakened, journal }

@[simp] theorem submitting_nil (services : Services) (payload : Json) (plans : List FailurePlan)
    (awakened : List Subscription) (journal : List Entry) :
    services.submitting payload [] plans awakened journal =
      { services with plans, awakened, journal } := by
  simp [submitting, Submitted.published, Queue.publishEach]

/-- No call that may be made has a failure to come. -/
def Unplanned (May : Call → Prop) (services : Services) : Prop :=
  ∀ plan ∈ services.plans, ∀ call, May call → plan.call = call.name → plan.times = 0

theorem Unplanned.perform (unplanned : services.Unplanned May) {call : Call} (may : May call)
    (actor : Actor) : perform call actor services = ((services.carryOut call).1,
      (services.carryOut call).2.record actor (.called call (services.carryOut call).1)) :=
  perform_unplanned call actor fun plan member => unplanned plan member call may

/-- The services with these jobs made and published. -/
def queueing (services : Services) (jobs : List Job) (awakened : List Subscription)
    (journal : List Entry) : Services :=
  { services with
    store := { services.store with jobs := services.store.jobs ++ jobs }
    queue := services.queue.publishEach jobs
    made := services.made + jobs.length
    awakened, journal }

@[simp] theorem queueing_nil (services : Services) :
    services.queueing [] services.awakened services.journal = services := by
  simp [queueing, Queue.publishEach]

@[simp] theorem queueing_queueing (services : Services) (first rest : List Job)
    (awakened later : List Subscription) (journal after : List Entry) :
    (services.queueing first awakened journal).queueing rest later after =
      services.queueing (first ++ rest) later after := by
  simp [queueing, Queue.publishEach, Nat.add_assoc]

end Services

/-! ## One job that is cancelled -/

namespace Store

variable {store : Store} {job : Job} {now : Instant}

theorem replace_of_mem (distinct : (store.jobs.map (·.id)).Nodup) (member : job ∈ store.jobs) :
    store.replace job = store := by
  have unchanged : ∀ other ∈ store.jobs, (if other.id = job.id then job else other) = id other := by
    intro other there
    split
    · rename_i sameId
      exact List.inj_on_of_nodup_map distinct member there sameId.symm
    · rfl
  rw [replace, List.map_congr_left unchanged, List.map_id]

theorem cancel_ended {id : JobId} (distinct : (store.jobs.map (·.id)).Nodup)
    (found : store.job? id = some job) (ended : job.status.isTerminal = true) :
    store.cancel id now = (.failed (.alreadyTerminal
      ("job " ++ job.id.text ++ " is " ++ job.status.name)), store) := by
  have refuses : job.cancel now = (.failed (.alreadyTerminal _), job) := if_pos ended
  refine (mutate_found found (by simp [refuses])).trans ?_
  simp [refuses, replace_of_mem distinct (mem_of_job? found)]

theorem cancel_unfinished {id : JobId} (found : store.job? id = some job)
    (unfinished : job.status.isTerminal = false) :
    store.cancel id now =
      (.done (), (store.replace (job.cancelledAt now)).announce (job.cancelledAt now) now) := by
  have ends : job.cancel now = (.done (), job.cancelledAt now) :=
    if_neg (Bool.eq_false_iff.mp unfinished)
  have changes : (job.cancelledAt now).status ≠ job.status ∧
      (job.cancelledAt now).status.isTerminal = true := by
    refine ⟨fun same => ?_, rfl⟩
    rw [← same] at unfinished
    cases unfinished
  refine (mutate_found found (by simp [ends])).trans ?_
  simp only [ends]
  rw [if_pos changes]

end Store

namespace Dispatcher

variable {dispatcher : Dispatcher} {actor : Actor} {services : Services} {payload : Json}
  {target : Target} {targets : List Target} {name : String} {names : List String} {id : JobId}

open Services Submitted FailurePlan

/-! ## Submissions -/

private theorem create_cases (target : Target) (payload : Json) (actor : Actor)
    (services : Services) : ∃ journal,
    (∃ failure, services.fault? 0 target = some failure ∧
      Services.create target payload actor services = (.failed failure,
        { services with plans := (consult "create" services.plans).2, journal })) ∨
      services.fault? 0 target = none ∧
        Services.create target payload actor services = (.done (freshId services.made),
          { services with
            store := { services.store with jobs := services.store.jobs ++
              [Job.new (freshId services.made) target payload services.now] }
            made := services.made + 1
            plans := (consult "create" services.plans).2, journal }) := by
  let call : Call := .store (.create (freshId services.made) target payload)
  cases planned : (consult call.name services.plans).1 with
  | some failure =>
      have fails : (consult "create" services.plans).1 = some failure := planned
      rcases perform_failing planned actor with ⟨journal, performs⟩
      refine ⟨journal, .inl ⟨failure, by rw [fault?, verdict, fails]; rfl, ?_⟩⟩
      unfold Services.create
      rw [performs]
      rfl
  | none =>
      have passes : (consult "create" services.plans).1 = none := planned
      rcases perform_passing planned actor with ⟨journal, performs⟩
      by_cases accepted : services.settings.targets.contains target = true
      · simp only [call, carryOut, Store.perform, Store.create, if_pos accepted] at performs
        refine ⟨journal, .inr ⟨by rw [fault?, verdict, passes, if_pos accepted]; rfl, ?_⟩⟩
        unfold Services.create
        rw [performs]
        rfl
      · simp only [call, carryOut, Store.perform, Store.create, if_neg accepted] at performs
        refine ⟨journal, .inl ⟨_, by rw [fault?, verdict, passes, if_neg accepted]; rfl, ?_⟩⟩
        unfold Services.create
        rw [performs]
        rfl

private theorem publish_attempt (target : Target) (id : JobId) (actor : Actor)
    (services : Services) : ∃ answer awakened journal,
    (Services.publish target id).attempt actor services = (.done answer,
      { services with
        queue := if (consult "publish" services.plans).1 = none then
            (services.queue.publish target id).2
          else services.queue
        plans := (consult "publish" services.plans).2, awakened, journal }) := by
  cases planned : (consult (Call.publish target id).name services.plans).1 with
  | some failure =>
      have fails : (consult "publish" services.plans).1 = some failure := planned
      rcases perform_failing planned actor with ⟨journal, performs⟩
      refine ⟨.error failure, services.awakened, journal, ?_⟩
      unfold Action.attempt Services.publish
      rw [performs, fails]
      rfl
  | none =>
      have passes : (consult "publish" services.plans).1 = none := planned
      rcases perform_passing planned actor with ⟨journal, performs⟩
      refine ⟨.ok (), services.awakened ++ (services.queue.publish target id).1.toList, journal, ?_⟩
      unfold Action.attempt Services.publish
      rw [performs, passes]
      rfl

/-- A job is made and its publication tried, unless its creation fails. -/
theorem enqueue_cases (target : Target) (payload : Json) (actor : Actor) (services : Services) :
    ∃ awakened journal,
    (∃ failure, services.fault? 0 target = some failure ∧
      enqueue target payload actor services = (.failed failure, services.submitting payload []
        (consult "create" services.plans).2 awakened journal)) ∨
      services.fault? 0 target = none ∧
        enqueue target payload actor services = (.done (freshId services.made),
          services.submitting payload [⟨target, freshId services.made⟩] (spent services.plans)
            awakened journal) := by
  rcases create_cases target payload actor services with
    ⟨journal, ⟨failure, fault, fails⟩ | ⟨faultless, creates⟩⟩
  · refine ⟨services.awakened, journal, .inl ⟨failure, fault, ?_⟩⟩
    unfold enqueue
    rw [Action.bind_apply, fails, submitting_nil]
  · rcases publish_attempt target (freshId services.made) actor
      (Services.create target payload actor services).2 with ⟨answer, awakened, later, publishes⟩
    rw [creates] at publishes
    have sameVerdict : (consult "publish" (consult "create" services.plans).2).1 =
        verdict "publish" services.plans 0 := by
      rw [consult_consult (by decide), verdict]
    refine ⟨awakened, later, .inr ⟨faultless, ?_⟩⟩
    unfold enqueue
    rw [Action.bind_done (congrArg Prod.fst creates), creates, Action.bind_apply, publishes]
    dsimp only
    rw [sameVerdict]
    by_cases passes : verdict "publish" services.plans 0 = none <;>
      simp [submitting, published, Queue.publishEach, passes, job] <;> rfl

theorem enqueue_eq (payload : Json)
    (accepted : services.settings.targets.contains target = true)
    (unplanned : services.Unplanned MayCall) (actor : Actor) : ∃ awakened journal,
    enqueue target payload actor services = (.done (freshId services.made),
      services.queueing [Job.new (freshId services.made) target payload services.now]
        awakened journal) := by
  have unforeseen : ∀ name, name = "create" ∨ name = "publish" →
      consult name services.plans = (none, services.plans) := by
    rintro _ (rfl | rfl)
    · exact consult_unplanned fun plan member =>
        unplanned plan member (.store (.create (freshId 0) target payload)) trivial
    · exact consult_unplanned fun plan member =>
        unplanned plan member (.publish target (freshId 0)) trivial
  have creates := unforeseen "create" (.inl rfl)
  have publishes := unforeseen "publish" (.inr rfl)
  rcases enqueue_cases target payload actor services with
    ⟨awakened, journal, ⟨failure, fault, _⟩ | ⟨_, enqueued⟩⟩
  · rw [fault?, verdict, creates, if_pos accepted] at fault
    cases fault
  · refine ⟨awakened, journal, enqueued.trans ?_⟩
    simp [submitting, queueing, published, verdict, spent, creates, publishes, job]

/-- After the first target the rest goes on by itself. -/
theorem enqueueAll_cons {middle : Services}
    (first : enqueue target payload actor services = (.done id, middle)) (rest : List Target) :
    enqueueAll payload (target :: rest) actor services =
      ((enqueueAll payload rest actor middle).1.map (⟨target, id⟩ :: ·),
        (enqueueAll payload rest actor middle).2) := by
  rw [enqueueAll, Action.bind_apply, first]
  dsimp only
  rw [Action.bind_apply]
  generalize enqueueAll payload rest actor middle = others
  rcases others with ⟨_ | _ | _, after⟩ <;> rfl

/-- Targets that the store accepts get a job each. -/
theorem enqueueAll_eq (accepted : ∀ target ∈ targets,
      services.settings.targets.contains target = true)
    (unplanned : services.Unplanned MayCall) (actor : Actor) : ∃ awakened journal,
    enqueueAll payload targets actor services = (.done (numbered services.made targets),
      services.queueing ((numbered services.made targets).map (job payload services.now))
        awakened journal) := by
  induction targets generalizing services with
  | nil => exact ⟨services.awakened, services.journal, Prod.ext rfl services.queueing_nil.symm⟩
  | cons target rest induction =>
      rcases enqueue_eq payload (accepted target List.mem_cons_self) unplanned actor
        with ⟨awakened, journal, first⟩
      -- The rest is made by the services that the first job has left, numbered on from there.
      let middle := services.queueing
        [Job.new (freshId services.made) target payload services.now] awakened journal
      have stillUnplanned : middle.Unplanned MayCall := unplanned
      have restAccepted : ∀ target ∈ rest, middle.settings.targets.contains target = true :=
        fun target member => accepted target (List.mem_cons_of_mem _ member)
      rcases induction restAccepted stillUnplanned with ⟨later, after, others⟩
      refine ⟨later, after, ?_⟩
      rw [enqueueAll_cons first, others]
      exact Prod.ext rfl (services.queueing_queueing _ _ _ _ _ _)

/-- A submission is refused before any call is made, or its job is made and published. -/
theorem submit_cases (name : String) (payload : Json)
    (known : ∀ target ∈ dispatcher.targets.targets,
      services.settings.targets.contains target = true)
    (unplanned : services.Unplanned MayCall) (actor : Actor) :
    (∃ failure, dispatcher.submit name payload actor services = (.failed failure, services)) ∨
      ⟨name⟩ ∈ dispatcher.targets.targets ∧ ∃ awakened journal,
        dispatcher.submit name payload actor services = (.done (freshId services.made),
          services.queueing [Job.new (freshId services.made) ⟨name⟩ payload services.now]
            awakened journal) := by
  unfold submit TargetRegistry.resolve
  by_cases contained : dispatcher.targets.contains ⟨name⟩ = true
  · have member := TargetRegistry.contains_iff.mp contained
    cases valid : dispatcher.schema.validate payload with
    | error failure => exact .inl ⟨failure, by simp [contained]; rfl⟩
    | ok _ =>
        rcases enqueue_eq payload (known _ member) unplanned actor with
          ⟨awakened, journal, enqueued⟩
        refine .inr ⟨member, awakened, journal, ?_⟩
        simp only [contained, if_true]
        exact enqueued
  · exact .inl ⟨.invalidTarget name, by simp only [contained]; rfl⟩

/-- Either no job is made, or one for each target that the names expand to. -/
theorem submitAll_cases (names : List String) (payload : Json) (built : dispatcher.targets.Built)
    (known : ∀ target ∈ dispatcher.targets.targets,
      services.settings.targets.contains target = true)
    (unplanned : services.Unplanned MayCall) (actor : Actor) :
    (∃ failure, dispatcher.submitAll names payload actor services = (.failed failure, services)) ∨
      ∃ targets, dispatcher.targets.expand names = .ok targets ∧ ∃ awakened journal,
        dispatcher.submitAll names payload actor services =
          (.done (numbered services.made targets),
            services.queueing ((numbered services.made targets).map (job payload services.now))
              awakened journal) := by
  unfold submitAll
  cases expands : dispatcher.targets.expand names with
  | error failure => exact .inl ⟨failure, rfl⟩
  | ok targets =>
      cases valid : dispatcher.schema.validate payload with
      | error failure => exact .inl ⟨failure, rfl⟩
      | ok _ =>
          have accepted : ∀ target ∈ targets, services.settings.targets.contains target = true :=
            fun target member => known target ((built.expand expands).2 member)
          exact .inr ⟨targets, rfl, enqueueAll_eq accepted unplanned actor⟩

/-! ## Cancellations -/

/-- What can come of a cancellation. -/
inductive CancelOutcome (id : JobId) (services : Services) : Outcome Unit × Services → Prop
  | missing {journal : List Entry} (absent : services.store.job? id = none) :
      CancelOutcome id services (.failed (Store.missing id), { services with journal })
  | ended {job : Job} {journal : List Entry} {message : String}
      (found : services.store.job? id = some job) (ended : job.status.isTerminal = true) :
      CancelOutcome id services (.failed (.alreadyTerminal message), { services with journal })
  | cancelled {job : Job} {journal : List Entry}
      (found : services.store.job? id = some job) (unfinished : job.status.isTerminal = false) :
      CancelOutcome id services (.done (), { services with
        store := (services.store.replace (job.cancelledAt services.now)).announce
          (job.cancelledAt services.now) services.now
        journal })

theorem cancel_outcome (distinct : (services.store.jobs.map (·.id)).Nodup)
    (unplanned : services.Unplanned MayCall) (id : JobId) (actor : Actor) :
    CancelOutcome id services (cancel id actor services) := by
  have mayCancel : MayCall (.store (.cancel id)) := trivial
  have performs := unplanned.perform mayCancel actor
  simp only [carryOut, Store.perform] at performs
  unfold cancel Services.cancel
  rw [performs]
  cases found : services.store.job? id with
  | none =>
      have fails : services.store.cancel id services.now = _ := Store.mutate_missing found
      rw [fails]
      exact .missing found
  | some job =>
      cases ends : job.status.isTerminal with
      | true =>
          rw [Store.cancel_ended distinct found ends]
          exact .ended found ends
      | false =>
          rw [Store.cancel_unfinished found ends]
          exact .cancelled found ends

end Dispatcher

end BuildFleet
