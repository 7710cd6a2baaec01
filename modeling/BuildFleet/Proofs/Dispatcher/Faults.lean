import Mathlib.Algebra.Group.Nat.Defs
import BuildFleet.Proofs.Dispatcher.Submission
import BuildFleet.Proofs.Target.Expansion

/-!
# Submissions while calls fail

Calls may fail in any pattern. A submission makes its jobs in the order of its targets and
stops at the first target whose job cannot be made. A publication that fails costs a job
nothing but its place in the queue.
-/

namespace BuildFleet

/-! ## Identifiers -/

/-- Identifiers do not repeat before all of them have been handed out. -/
theorem freshIds_nodup {count : Nat} (made : Nat) (fit : count ≤ 2 ^ 128) :
    (freshIds made count).Nodup := by
  refine List.Nodup.map_on ?_ List.nodup_range
  intro first firstMember second secondMember same
  have firstSmall := Nat.lt_of_lt_of_le (List.mem_range.mp firstMember) fit
  have secondSmall := Nat.lt_of_lt_of_le (List.mem_range.mp secondMember) fit
  have sameBits : BitVec.ofNat 128 (firstJobNumber * 16 + (made + first)) =
      BitVec.ofNat 128 (firstJobNumber * 16 + (made + second)) := congrArg JobId.value same
  have sameNumber := congrArg BitVec.toNat sameBits
  simp only [BitVec.toNat_ofNat] at sameNumber
  omega

theorem Store.job?_added {store : Store} {jobs : List Job} {job : Job}
    (distinct : (jobs.map (·.id)).Nodup) (member : job ∈ jobs)
    (absent : store.job? job.id = none) :
    ({ store with jobs := store.jobs ++ jobs } : Store).job? job.id = some job := by
  have among : ({ store with jobs } : Store).job? job.id = some job := job?_of_mem distinct member
  unfold job? at absent among ⊢
  rw [List.find?_append, absent]
  exact among

theorem Submitted.mem_published {verdicts : Nat → Option Failure} {parts : List Submitted}
    {part : Submitted} : part ∈ published verdicts parts ↔
      ∃ position, parts[position]? = some part ∧ verdicts position = none := by
  induction parts generalizing verdicts with
  | nil => simp [published]
  | cons first rest induction =>
      have split : (∃ position, (first :: rest)[position]? = some part ∧ verdicts position = none) ↔
          (first = part ∧ verdicts 0 = none) ∨
            ∃ position, rest[position]? = some part ∧ verdicts (position + 1) = none := by
        constructor
        · rintro ⟨_ | position, found, passes⟩
          · exact .inl ⟨Option.some.inj found, passes⟩
          · exact .inr ⟨position, found, passes⟩
        · rintro (⟨rfl, passes⟩ | ⟨position, found, passes⟩)
          · exact ⟨0, rfl, passes⟩
          · exact ⟨position + 1, found, passes⟩
      rw [split, ← induction, published]
      by_cases passes : verdicts 0 = none <;> simp [passes, eq_comm]

namespace Services

variable {services : Services} {payload : Json} {target : Target} {rest : List Target}
  {count : Nat} {awakened : List Subscription} {journal : List Entry}

open Submitted FailurePlan

/-! ## One part and the rest -/

/-- A part that is made first comes before the others. -/
theorem submitting_submitting (services : Services) (payload : Json) (part : Submitted)
    (others : List Submitted) (plans : List FailurePlan) (awakened later : List Subscription)
    (journal after : List Entry) :
    (services.submitting payload [part] (spent services.plans) awakened journal).submitting payload
      others plans later after =
        services.submitting payload (part :: others) plans later after := by
  by_cases passes : verdict "publish" services.plans 0 = none <;>
    simp [submitting, published, Queue.publishEach, verdict_publish_spent, passes,
      Nat.add_comm, Nat.add_left_comm]

theorem fault?_submitting (position : Nat) (part : Submitted) :
    (services.submitting payload [part] (spent services.plans) awakened journal).fault? position
      target = services.fault? (position + 1) target := by
  unfold fault?
  rw [← verdict_create_spent]
  rfl

/-- No creation is going to fail at the first so many of the targets. -/
def Clear (services : Services) (targets : List Target) (count : Nat) : Prop :=
  ∀ position < count, ∀ target, targets[position]? = some target →
    services.fault? position target = none

theorem clear_zero (services : Services) (targets : List Target) : services.Clear targets 0 :=
  fun _ before => absurd before (Nat.not_lt_zero _)

theorem clear_cons {part : Submitted} (faultless : services.fault? 0 target = none)
    (clear : (services.submitting payload [part] (spent services.plans) awakened journal).Clear
      rest count) : services.Clear (target :: rest) (count + 1) := by
  rintro (_ | position) before other found
  · cases found
    exact faultless
  · rw [← fault?_submitting position part]
    exact clear position (Nat.lt_of_succ_lt_succ before) other found

end Services

namespace Dispatcher

open Services Submitted FailurePlan

/-- All targets get a job, up to the first whose creation fails. -/
theorem enqueueAll_cases (payload : Json) (targets : List Target) (actor : Actor)
    (services : Services) : ∃ plans awakened journal,
    services.Clear targets targets.length ∧
      enqueueAll payload targets actor services = (.done (numbered services.made targets),
        services.submitting payload (numbered services.made targets) plans awakened journal) ∨
    ∃ count target failure, services.Clear targets count ∧ targets[count]? = some target ∧
      services.fault? count target = some failure ∧
      enqueueAll payload targets actor services = (.failed failure,
        services.submitting payload (numbered services.made (targets.take count)) plans awakened
          journal) := by
  induction targets generalizing services with
  | nil =>
      refine ⟨services.plans, services.awakened, services.journal, .inl ⟨clear_zero _ _, ?_⟩⟩
      rw [numbered, submitting_nil]
      rfl
  | cons target rest induction =>
      rcases enqueue_cases target payload actor services with
        ⟨awakened, journal, ⟨failure, fault, fails⟩ | ⟨faultless, makes⟩⟩
      · refine ⟨(consult "create" services.plans).2, awakened, journal,
          .inr ⟨0, target, failure, clear_zero _ _, rfl, fault, ?_⟩⟩
        unfold enqueueAll
        rw [Action.bind_apply, fails]
        rfl
      · -- The rest is made by the services that the first job has left.
        rcases induction (services.submitting payload [⟨target, freshId services.made⟩]
            (spent services.plans) awakened journal) with
          ⟨plans, later, entries,
            ⟨clear, others⟩ | ⟨count, next, failure, clear, there, fault, others⟩⟩
        · refine ⟨plans, later, entries, .inl ⟨clear_cons faultless clear, ?_⟩⟩
          rw [enqueueAll_cons makes, others, submitting_submitting]
          rfl
        · refine ⟨plans, later, entries, .inr ⟨count + 1, next, failure,
            clear_cons faultless clear, there, (fault?_submitting _ _).symm.trans fault, ?_⟩⟩
          rw [enqueueAll_cons makes, others, submitting_submitting]
          rfl

end Dispatcher

namespace Services

open Submitted FailurePlan

/-! ## What a submission leaves -/

/-- So many identifiers more can be handed out, and none of them is in use. -/
structure Roomy (services : Services) (count : Nat) : Prop where
  count_le : count ≤ 2 ^ 128
  unused : ∀ id ∈ freshIds services.made count, services.store.job? id = none

/-- Each part has become a queued job under an identifier of its own, and the store has got
nothing else. A job waits at its target unless its publication fails. -/
structure Makes (before : Services) (payload : Json) (parts : List Submitted)
    (after : Services) : Prop where
  store : after.store = { before.store with
    jobs := before.store.jobs ++ parts.map (job payload before.now) }
  distinct : (parts.map (·.jobId)).Nodup
  unused : ∀ part ∈ parts, before.store.job? part.jobId = none
  found : ∀ part ∈ parts, after.store.job? part.jobId = some (part.job payload before.now)
  queue : after.queue = before.queue.publishEach
    ((published (verdict "publish" before.plans) parts).map (job payload before.now))
  waits : ∀ position part, parts[position]? = some part →
    verdict "publish" before.plans position = none →
    part.jobId ∈ after.queue.pending part.target

namespace Roomy

variable {services : Services} {count : Nat} {targets : List Target}

theorem distinct (roomy : services.Roomy count) (fit : targets.length ≤ count) :
    ((numbered services.made targets).map (·.jobId)).Nodup := by
  rw [map_jobId_numbered]
  exact freshIds_nodup _ (Nat.le_trans fit roomy.count_le)

theorem makes (roomy : services.Roomy count) (reached : services.queue.Reached)
    (fit : targets.length ≤ count) (payload : Json) (plans : List FailurePlan)
    (awakened : List Subscription) (journal : List Entry) :
    services.Makes payload (numbered services.made targets)
      (services.submitting payload (numbered services.made targets) plans awakened journal) where
  store := rfl
  distinct := roomy.distinct fit
  unused := unused_numbered roomy.unused fit
  found := by
    intro part member
    have distinctJobs : (((numbered services.made targets).map
        (job payload services.now)).map (·.id)).Nodup := by
      rw [List.map_map]
      exact roomy.distinct fit
    exact Store.job?_added distinctJobs (List.mem_map_of_mem member)
      (unused_numbered roomy.unused fit part member)
  queue := rfl
  waits := by
    intro position part there passes
    have isPublished := mem_published.mpr ⟨position, there, passes⟩
    exact reached.sound.mem_publishEach (List.mem_map_of_mem isPublished)

end Roomy

end Services

namespace Dispatcher

variable {α : Type} {services : Services} {payload : Json} {targets : List Target}
  {parts : α → List Submitted} {count : Nat} {dispatcher : Dispatcher}

open Services Submitted FailurePlan

/-! ## What comes of a submission -/

/-- What can come of a submission to these targets, when its value tells of these parts. -/
inductive SubmitOutcome (payload : Json) (targets : List Target) (parts : α → List Submitted)
    (before : Services) : Outcome α × Services → Prop
  /-- Every target has got its job. -/
  | complete {value : α} {after : Services} (clear : before.Clear targets targets.length)
      (each : (parts value).map (·.target) = targets)
      (makes : before.Makes payload (parts value) after) :
      SubmitOutcome payload targets parts before (.done value, after)
  /-- The first creation that fails tells the failure, and the targets before have their jobs. -/
  | stopped {count : Nat} {target : Target} {failure : Failure} {made : List Submitted}
      {after : Services} (clear : before.Clear targets count)
      (next : targets[count]? = some target) (fault : before.fault? count target = some failure)
      (each : made.map (·.target) = targets.take count) (makes : before.Makes payload made after) :
      SubmitOutcome payload targets parts before (.failed failure, after)

theorem enqueueAll_outcome (roomy : services.Roomy count) (reached : services.queue.Reached)
    (fit : targets.length ≤ count) (payload : Json) (actor : Actor) :
    SubmitOutcome payload targets id services (enqueueAll payload targets actor services) := by
  rcases enqueueAll_cases payload targets actor services with
    ⟨plans, awakened, journal, ⟨clear, done⟩ | ⟨count, target, failure, clear, next, fault, fails⟩⟩
  · rw [done]
    exact .complete clear (map_target_numbered _ _)
      (roomy.makes reached fit payload plans awakened journal)
  · rw [fails]
    have fewer : (targets.take count).length ≤ targets.length := List.length_take_le' count targets
    exact .stopped clear next fault (map_target_numbered _ _)
      (roomy.makes reached (Nat.le_trans fewer fit) payload plans awakened journal)

theorem enqueue_outcome (roomy : services.Roomy count) (reached : services.queue.Reached)
    (some : 0 < count) (target : Target) (payload : Json) (actor : Actor) :
    SubmitOutcome payload [target] (fun jobId => [⟨target, jobId⟩]) services
      (enqueue target payload actor services) := by
  rcases enqueue_cases target payload actor services with
    ⟨awakened, journal, ⟨failure, fault, fails⟩ | ⟨faultless, done⟩⟩
  · rw [fails]
    have none : ([] : List Target).length ≤ count := Nat.zero_le count
    exact .stopped (clear_zero _ _) rfl fault rfl
      (roomy.makes reached none payload _ awakened journal)
  · rw [done]
    have one : [target].length ≤ count := some
    refine .complete ?_ rfl (roomy.makes reached one payload _ awakened journal)
    rintro (_ | position) before other found
    · cases found
      exact faultless
    · cases found

end Dispatcher

/-! ## A sample submission

The first publication fails, and so does the third creation. -/

namespace Sample

def wideRegistry : TargetRegistry :=
  ⟨[⟨"amd64"⟩, ⟨"arm64"⟩, ⟨"riscv64"⟩], [("arm", [⟨"arm64"⟩])]⟩

def wideDispatcher : Dispatcher := ⟨wideRegistry, .any, .ofSeconds 600⟩

def faultyServices : Services :=
  { Services.start ⟨wideRegistry, 2⟩ (moment 0) with
    plans := [⟨"publish", 0, 1, .unavailable "queue"⟩, ⟨"create", 2, 1, .unavailable "store"⟩] }

end Sample

end BuildFleet
