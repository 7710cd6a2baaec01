import BuildFleet.Dispatcher
import BuildFleet.Proofs.Monitor.Scan

/-!
# Turns of the dispatcher and of the monitor

The dispatcher and the monitor make one call at a time, and anything may happen
between two of them. A phase says what a party knows and which call is next; a
turn makes that call. A submission or a scan that nothing interrupts is the same
as all its turns.
-/

namespace BuildFleet

/-- A party takes turns until it rests. -/
inductive Services.Finishes {Phase : Type} (turn : Phase → Services → Phase × Services)
    (resting : Phase) : Phase → Services → Services → Prop
  | rests (services : Services) : Finishes turn resting resting services services
  | goesOn {phase : Phase} {services after : Services}
      (later : Finishes turn resting (turn phase services).1 (turn phase services).2 after) :
      Finishes turn resting phase services after

open Services

/-- A failure to publish is passed over, and nothing else can come of it. -/
theorem Services.publish_attempt (target : Target) (id : JobId) (actor : Actor)
    (services : Services) : ∃ answer, (Services.publish target id).attempt actor services =
      (.done answer, (Services.publish target id actor services).2) := by
  unfold Action.attempt Services.publish
  rcases perform_eq (.publish target id) actor services with ⟨plans, ⟨failure, failed⟩ | carried⟩
  · rw [failed]
    exact ⟨_, rfl⟩
  · rw [carried]
    exact ⟨_, rfl⟩

theorem Action.bind_pure_services {α : Type} (action : Action α) (actor : Actor)
    (services : Services) :
    ((action >>= Pure.pure) actor services).2 = (action actor services).2 := by
  rw [Action.bind_apply]
  rcases action actor services with ⟨_ | _ | _, after⟩ <;> rfl

/-! ## The dispatcher -/

namespace Dispatcher

/-- Where the dispatcher stands with a submission: about to make the job for a
target, or to publish one that it has made, with the other targets to follow. -/
inductive Phase where
  | creating (target : Target) (payload : Json) (rest : List Target)
  | publishing (target : Target) (id : JobId) (payload : Json) (rest : List Target)
  | ended

/-- The dispatcher turns to the first target that is left. -/
def begin (payload : Json) : List Target → Phase
  | [] => .ended
  | target :: rest => .creating target payload rest

/-- The dispatcher makes its next call. A failure to make a job ends the submission. -/
def turn : Phase → Services → Phase × Services
  | .creating target payload rest, services =>
    match Services.create target payload .main services with
    | (.done id, services) => (.publishing target id payload rest, services)
    | (_, services) => (.ended, services)
  | .publishing target id payload rest, services =>
    (begin payload rest, (Services.publish target id .main services).2)
  | .ended, services => (.ended, services)

theorem enqueue_finishes {target : Target} {payload : Json} {rest : List Target} {β : Type}
    {next : JobId → Action β}
    (later : ∀ id services, Finishes turn .ended (begin payload rest) services
      (next id .main services).2) (services : Services) :
    Finishes turn .ended (.creating target payload rest) services
      ((enqueue target payload >>= next) .main services).2 := by
  refine .goesOn ?_
  have enqueued : (enqueue target payload >>= next) .main services =
      (Services.create target payload >>= fun id =>
        (Services.publish target id).attempt >>= fun _ => next id) .main services := by
    simp only [enqueue, Action.bind_apply]
    rcases Services.create target payload .main services with ⟨id | _ | _, made⟩
    · rcases publish_attempt target id .main made with ⟨answer, published⟩
      simp only [published]
      rfl
    · rfl
    · rfl
  rw [enqueued, Action.bind_apply, turn]
  rcases Services.create target payload .main services with ⟨id | _ | _, made⟩
  · refine .goesOn ?_
    rcases publish_attempt target id .main made with ⟨answer, published⟩
    simp only [Action.bind_apply, published]
    exact later id _
  · exact .rests made
  · exact .rests made

theorem enqueueAll_finishes (payload : Json) (targets : List Target) (services : Services) :
    Finishes turn .ended (begin payload targets) services
      (enqueueAll payload targets .main services).2 := by
  induction targets generalizing services with
  | nil => exact .rests services
  | cons target rest induction =>
      refine enqueue_finishes (fun id services => ?_) services
      have finishes := induction services
      show Finishes _ _ _ _ ((enqueueAll payload rest >>= fun submitted =>
        pure (⟨target, id⟩ :: submitted)) .main services).2
      rw [Action.bind_apply]
      generalize enqueueAll payload rest .main services = result at finishes ⊢
      rcases result with ⟨_ | _ | _, after⟩ <;> exact finishes

/-- A submission is refused before any call, or it is the turns for its target. -/
theorem submit_finishes (dispatcher : Dispatcher) (name : String) (payload : Json)
    (services : Services) : ∃ targets, Finishes turn .ended (begin payload targets) services
      (dispatcher.submit name payload .main services).2 := by
  unfold submit
  cases dispatcher.targets.resolve name with
  | error failure => exact ⟨[], .rests services⟩
  | ok target =>
      cases dispatcher.schema.validate payload with
      | error failure => exact ⟨[], .rests services⟩
      | ok =>
          have finishes : Finishes turn .ended (begin payload [target]) services
              ((enqueue target payload >>= pure) .main services).2 :=
            enqueue_finishes (fun _ services => .rests services) services
          rw [Action.bind_pure_services] at finishes
          exact ⟨[target], finishes⟩

/-- The same for a submission to several targets at once. -/
theorem submitAll_finishes (dispatcher : Dispatcher) (names : List String) (payload : Json)
    (services : Services) : ∃ targets, Finishes turn .ended (begin payload targets) services
      (dispatcher.submitAll names payload .main services).2 := by
  unfold submitAll
  cases dispatcher.targets.expand names with
  | error failure => exact ⟨[], .rests services⟩
  | ok targets =>
      cases dispatcher.schema.validate payload with
      | error failure => exact ⟨[], .rests services⟩
      | ok => exact ⟨targets, enqueueAll_finishes payload targets services⟩

end Dispatcher

/-! ## The monitor -/

namespace LeaseMonitor

/-- How far a scan has come: it rests, or it goes through the expired jobs, has
one of them to publish again, or goes through the stale ones. -/
inductive Phase where
  | resting
  | expiring (jobs : List Job)
  | returning (job : Job) (rest : List Job)
  | republishing (job : Job) (rest : List Job)

/-- The monitor turns to the first stale job that is left. -/
def republish : List Job → Phase
  | [] => .resting
  | job :: rest => .republishing job rest

/-- The monitor makes its next call. -/
def turn (monitor : LeaseMonitor) : Phase → Services → Phase × Services
  | .resting, services =>
    match Services.expiredLeases monitor.batchSize .monitor services with
    | (.done jobs, services) => (.expiring jobs, services)
    | (_, services) => (.resting, services)
  | .expiring (job :: rest), services =>
    match Services.expireLease job.id .monitor services with
    | (.done (some .requeued), services) => (.returning job rest, services)
    | (.done _, services) => (.expiring rest, services)
    | (.failed failure, services) =>
      (if failure.isTransient then .resting else .expiring rest, services)
    | (.outOfTime, services) => (.resting, services)
  | .expiring [], services =>
    match Services.staleQueued monitor.scanInterval monitor.batchSize .monitor services with
    | (.done jobs, services) => (republish jobs, services)
    | (_, services) => (.resting, services)
  | .returning job rest, services =>
    (.expiring rest, (Services.publish job.target job.id .monitor services).2)
  | .republishing job rest, services =>
    (republish rest, (Services.publish job.target job.id .monitor services).2)

variable {monitor : LeaseMonitor} {job : Job}

theorem publishAgain_apply (job : Job) (actor : Actor) (services : Services) :
    publishAgain job actor services =
      (.done (), (Services.publish job.target job.id actor services).2) := by
  rcases publish_attempt job.target job.id actor services with ⟨answer, published⟩
  simp only [publishAgain, Action.bind_apply, published]
  rfl

theorem republishEach_finishes (jobs : List Job) (report : ScanReport) (services : Services) :
    Finishes monitor.turn .resting (republish jobs) services
      (republishEach jobs report .monitor services).2 := by
  induction jobs generalizing report services with
  | nil => exact .rests services
  | cons job rest induction =>
      refine .goesOn ?_
      rw [republishEach, Action.bind_apply, publishAgain_apply]
      exact induction _ _

/-- The second half of a scan. -/
def sweepStale (monitor : LeaseMonitor) (report : ScanReport) : Action ScanReport := do
  let stale ← Services.staleQueued monitor.scanInterval monitor.batchSize
  republishEach stale report

theorem expireEach_finishes (jobs : List Job) (report : ScanReport) (services : Services) :
    Finishes monitor.turn .resting (.expiring jobs) services
      ((expireEach jobs report >>= monitor.sweepStale) .monitor services).2 := by
  induction jobs generalizing report services with
  | nil =>
      refine .goesOn ?_
      show Finishes _ _ _ _ (monitor.sweepStale report .monitor services).2
      rw [sweepStale, Action.bind_apply, turn]
      rcases Services.staleQueued monitor.scanInterval monitor.batchSize .monitor services with
        ⟨stale | _ | _, after⟩
      · exact republishEach_finishes stale report after
      · exact .rests after
      · exact .rests after
  | cons job rest induction =>
      refine .goesOn ?_
      rw [expireEach_cons, Action.bind_apply, Action.bind_apply, Action.attempt, turn]
      rcases Services.expireLease job.id .monitor services with
        ⟨(_ | ⟨_ | _⟩) | failure | _, after⟩
      · exact induction report after
      · refine .goesOn ?_
        show Finishes _ _ _ _ (((publishAgain job >>= fun _ => expireEach rest _) >>=
          monitor.sweepStale) .monitor after).2
        rw [Action.bind_apply, Action.bind_apply, publishAgain_apply, ← Action.bind_apply]
        exact induction _ _
      · exact induction _ after
      · cases transient : failure.isTransient with
        | true => simp only [afterExpiry, transient, if_true]; exact .rests after
        | false => simp only [afterExpiry, transient]; exact induction report after
      · exact .rests after

/-- A scan that nothing interrupts is a turn at rest and all that follow. -/
theorem scan_finishes (monitor : LeaseMonitor) (services : Services) :
    Finishes monitor.turn .resting (monitor.turn .resting services).1
      (monitor.turn .resting services).2 (monitor.scan .monitor services).2 := by
  show Finishes _ _ _ _ ((Services.expiredLeases monitor.batchSize >>= fun expired =>
    expireEach expired ⟨0, 0, 0⟩ >>= monitor.sweepStale) .monitor services).2
  rw [Action.bind_apply, turn]
  rcases Services.expiredLeases monitor.batchSize .monitor services with ⟨expired | _ | _, after⟩
  · exact expireEach_finishes expired _ after
  · exact .rests after
  · exact .rests after

end LeaseMonitor

end BuildFleet
