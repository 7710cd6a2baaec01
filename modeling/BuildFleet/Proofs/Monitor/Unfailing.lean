import BuildFleet.Proofs.Fleet.Calls
import BuildFleet.Proofs.Monitor.Scan
import BuildFleet.Proofs.Services.Laws

/-!
# Scans that nobody makes fail

If no failure is planned for the calls of a monitor, none of its calls fails: it
expires the leases of jobs that the store has listed. So a scan that comes to its end
succeeds, and it has expired every lease that was over, if its list was long enough.
-/

namespace BuildFleet

namespace Action

variable {α β : Type} {actor : Actor} {services : Services} {action : Action α}
  {next : α → Action β} {May : Call → Prop}

/-- An action makes no call fail if no failure is planned for its calls and the services
answer them. -/
theorem Within.unfailing (within : action.Within May) (Holds : Services → Prop)
    (kept : ∀ before after, Services.Deed May actor before after → Holds before → Holds after)
    (unforeseen : ∀ services, Holds services → ∀ call, May call →
      ∀ plan ∈ services.plans, plan.call ≠ call.name)
    (answered : ∀ services, Holds services → ∀ call, May call → ∀ failure,
      (services.carryOut call).1 ≠ .failed failure)
    (holds : Holds services) : action.Unfailing actor services := by
  have same : ∀ before after, Services.Deed May actor before after →
      Holds before ∧ before.failures = services.failures →
        Holds after ∧ after.failures = services.failures := by
    rintro before after deed ⟨holds, failures⟩
    refine ⟨kept before after deed holds, ?_⟩
    cases deed with
    | @call call may =>
        have answer := answered before holds call may
        rw [Services.perform_unforeseen call actor (unforeseen before holds call may),
          Services.failures_record, Services.failures, Services.journal_carryOut]
        generalize (before.carryOut call).1 = outcome at answer ⊢
        cases outcome with
        | failed failure => exact absurd rfl (answer failure)
        | done | outOfTime => exact failures
    | @note happening silent =>
        rw [Services.failures_record]
        cases happening with
        | called => cases silent
        | _ => exact failures
    | plan =>
        rw [Services.failures, Services.journal_plannedDelivery]
        exact failures
    | poll | unsubscribe | count => exact failures
  exact (within.keeps same ⟨holds, rfl⟩).2

end Action

namespace LeaseMonitor

open BuildFleet.Action

variable {actor : Actor} {services after : Services} {monitor : LeaseMonitor} {jobs : List Job}
  {report : ScanReport}

/-- The names of the calls that a monitor makes. -/
def callNames : List String := ["expired_leases", "expire_lease", "stale_queued", "publish"]

/-- The calls that a monitor makes, the leases being those of jobs with these identifiers. -/
def AsksOf (ids : List JobId) (call : Call) : Prop :=
  MayCall call ∧ ∀ id, call = .store (.expireLease id) → id ∈ ids

theorem AsksOf.publish (ids : List JobId) (target : Target) (id : JobId) :
    AsksOf ids (.publish target id) := by
  refine ⟨trivial, fun id same => ?_⟩
  cases same

theorem name_mem_callNames {call : Call} (may : MayCall call) : call.name ∈ callNames := by
  rcases call with store | _ | _ | _
  · cases store with
    | expiredLeases | expireLease | staleQueued => simp [Call.name, StoreCall.name, callNames]
    | _ => cases may
  · simp [Call.name, callNames]
  · cases may
  · cases may

/-- The services answer whatever a monitor asks, unless a time lies outside the calendar. -/
theorem AsksOf.answered {call : Call} (asks : AsksOf (services.store.jobs.map (·.id)) call)
    (failure : Failure) : (services.carryOut call).1 ≠ .failed failure := by
  rcases asks with ⟨may, listed⟩
  rcases call with store | _ | _ | _
  · cases store with
    | expiredLeases => nofun
    | expireLease id =>
        rcases List.mem_map.mp (listed id rfl) with ⟨job, there, same⟩
        have stored : (services.store.job? id).isSome = true :=
          List.find?_isSome.mpr ⟨job, there, beq_iff_eq.mpr same⟩
        rcases Option.isSome_iff_exists.mp stored with ⟨job, found⟩
        have done : (services.carryOut (.store (.expireLease id))).1 = _ :=
          (Store.expireLease_found services.settings services.now found).1
        rw [done]
        nofun
    | staleQueued olderThan limit =>
        show (services.store.staleQueued olderThan limit services.now).1 ≠ _
        unfold Store.staleQueued
        split <;> nofun
    | _ => cases may
  · nofun
  · cases may
  · cases may

/-- No call of an action fails that makes a monitor's calls about jobs in the store. -/
theorem unfailing_of_asks {α : Type} {action : Action α}
    (within : action.Within (AsksOf (services.store.jobs.map (·.id))))
    (planned : services.Planned (· ∉ callNames)) : action.Unfailing actor services := by
  refine within.unfailing (fun later => later.Planned (· ∉ callNames) ∧
    later.store.jobs.map (·.id) = services.store.jobs.map (·.id)) ?_ ?_ ?_ ⟨planned, rfl⟩
  · rintro before after deed ⟨planned, ids⟩
    exact ⟨deed.planned planned, (deed.map_id fun _ _ _ never => never.1).trans ids⟩
  · rintro later ⟨planned, _⟩ call asks plan member named
    exact planned plan member (named ▸ name_mem_callNames asks.1)
  · rintro later ⟨_, ids⟩ call asks failure
    exact AsksOf.answered (ids ▸ asks) failure

/-! ## The parts of a scan -/

/-- The calls that are made after the first sweep. -/
def MayRepublish : Call → Prop
  | .store (.staleQueued _ _) | .publish _ _ => True
  | _ => False

/-- What follows the first sweep. -/
def secondSweep (monitor : LeaseMonitor) (report : ScanReport) : Action ScanReport :=
  Services.staleQueued monitor.scanInterval monitor.batchSize >>= fun stale =>
    republishEach stale report

theorem scan_parts (monitor : LeaseMonitor) : monitor.scan =
    Services.expiredLeases monitor.batchSize >>= fun expired =>
      expireEach expired ⟨0, 0, 0⟩ >>= monitor.secondSweep := rfl

theorem jobs_secondSweep (monitor : LeaseMonitor) (report : ScanReport) (actor : Actor)
    (services : Services) :
    (monitor.secondSweep report actor services).2.store.jobs = services.store.jobs := by
  have within : (monitor.secondSweep report).Within MayRepublish := by
    have lists : (Services.staleQueued monitor.scanInterval monitor.batchSize).Within
        MayRepublish := .perform trivial
    exact .bind lists fun stale => republishEach_within stale report fun _ _ => trivial
  have kept : ∀ before after, Services.Deed MayRepublish actor before after →
      before.store.jobs = services.store.jobs → after.store.jobs = services.store.jobs := by
    intro before after deed same
    refine Eq.trans ?_ same
    cases deed with
    | @call call may =>
        rcases Services.perform_carried_or_failed call actor before with
          ⟨after, ⟨performed, store, _⟩ | ⟨failure, performed, store, _⟩⟩
        · rw [performed, store]
          rcases call with call | _ | _ | _
          · cases call <;> first | exact Store.jobs_staleQueued _ _ _ _ | cases may
          all_goals rfl
        · rw [performed, store]
    | plan => rw [Services.store_plannedDelivery]
    | note | poll | unsubscribe | count => rfl
  exact within.keeps kept rfl

theorem secondSweep_not_failed (planned : services.Planned (· ∉ callNames)) (failure : Failure) :
    (monitor.secondSweep report actor services).1 ≠ .failed failure := by
  have publishes := AsksOf.publish (services.store.jobs.map (·.id))
  have lists : AsksOf (services.store.jobs.map (·.id))
      (.store (.staleQueued monitor.scanInterval monitor.batchSize)) := by
    refine ⟨trivial, fun id same => ?_⟩
    cases same
  have whole : (monitor.secondSweep report).Within (AsksOf (services.store.jobs.map (·.id))) :=
    .bind (Within.perform lists) fun stale => republishEach_within stale report publishes
  have listing := lists.answered
  rcases (unfailing_of_asks whole planned).parts (Services.perform_grows _)
    (fun stale => republishEach_grows stale report) with ⟨_, publishing⟩
  have performed : (Services.staleQueued monitor.scanInterval monitor.batchSize actor
      services).1 = (services.carryOut (.store (.staleQueued monitor.scanInterval
        monitor.batchSize))).1 := by
    rw [Services.staleQueued, Services.perform_unforeseen _ _ fun plan member named =>
      planned plan member (named ▸ name_mem_callNames lists.1)]
  unfold secondSweep
  cases outcome : (Services.staleQueued monitor.scanInterval monitor.batchSize actor
      services).1 with
  | done stale =>
      rw [bind_done outcome, (republishEach_yields (publishing stale outcome)).outcome]
      intro failed
      cases failed
  | failed other => exact absurd (performed.symm.trans outcome) (listing other)
  | outOfTime =>
      rw [bind_apply]
      generalize Services.staleQueued monitor.scanInterval monitor.batchSize actor services =
        answered at outcome ⊢
      rcases answered with ⟨_, left⟩
      cases outcome
      intro failed
      cases failed

/-- A scan that nobody makes fail succeeds if it comes to its end, and every job is then as
the expiry of its lease leaves it, if there were no more of them than the list has room for. -/
theorem scan_unforeseen {answer : Except Failure ScanReport}
    (distinct : (services.store.jobs.map (·.id)).Nodup)
    (planned : services.Planned (· ∉ callNames))
    (fits : ((services.store.jobs.filter (·.leaseExpired services.now)).length : Int) ≤
      monitor.batchSize)
    (done : monitor.scan.attempt actor services = (.done answer, after)) :
    (∃ report, answer = .ok report) ∧ after.store.jobs = services.store.jobs.map fun job =>
      (job.expire services.settings.maxAttempts services.now).2 := by
  let expired := services.store.expiredLeases monitor.batchSize services.now
  let report := reportExpiry services.settings.maxAttempts ⟨0, 0, 0⟩ expired
  let listed := services.record actor
    (.called (.store (.expiredLeases monitor.batchSize)) (.done expired))
  have mayList : MayCall (.store (.expiredLeases monitor.batchSize)) := trivial
  have lists : Services.expiredLeases monitor.batchSize actor services =
      (.done expired, listed) :=
    Services.perform_unforeseen _ _ fun plan member named =>
      planned plan member (named ▸ name_mem_callNames mayList)
  have asks : (expireEach expired ⟨0, 0, 0⟩).Within (AsksOf (listed.store.jobs.map (·.id))) := by
    refine expireEach_within _ (.publish _) fun job member => ⟨trivial, ?_⟩
    rintro id ⟨⟩
    exact List.mem_map_of_mem (Store.mem_expiredLeases member).1
  have found : ∀ job ∈ expired, services.store.job? job.id = some job := fun job member =>
    Store.job?_of_mem distinct (Store.mem_expiredLeases member).1
  have apart := Store.expiredLeases_apart distinct monitor.batchSize services.now
  have complete : ∀ job ∈ services.store.jobs, job.leaseExpired services.now = true →
      job ∈ expired := fun job there expires =>
    (Store.expiredLeases_perm fits).mem_iff.mpr (List.mem_filter.mpr ⟨there, expires⟩)
  have sweeps : (expireEach expired ⟨0, 0, 0⟩).Yields actor listed report
      (services.store.expireAll services.settings expired services.now) _ :=
    expireEach_yields rfl rfl rfl found apart
      (fun job member => (Store.mem_expiredLeases member).2) (unfailing_of_asks asks planned)
  -- The first sweep comes to what expiry makes of the listed jobs, and the second one
  -- changes no job.
  have whole : monitor.scan actor services = monitor.secondSweep report actor
      (expireEach expired ⟨0, 0, 0⟩ actor listed).2 := by
    rw [scan_parts, bind_apply, lists]
    exact bind_done sweeps.outcome
  rcases attempt_eq_done done with ⟨answer, rfl, succeeded⟩ | ⟨failure, rfl, failed⟩
  · have jobs := monitor.jobs_secondSweep report actor
      (expireEach expired ⟨0, 0, 0⟩ actor listed).2
    rw [← whole, succeeded, sweeps.store] at jobs
    exact ⟨⟨answer, rfl⟩, jobs.trans (Store.jobs_expireAll_whole distinct found apart complete)⟩
  · have still : (expireEach expired ⟨0, 0, 0⟩ actor listed).2.Planned (· ∉ callNames) :=
      asks.keeps (fun _ _ deed planned => deed.planned planned) planned
    rw [whole] at failed
    exact absurd (congrArg Prod.fst failed) (secondSweep_not_failed still failure)

end LeaseMonitor

end BuildFleet
