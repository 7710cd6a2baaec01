import BuildFleet.Proofs.Settings.Soundness
import BuildFleet.Proofs.Store.LeaseLength
import BuildFleet.Proofs.Time.Range

/-!
# Settings and the limits of time

A lease that the settings make too long drives a claim out of the calendar after it has
named the new owner, and an overlong scan interval or offline threshold does the same to
the calls that look back by it. Settings are accepted whatever the lengths; the statement
here tells exactly which of them keep every call in time.
-/

namespace BuildFleet

namespace Job

variable {limit : Nat} {now : Instant} {job : Job} {worker : WorkerId} {lease : Span}

theorem claim_outOfTime (limit : Nat) (worker : WorkerId) (queued : job.status = .queued)
    (beyond : now.addMilliseconds? (leaseMilliseconds lease) = none) :
    (job.perform limit now (.claim worker lease)).1 = .outOfTime := by
  simp only [perform]
  rw [claim_queued queued, grant_outOfTime beyond]
  rfl

end Job

namespace Settings

variable {settings : Settings} {text : String}

open Instant

/-- What the store of a fleet with these settings is set up with. -/
def forStore (settings : Settings) : StoreSettings := ⟨settings.targets, settings.lease.maxAttempts⟩

/-- The calls that a fleet with these settings makes after such a history and that compute
times: claims with the lease of the settings, heartbeats under such a lease, scans for
stale jobs and looks at the workers. -/
inductive Asks (settings : Settings) (history : List Operation) : StoreCall → Prop
  | claim (id : JobId) (worker : WorkerId) :
      Asks settings history (.claim id worker settings.lease.duration)
  | heartbeat {id : JobId} (worker : WorkerId)
      (leased : Store.lastLease? settings.forStore id history = some settings.lease.duration) :
      Asks settings history (.heartbeat id worker)
  | staleQueued (limit : Int) :
      Asks settings history (.staleQueued settings.lease.scanInterval limit)
  | workers : Asks settings history (.workers settings.api.workerOffline)

/-- In the years from 1970 to 9999, whatever the store has gone through, no call that the
fleet makes computes a time outside the calendar. -/
def KeepsTime (settings : Settings) : Prop :=
  ∀ (history : List Operation) (operation : Operation),
    Store.Course settings.forStore .empty history operation.before →
    operation.now.Current → settings.Asks history operation.call →
    operation.outcome settings.forStore ≠ .outOfTime

/-- The lengths of the settings do not lead out of the calendar. -/
structure Moderate (settings : Settings) : Prop where
  lease : (settings.lease.duration.milliseconds : Int) ≤ mostForward
  scan : -mostForward ≤ wrapMilliseconds settings.lease.scanInterval.milliseconds ∧
    wrapMilliseconds settings.lease.scanInterval.milliseconds ≤ mostBackward
  offline : -mostForward ≤ wrapMilliseconds settings.api.workerOffline.milliseconds ∧
    wrapMilliseconds settings.api.workerOffline.milliseconds ≤ mostBackward

theorem Moderate.keepsTime (moderate : settings.Moderate) : settings.KeepsTime := by
  rintro history ⟨store, now, call⟩ course current asks
  have leaseEnds := (Job.leaseMilliseconds_current_iff _).mpr moderate.lease now current
  rcases Option.ne_none_iff_exists'.mp leaseEnds with ⟨expiry, ends⟩
  cases asks with
  | claim id worker =>
      exact Store.perform_inTime (.claim worker settings.lease.duration) fun job found =>
        Job.claim_inTime _ worker ends
  | @heartbeat id worker leased =>
      refine Store.perform_inTime (.heartbeat worker) fun job found => ?_
      have remembered := course.leaseMs_eq id
      rw [show store.job? id = some job from found, leased] at remembered
      have renewed : now.addMilliseconds? job.leaseMs = some expiry :=
        (congrArg now.addMilliseconds? remembered).trans ends
      exact Job.heartbeat_inTime _ worker renewed
  | staleQueued limit =>
      have looksBack := (before?_current_iff _).mpr moderate.scan now current
      rcases Option.ne_none_iff_exists'.mp looksBack with ⟨cutoff, moved⟩
      intro beyond
      simp only [Operation.outcome, Store.perform, Store.staleQueued, moved] at beyond
      cases beyond
  | workers =>
      have looksBack := (before?_current_iff _).mpr moderate.offline now current
      rcases Option.ne_none_iff_exists'.mp looksBack with ⟨cutoff, moved⟩
      intro beyond
      simp only [Operation.outcome, Store.perform, Store.workers, moved] at beyond
      cases beyond

namespace KeepsTime

/-- A new job tells whether a claim is in time. -/
theorem lease (keeps : settings.KeepsTime) {target : Target}
    (known : target ∈ settings.targets.targets) :
    (settings.lease.duration.milliseconds : Int) ≤ mostForward := by
  refine (Job.leaseMilliseconds_current_iff _).mp fun now current beyond => ?_
  let creation : Operation := ⟨.empty, now, .create (.ofNat 1) target .null⟩
  let job := Job.new (.ofNat 1) target .null now
  let claim : Operation := ⟨{ Store.empty with jobs := [job] }, now,
    .claim (.ofNat 1) ⟨"a"⟩ settings.lease.duration⟩
  have accepted : settings.targets.contains target = true :=
    TargetRegistry.contains_iff.mpr known
  have created : creation.after settings.forStore = claim.before :=
    congrArg Prod.snd (if_pos accepted)
  have course : Store.Course settings.forStore .empty ([] ++ [creation]) claim.before := by
    rw [← created]
    exact .step .start fun _ _ => rfl
  refine keeps _ claim course current (.claim _ _) ?_
  have found : claim.before.job? (.ofNat 1) = some job := by rfl
  have answered : claim.outcome settings.forStore = _ :=
    Store.perform_on found (.claim ⟨"a"⟩ settings.lease.duration)
  rw [answered, Job.claim_outOfTime _ _ rfl beyond]
  rfl

/-- An empty store tells whether a call that looks back is in time. -/
theorem looksBack (keeps : settings.KeepsTime) {call : StoreCall} {span : Span}
    (asks : settings.Asks [] call)
    (stops : ∀ now : Instant, now.before? span = none →
      (Store.empty.perform settings.forStore now call).1 = .outOfTime) :
    -mostForward ≤ wrapMilliseconds span.milliseconds ∧
      wrapMilliseconds span.milliseconds ≤ mostBackward := by
  refine (before?_current_iff _).mp fun now current beyond => ?_
  exact keeps [] ⟨.empty, now, call⟩ .start current asks (stops now beyond)

end KeepsTime

/-- Settings that are accepted keep every call in time if and only if their lengths do not
lead out of the calendar. -/
theorem keepsTime_iff_moderate (accepted : ofText text = .ok settings) :
    settings.KeepsTime ↔ settings.Moderate := by
  constructor
  · intro keeps
    rcases sound_of_ofText accepted with ⟨document, sound⟩
    rcases List.exists_mem_of_ne_nil _ sound.someTarget with ⟨name, declared⟩
    have known : ⟨name⟩ ∈ settings.targets.targets := (sound.targets ⟨name⟩).mpr declared
    refine ⟨keeps.lease known, keeps.looksBack (.staleQueued 1) fun now beyond => ?_,
      keeps.looksBack .workers fun now beyond => ?_⟩
    · simp only [Store.perform, Store.staleQueued, beyond]
    · simp only [Store.perform, Store.workers, beyond]
  · exact Moderate.keepsTime

end Settings

theorem Settings.sample_keepsTime :
    ofText Sample.settingsText = .ok Sample.acceptedSettings ∧
      Sample.acceptedSettings.Moderate ∧ Sample.acceptedSettings.KeepsTime := by
  have moderate : Sample.acceptedSettings.Moderate :=
    ⟨by decide +kernel, by decide +kernel, by decide +kernel⟩
  exact ⟨Sample.settingsText_accepted, moderate,
    (keepsTime_iff_moderate Sample.settingsText_accepted).mpr moderate⟩

/-! ## Settings with overlong times -/

namespace Sample

/-- A lease, a scan interval and an offline threshold of some three million years. -/
def overlongText : String :=
  "lease duration=100000000000000 scan-interval=100000000000000\n" ++
  "targets amd64\n" ++
  "api worker-offline=100000000000000"

def overlong : Span := .ofSeconds 100000000000000

def overlongSettings : Settings :=
  { storeUrl := none
    lease := ⟨overlong, overlong.third, 3, overlong⟩
    buildTimeout := .ofSeconds 86400
    targets := ⟨[⟨"amd64"⟩], []⟩
    worker := none
    notify := .standard
    api := { ApiSettings.standard with workerOffline := overlong } }

theorem overlongText_accepted : Settings.ofText overlongText = .ok overlongSettings :=
  Settings.ofText_eq_ok (by decide +kernel)

/-- One job is queued. -/
def overlongStore : Store :=
  Store.empty.afterCalls overlongSettings.forStore [(moment 0, .create firstJob ⟨"amd64"⟩ .null)]

end Sample

/-- Overlong times are accepted, and the calls that compute with them stop. The claim has
named the owner of a job by then that is still queued. -/
theorem Settings.sample_overlong_stops :
    let claimed := Sample.overlongStore.perform Sample.overlongSettings.forStore (Sample.moment 1)
      (.claim Sample.firstJob ⟨"a"⟩ Sample.overlong)
    ofText Sample.overlongText = .ok Sample.overlongSettings ∧ (Sample.moment 1).Current ∧
      ¬ Sample.overlongSettings.KeepsTime ∧ claimed.1 = .outOfTime ∧
      ((claimed.2.job? Sample.firstJob).map fun job => (job.status, job.owner, job.leaseMs)) =
        some (.queued, some ⟨"a"⟩, 100000000000000000) ∧
      (Sample.overlongStore.staleQueued Sample.overlong 1 (Sample.moment 1)).1 = .outOfTime ∧
      Sample.overlongStore.workers Sample.overlong (Sample.moment 1) = .outOfTime := by
  intro claimed
  have current : (Sample.moment 1).Current := by decide +kernel
  have stops : Sample.overlongStore.workers Sample.overlong (Sample.moment 1) = .outOfTime := by
    decide +kernel
  have course : ∃ history, Store.Course Sample.overlongSettings.forStore .empty history
      Sample.overlongStore := ⟨_, (Store.Run.of_calls (by decide +kernel)).course⟩
  rcases course with ⟨history, course⟩
  have late : ¬ Sample.overlongSettings.KeepsTime := fun keeps =>
    keeps history ⟨Sample.overlongStore, Sample.moment 1, .workers Sample.overlong⟩ course current
      .workers stops
  exact ⟨Sample.overlongText_accepted, current, late, by decide +kernel, by decide +kernel,
    by decide +kernel, stops⟩

end BuildFleet
