import BuildFleet.Proofs.Fleet.Leases
import BuildFleet.Proofs.Fleet.Rules
import BuildFleet.Proofs.Job.Lasting
import BuildFleet.Proofs.Monitor.Unfailing

/-!
# How long a lease stays expired

A monitor scans when it starts and then at every interval. What was over at its last scan
it has dealt with, and no call gives out a lease that is over before it begins. So whatever
has expired for a whole interval is gone.
-/

namespace BuildFleet

open Relation (ReflTransGen)

namespace LeaseMonitor

variable {monitor : LeaseMonitor} {place startsAt resumesAt : Nat} {actor : Actor}
  {loop : MonitorLoop} {services after : Services} {builds : BuildScripts} {fleet next : Fleet}

/-! ## The steps of a monitor -/

/-- The next scan of a monitor follows after its interval, unless the last one has failed. -/
def continued (loop : MonitorLoop) (elapsed : Nat) (answer : Except Failure ScanReport) :
    MonitorLoop :=
  { loop with
    backoff := (loop.monitor.nextDelay loop.backoff answer).2
    resumesAt := firesAt (deadlineAfter elapsed (loop.monitor.nextDelay loop.backoff answer).1) }

theorem resumesAt_continued (elapsed : Nat) (report : ScanReport)
    (whole : loop.monitor.scanInterval.nanoseconds % nanosPerMilli = 0) :
    (continued loop elapsed (.ok report)).resumesAt =
      elapsed + loop.monitor.scanInterval.milliseconds :=
  firesAt_deadlineAfter elapsed whole

/-- All that a step of a monitor can be that has begun and is not shut down. -/
inductive Steps (actor : Actor) (services : Services) (loop : MonitorLoop) :
    Progress MonitorLoop → Services → Prop
  | waits (early : services.elapsed < loop.resumesAt) :
      Steps actor services loop (.waits loop) services
  | scans {answer : Except Failure ScanReport} {after : Services}
      (due : loop.resumesAt ≤ services.elapsed)
      (done : loop.monitor.scan.attempt actor services = (.done answer, after)) :
      Steps actor services loop (.goesOn (continued loop services.elapsed answer)) after

theorem steps_of_done {progress : Progress Task} (begun : startsAt ≤ services.elapsed)
    (done : Task.step builds false ⟨actor, startsAt, .monitor loop⟩ actor services =
      (.done progress, after)) : ∃ worked, Steps actor services loop worked after ∧
        progress = worked.map fun loop => ⟨actor, startsAt, .monitor loop⟩ := by
  rw [Task.step_begun begun] at done
  rcases Action.bind_eq_done done with ⟨elapsed, middle, reads, rest⟩
  cases reads
  rcases Action.bind_eq_done rest with ⟨worked, left, steps, ends⟩
  cases ends
  refine ⟨worked, ?_, rfl⟩
  unfold MonitorLoop.step at steps
  split at steps
  · rename_i early
    cases steps
    exact .waits early
  · rename_i due
    rcases Action.bind_eq_done steps with ⟨answer, scanned, scans, goesOn⟩
    cases goesOn
    exact .scans (Nat.le_of_not_lt due) scans

/-! ## Where a monitor stands -/

/-- Anybody may ask anything and begin anything, and any task but the monitor may end before
it is done. No failure is planned for the calls of a monitor. -/
def patrol (place : Nat) : Rules where
  mayAsk _ _ := True
  mayBegin _ _ := True
  mayFail name := name ∉ callNames
  mayEnd other := other ≠ place

/-- The first of the tasks that can go on is a monitor whose scan is due. -/
def Scans (fleet : Fleet) (place : Nat) : Prop :=
  fleet.ready.head? = some place ∧ ∃ task loop, fleet.tasks[place]? = some task ∧
    task.role = .monitor loop ∧ loop.resumesAt ≤ fleet.services.elapsed

/-- How many leases are over. -/
def expiredLeases (services : Services) : Nat :=
  (services.store.jobs.filter (·.leaseExpired services.now)).length

/-- A change by the rules in which no scan meets more expired leases than its list has
room for. -/
structure Round (monitor : LeaseMonitor) (place : Nat) (fleet next : Fleet) : Prop where
  change : (patrol place).Change fleet next
  fits : Scans fleet place → (expiredLeases fleet.services : Int) ≤ monitor.batchSize

/-- The task at this place is the monitor, and it goes on at once or waits for its timer. -/
structure Stands (monitor : LeaseMonitor) (place : Nat) (actor : Actor) (resumesAt : Nat)
    (fleet : Fleet) : Prop where
  task : ∃ startsAt backoff, fleet.tasks[place]? =
    some ⟨actor, startsAt, .monitor ⟨monitor, backoff, resumesAt⟩⟩ ∧
      startsAt ≤ fleet.services.elapsed
  prompt : place ∈ fleet.ready ∨ fleet.services.elapsed < resumesAt

/-- The next scan is due, or follows an interval after the last one, which has left no lease
that was over. -/
inductive Attends (monitor : LeaseMonitor) (resumesAt : Nat) (fleet : Fleet) : Prop
  | due (due : resumesAt ≤ fleet.services.elapsed)
  | scanned {last : Nat} {reading : Instant}
      (resumes : resumesAt = last + monitor.scanInterval.milliseconds)
      (past : last ≤ fleet.services.elapsed) (soon : fleet.services.elapsed ≤ resumesAt)
      (reads : fleet.origin.addMilliseconds? last = some reading)
      (lasts : ∀ id, fleet.services.Every id (Job.Lasts reading))

/-- The monitor keeps its rounds. -/
def Patrols (monitor : LeaseMonitor) (place : Nat) (actor : Actor) (fleet : Fleet) : Prop :=
  ∃ resumesAt, Stands monitor place actor resumesAt fleet ∧ Attends monitor resumesAt fleet

/-! ## One change -/

/-- What happens within a moment leaves no lease that was over at the last scan. -/
theorem Attends.moment {acts : Nat → Prop} (attends : Attends monitor resumesAt fleet)
    (sound : (patrol place).Sound fleet) (origin : next.origin = fleet.origin)
    (moment : (patrol place).Moment fleet acts next.services) :
    Attends monitor resumesAt next := by
  have elapsed := moment.sameMoment.2
  cases attends with
  | due due => exact .due (elapsed ▸ due)
  | scanned resumes past soon reads lasts =>
      refine .scanned resumes (elapsed ▸ past) (elapsed ▸ soon) (origin ▸ reads) fun id => ?_
      have law := Job.Lasts.law (Instant.reading_le reads sound.clock past)
      exact moment.every law (fun _ _ => trivial) (fun _ _ _ _ _ _ => trivial) (lasts id)

/-- A scan leaves no lease that is over. -/
theorem lasts_of_scan {answer : Except Failure ScanReport}
    (sound : (patrol place).Sound fleet)
    (nonneg : ∀ id, fleet.services.Every id Job.LeaseNonneg)
    (fits : (expiredLeases fleet.services : Int) ≤ monitor.batchSize)
    (done : monitor.scan.attempt actor fleet.services = (.done answer, after)) :
    (∃ report, answer = .ok report) ∧
      ∀ id, after.Every id (Job.Lasts fleet.services.now) := by
  rcases scan_unforeseen sound.distinct sound.planned fits done with ⟨succeeds, jobs⟩
  refine ⟨succeeds, fun id job found => ?_⟩
  have member := Store.mem_of_job? found
  rw [jobs] at member
  rcases List.mem_map.mp member with ⟨before, there, rfl⟩
  exact .of_expire (nonneg before.id before (Store.job?_of_mem sound.distinct there))

theorem Patrols.round (patrols : Patrols monitor place actor fleet)
    (whole : monitor.scanInterval.nanoseconds % nanosPerMilli = 0)
    (reached : (patrol place).Reached fleet) (round : Round monitor place fleet next)
    (running : actor ∉ fleet.interrupted) : Patrols monitor place actor next := by
  rcases patrols with ⟨resumesAt, ⟨⟨startsAt, backoff, there, begun⟩, prompt⟩, attends⟩
  have sound := reached.sound
  have origin := round.change.follows.origin
  have elapsed := round.change.elapsed_le
  cases round.change.fate there with
  | @stepped progress after first steps services left ready =>
      rw [show fleet.interrupted.contains actor = false by simpa using running] at steps
      rcases steps_of_done begun steps with ⟨worked, stepped, rfl⟩
      have moment := ((LeaseMonitor.scan_within monitor).attempt.sameMoment actor fleet.services)
      cases stepped with
      | waits early =>
          have same : next.services.elapsed = fleet.services.elapsed := by rw [services]
          have silent : (patrol place).Moment fleet (fun _ => True) next.services := by
            rw [services]
            exact .task trivial there .refl
          exact ⟨resumesAt, ⟨⟨startsAt, backoff, left, same ▸ begun⟩, .inr (same ▸ early)⟩,
            attends.moment sound origin silent⟩
      | @scans answer _ due done =>
          have fits := round.fits ⟨first, _, _, there, rfl, due⟩
          rcases lasts_of_scan sound (reached.every Job.leaseNonneg_law) fits done with
            ⟨⟨report, rfl⟩, lasts⟩
          rw [done] at moment
          have same : next.services.elapsed = fleet.services.elapsed := by
            rw [services]
            exact moment.elapsed
          let later := continued ⟨monitor, backoff, resumesAt⟩ fleet.services.elapsed (.ok report)
          have resumes : later.resumesAt = _ :=
            resumesAt_continued fleet.services.elapsed report whole
          refine ⟨later.resumesAt, ⟨⟨startsAt, later.backoff, left, same ▸ begun⟩,
            .inl (ready _ rfl)⟩,
            .scanned resumes (Nat.le_of_eq same.symm) ?_ (origin ▸ sound.clock) ?_⟩
          · rw [resumes, same]
            exact Nat.le_add_right _ _
          · rw [services]
            exact lasts
  | waited left ready moment =>
      have same := moment.sameMoment.2
      exact ⟨resumesAt, ⟨⟨startsAt, backoff, left, same ▸ begun⟩,
        prompt.imp ready fun early => same ▸ early⟩, attends.moment sound origin moment⟩
  | @jumped now later left idle forward reads services punctual =>
      -- Nobody can go on, so the monitor waits, and the clock stops at its timer.
      have waits : fleet.services.elapsed < resumesAt := by
        refine prompt.resolve_left fun member => ?_
        rw [idle] at member
        cases member
      have timer : Task.wakesAt fleet.services.elapsed
          ⟨actor, startsAt, .monitor ⟨monitor, backoff, resumesAt⟩⟩ = some resumesAt :=
        if_neg (Nat.not_lt.mpr begun)
      rcases punctual resumesAt timer with ⟨soon, wakes⟩
      have same : next.services.elapsed = later := by rw [services]
      refine ⟨resumesAt, ⟨⟨startsAt, backoff, left, Nat.le_trans begun elapsed⟩, ?_⟩, ?_⟩
      · rw [same]
        exact (Nat.lt_or_ge later resumesAt).symm.imp wakes id
      · cases attends with
        | due due => exact absurd waits (Nat.not_lt.mpr due)
        | scanned resumes past _ reads lasts =>
            refine .scanned resumes (Nat.le_trans past elapsed) (same ▸ soon) (origin ▸ reads) ?_
            rw [services]
            exact lasts
  | gone may left => exact absurd rfl may

/-! ## Rounds -/

/-- The monitor is the task at this place, and its scan is due. -/
structure Starts (monitor : LeaseMonitor) (place : Nat) (actor : Actor) (fleet : Fleet) :
    Prop where
  task : ∃ startsAt backoff resumesAt, fleet.tasks[place]? =
    some ⟨actor, startsAt, .monitor ⟨monitor, backoff, resumesAt⟩⟩ ∧
      startsAt ≤ fleet.services.elapsed ∧ resumesAt ≤ fleet.services.elapsed
  ready : place ∈ fleet.ready

theorem Starts.patrols (starts : Starts monitor place actor fleet) :
    Patrols monitor place actor fleet := by
  rcases starts.task with ⟨startsAt, backoff, resumesAt, there, begun, due⟩
  exact ⟨resumesAt, ⟨⟨startsAt, backoff, there, begun⟩, .inl starts.ready⟩, .due due⟩

/-- The monitor keeps its rounds until it is shut down. -/
theorem Patrols.rounds (patrols : Patrols monitor place actor fleet)
    (whole : monitor.scanInterval.nanoseconds % nanosPerMilli = 0)
    (reached : (patrol place).Reached fleet)
    (rounds : ReflTransGen (Round monitor place) fleet next) :
    (patrol place).Reached next ∧ next.origin = fleet.origin ∧
      (actor ∉ next.interrupted → Patrols monitor place actor next) := by
  induction rounds with
  | refl => exact ⟨reached, rfl, fun _ => patrols⟩
  | @tail middle next _ round induction =>
      rcases induction with ⟨reaches, origin, still⟩
      have follows := round.change.follows
      refine ⟨.change reaches round.change, follows.origin.trans origin, fun running => ?_⟩
      have runs : actor ∉ middle.interrupted := fun shut => running (follows.interrupted shut)
      exact (still runs).round whole reaches round runs

/-- Where nobody can go on any more the last scan was less than an interval ago. -/
theorem Patrols.lately (patrols : Patrols monitor place actor fleet)
    (settled : fleet.ready = []) : ∃ last reading,
      fleet.services.elapsed < last + monitor.scanInterval.milliseconds ∧
        fleet.origin.addMilliseconds? last = some reading ∧
          ∀ id, fleet.services.Every id (Job.Lasts reading) := by
  rcases patrols with ⟨resumesAt, stands, attends⟩
  have early : fleet.services.elapsed < resumesAt := by
    refine stands.prompt.resolve_left fun member => ?_
    rw [settled] at member
    cases member
  cases attends with
  | due due => exact absurd early (Nat.not_lt.mpr due)
  | @scanned last reading resumes _ _ reads lasts =>
      exact ⟨last, reading, resumes ▸ early, reads, lasts⟩

end LeaseMonitor

/-! ## Jobs whose worker falls silent -/

/-- The job that somebody has claimed, completed or cancelled, or whose lease he has renewed. -/
def Happening.tended? : Happening → Option JobId
  | .called (.store (.claim id _ _)) (.done _)
  | .called (.store (.heartbeat id _)) (.done _)
  | .called (.store (.complete id _ _)) (.done _)
  | .called (.store (.cancel id)) (.done _) => some id
  | _ => none

/-- Somebody has tended to this job. -/
def Happening.Tends (id : JobId) (happening : Happening) : Prop := happening.tended? = some id

namespace Job

variable {limit : Nat} {now expiry : Instant} {job : Job} {id : JobId}

/-- Nobody works on the job any more. -/
def Idle (job : Job) : Prop := job.status = .queued ∨ job.status = .lost

/-- The job is under the lease that ends then, or nobody works on it any more. -/
def Left (expiry : Instant) (job : Job) : Prop :=
  job.Idle ∨ job.status.isLeased = true ∧ job.leaseExpiry = some expiry

theorem Left.perform (left : job.Left expiry) (call : JobCall) :
    Happening.Tends id (.called (.store (call.on id))
        (call.report id (job.perform limit now call).1)) ∨
      (job.perform limit now call).2.Left expiry := by
  let comes (outcome : Outcome call.Answer) (after : Job) : Prop :=
    Happening.Tends id (.called (.store (call.on id)) (call.report id outcome)) ∨ after.Left expiry
  have all : comes (job.perform limit now call).1 (job.perform limit now call).2 := by
    refine perform_comes (fun step => ?_) fun halt => ?_
    · cases step with
      | refused | kept => exact .inr left
      | granted | takenOver | renewed | repeated | completed | cancelled => exact .inl rfl
      | requeued => exact .inr (.inl (.inl rfl))
      | exhausted | lost => exact .inr (.inl (.inr rfl))
    · cases halt with
      | granting queued => exact .inr (.inl (.inl queued))
      | takingOver => exact .inr left
      | renewing => exact .inr left
  exact all

end Job

/-- The worker has fallen silent: since then nobody has tended to the job. -/
def Services.Silent (id : JobId) (before after : Services) : Prop :=
  ∃ since, after.journal = since ++ before.journal ∧
    ∀ entry ∈ since, ¬ entry.happening.Tends id

/-- The worker extended its lease on the job last at this millisecond. -/
structure Fleet.LeasedSince (fleet : Fleet) (id : JobId) (beat : Nat) (job : Job) : Prop where
  found : fleet.services.store.job? id = some job
  leased : job.status.isLeased = true
  ends : ∃ reading expiry, fleet.origin.addMilliseconds? beat = some reading ∧
    reading.addMilliseconds? job.leaseMs = some expiry ∧ job.leaseExpiry = some expiry

namespace LeaseMonitor

variable {monitor : LeaseMonitor} {place : Nat} {actor : Actor} {fleet middle later : Fleet}
  {id : JobId}

/-- Until somebody tends to it a job stays under the lease that it has, or nobody works on
it any more. -/
theorem left_of_rounds {expiry : Instant}
    (rounds : ReflTransGen (Round monitor place) middle later)
    (left : middle.services.Has id (Job.Left expiry)) :
    later.services.Until (Happening.Tends id) (fun _ => False) id (Job.Left expiry)
      middle.services.journal := by
  induction rounds with
  | refl => exact .start left
  | tail _ round before =>
      exact round.change.until (fun _ never => False.elim never) (fun limit job call left =>
        (left.perform call).imp_right fun still => ⟨not_false, still⟩) before

theorem left_of_silent {expiry : Instant}
    (rounds : ReflTransGen (Round monitor place) middle later)
    (left : middle.services.Has id (Job.Left expiry))
    (silent : Services.Silent id middle.services later.services) :
    later.services.Has id (Job.Left expiry) := by
  rcases left_of_rounds rounds left with ⟨since, journal, ⟨entry, member, tends⟩ | ⟨_, has⟩⟩
  · rcases silent with ⟨silence, told, nobody⟩
    cases List.append_cancel_right (journal.symm.trans told)
    exact absurd tends (nobody entry member)
  · exact has

/-- In every run with a monitor that scans at whole milliseconds, once all that can go on has
done so, no lease is left that was over an interval ago; and a job whose worker has fallen
silent waits again, or is lost, its lease and an interval after the last heartbeat. -/
theorem no_lease_stays_expired
    (whole : monitor.scanInterval.nanoseconds % nanosPerMilli = 0)
    (reached : (patrol place).Reached fleet) (starts : Starts monitor place actor fleet)
    (rounds : ReflTransGen (Round monitor place) fleet later) (settled : later.ready = [])
    (running : actor ∉ later.interrupted) :
    (∀ since reading, since + monitor.scanInterval.milliseconds ≤ later.services.elapsed →
      later.origin.addMilliseconds? since = some reading → ∀ id,
        later.services.Every id fun job => job.leaseExpired reading = false) ∧
    ∀ middle id beat job, ReflTransGen (Round monitor place) fleet middle →
      middle.LeasedSince id beat job → ReflTransGen (Round monitor place) middle later →
      Services.Silent id middle.services later.services →
      beat + job.leaseMs.toNat + monitor.scanInterval.milliseconds ≤ later.services.elapsed →
        later.services.Has id Job.Idle := by
  rcases starts.patrols.rounds whole reached rounds with ⟨_, origin, patrols⟩
  rcases (patrols running).lately settled with ⟨last, reading, lately, reads, lasts⟩
  refine ⟨fun since before late readsBefore id job found => ?_,
    fun middle id beat job upTo leased onward silent late => ?_⟩
  · have earlier : since < last := by omega
    exact (lasts id job found).unexpired (Instant.reading_lt readsBefore reads earlier)
  · rcases starts.patrols.rounds whole reached upTo with ⟨reaches, sameOrigin, _⟩
    rcases leased.ends with ⟨start, expiry, beats, ends, expires⟩
    have nonneg : job.LeaseNonneg := reaches.every Job.leaseNonneg_law id job leased.found
    rcases left_of_silent onward ⟨job, leased.found, .inr ⟨leased.leased, expires⟩⟩ silent with
      ⟨stored, found, idle | ⟨held, same⟩⟩
    · exact ⟨stored, found, idle⟩
    · rcases (lasts id stored found).ends held with ⟨_, still, beyond⟩
      cases same.symm.trans still
      have reaches : middle.origin.addMilliseconds? last = some reading :=
        origin.trans sameOrigin.symm ▸ reads
      -- The lease ended an interval ago, and so before the last scan.
      have passed : expiry < reading := by
        unfold Job.LeaseNonneg at nonneg
        exact Instant.lt_of_lt_elapsed (by omega) nonneg (by omega) beats ends reaches (by omega)
      exact absurd beyond (not_le.mpr passed)

/-! ## The program's own runs -/

/-- While there are no more jobs than the list of a scan has room for, the program lets
everything go on that can by rounds. -/
theorem rounds_of_settle {fuel : Nat} {next : Fleet}
    (few : (fleet.services.store.jobs.length : Int) ≤ monitor.batchSize)
    (settled : fleet.settle fuel = .done next) :
    ReflTransGen (Round monitor place) fleet next := by
  suffices rounds : ReflTransGen (Round monitor place) fleet next ∧
      next.services.store.jobs.length = fleet.services.store.jobs.length from rounds.1
  have steps := Fleet.settle_steps settled
  clear settled
  induction steps with
  | refl => exact ⟨.refl, rfl⟩
  | tail _ stepped before =>
      rcases before with ⟨rounds, length⟩
      refine ⟨rounds.tail ⟨.step stepped, fun _ => ?_⟩, ?_⟩
      · refine le_trans ?_ few
        rw [← length]
        exact Int.ofNat_le.mpr (List.length_filter_le _ _)
      · have ids := congrArg List.length (Rules.map_id_of_step stepped)
        rw [List.length_map, List.length_map] at ids
        exact ids.trans length

end LeaseMonitor

namespace Sample

def patrol : LeaseMonitor := ⟨.ofSeconds 2, 10⟩

/-- A worker has claimed the only job for a second and does nothing more. -/
def abandonedFleet : Fleet :=
  ((emptyFleet.act (Dispatcher.enqueue ⟨"amd64"⟩ .null)).2.act
    (Services.claim (freshId 0) ⟨"a"⟩ (.ofSeconds 1))).2

def patrolledFleet : Fleet := abandonedFleet.begin ⟨.monitor, 0, .monitor ⟨patrol, .standard, 0⟩⟩

/-- The fleet after the third scan. -/
def rescuedFleet : Fleet := onward (onward (settled patrolledFleet))

theorem settled_rounds {fleet : Fleet} (few : fleet.services.store.jobs.length ≤ 10) :
    ReflTransGen (LeaseMonitor.Round patrol 0) fleet (settled fleet) := by
  unfold settled
  cases ends : (fleet.settle 10).value? with
  | some next =>
      have fits : (fleet.services.store.jobs.length : Int) ≤ patrol.batchSize :=
        Int.ofNat_le.mpr few
      exact LeaseMonitor.rounds_of_settle fits (Outcome.value?_eq_some.mp ends)
  | none => exact .refl

theorem patrolledFleet_reached : (LeaseMonitor.patrol 0).Reached patrolledFleet := by
  have anything : ∀ {α : Type} {action : Action α} {May : Call → Prop}, action.Within May →
      action.Within fun _ => True := fun within => within.mono fun _ _ => trivial
  have submitted : (LeaseMonitor.patrol 0).Reached
      (emptyFleet.act (Dispatcher.enqueue ⟨"amd64"⟩ .null)).2 :=
    .change (.start _ _ _) (.act _ (anything (Dispatcher.enqueue_within _ _)) (by decide +kernel))
  have claimed : (LeaseMonitor.patrol 0).Reached abandonedFleet :=
    .change submitted (.act _ (.perform trivial) (by decide +kernel))
  exact .change claimed (.begin _ trivial)

theorem patrolledFleet_starts : LeaseMonitor.Starts patrol 0 .monitor patrolledFleet where
  task := ⟨0, .standard, 0, by rfl, Nat.zero_le _, Nat.zero_le _⟩
  ready := by decide +kernel

theorem onward_rounds {fleet : Fleet} (few : fleet.services.store.jobs.length ≤ 10)
    (idle : fleet.ready = [])
    (forward : ∀ timer ∈ fleet.nextTimer?, fleet.services.elapsed ≤ timer) :
    ReflTransGen (LeaseMonitor.Round patrol 0) fleet (onward fleet) := by
  unfold onward
  split
  · rename_i next jumps
    rcases Option.bind_eq_some_iff.mp jumps with ⟨timer, due, jumped⟩
    have jump : LeaseMonitor.Round patrol 0 fleet next := by
      refine ⟨.jump idle (forward timer due) (fun other same => ?_) jumped, fun scans => ?_⟩
      · exact Nat.le_of_eq (Option.some.inj (due.symm.trans same))
      · have first := scans.1
        rw [idle] at first
        cases first
    rcases Fleet.jump?_eq_some jumped with ⟨now, _, ⟨latest, rfl, _⟩, _⟩
    exact .head jump (settled_rounds few)
  · exact .refl

theorem rescuedFleet_rounds :
    ReflTransGen (LeaseMonitor.Round patrol 0) patrolledFleet rescuedFleet := by
  have second : ReflTransGen (LeaseMonitor.Round patrol 0) (settled patrolledFleet) _ :=
    onward_rounds (by decide +kernel) (by decide +kernel) (by decide +kernel)
  have third : ReflTransGen (LeaseMonitor.Round patrol 0) (onward (settled patrolledFleet)) _ :=
    onward_rounds (by decide +kernel) (by decide +kernel) (by decide +kernel)
  exact (settled_rounds (by decide +kernel)).trans (second.trans third)

/-- The job under the lease of a worker that has done nothing since. -/
def abandonedJob : Job :=
  { Job.new (freshId 0) ⟨"amd64"⟩ .null (moment 0) with
    status := .claimed, owner := some ⟨"a"⟩, leaseExpiry := some (moment 1), leaseMs := 1000 }

theorem patrolledFleet_leased : patrolledFleet.LeasedSince (freshId 0) 0 abandonedJob where
  found := by rfl
  leased := rfl
  ends := ⟨moment 0, moment 1, by decide +kernel, by decide +kernel, rfl⟩

theorem rescuedFleet_silent :
    Services.Silent (freshId 0) patrolledFleet.services rescuedFleet.services := by
  have left : patrolledFleet.services.Has (freshId 0) (Job.Left (moment 1)) :=
    ⟨abandonedJob, patrolledFleet_leased.found, .inr ⟨rfl, rfl⟩⟩
  rcases LeaseMonitor.left_of_rounds rescuedFleet_rounds left with ⟨since, journal, _⟩
  let tended (entry : Entry) : Bool := entry.happening.tended? = some (freshId 0)
  have counted : rescuedFleet.services.journal.countP tended =
      patrolledFleet.services.journal.countP tended := by decide +kernel
  rw [journal, List.countP_append, Nat.add_eq_right, List.countP_eq_zero] at counted
  exact ⟨since, journal, fun entry member tends => counted entry member (decide_eq_true tends)⟩

end Sample

/-- The second scan after the worker fell silent gives its job back. -/
theorem LeaseMonitor.sample_no_lease_stays_expired :
    Sample.patrol.scanInterval.nanoseconds % nanosPerMilli = 0 ∧
    (LeaseMonitor.patrol 0).Reached Sample.patrolledFleet ∧
    Starts Sample.patrol 0 .monitor Sample.patrolledFleet ∧
    ReflTransGen (Round Sample.patrol 0) Sample.patrolledFleet Sample.rescuedFleet ∧
    Sample.rescuedFleet.ready = [] ∧ Actor.monitor ∉ Sample.rescuedFleet.interrupted ∧
    Sample.patrolledFleet.LeasedSince (freshId 0) 0 Sample.abandonedJob ∧
    Services.Silent (freshId 0) Sample.patrolledFleet.services Sample.rescuedFleet.services ∧
    (∀ id, Sample.rescuedFleet.services.Every id fun job =>
      job.leaseExpired (Sample.moment 2) = false) ∧
    Sample.rescuedFleet.services.Has (freshId 0) Job.Idle := by
  have idle : Sample.rescuedFleet.ready = [] := by decide +kernel
  have running : Actor.monitor ∉ Sample.rescuedFleet.interrupted := by decide +kernel
  have kept := no_lease_stays_expired (by decide) Sample.patrolledFleet_reached
    Sample.patrolledFleet_starts Sample.rescuedFleet_rounds idle running
  refine ⟨by decide, Sample.patrolledFleet_reached, Sample.patrolledFleet_starts,
    Sample.rescuedFleet_rounds, idle, running, Sample.patrolledFleet_leased,
    Sample.rescuedFleet_silent, kept.1 2000 _ (by decide +kernel) (by decide +kernel),
    kept.2 _ _ _ _ .refl Sample.patrolledFleet_leased Sample.rescuedFleet_rounds
      Sample.rescuedFleet_silent (by decide +kernel)⟩

end BuildFleet
