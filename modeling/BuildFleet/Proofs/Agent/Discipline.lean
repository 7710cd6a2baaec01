import BuildFleet.Proofs.Agent.Dialogue

/-!
# The discipline of an agent's work on one job

Whatever the agent is answered, it starts the build once at most and only under a
lease, it neither leaves a build behind nor reports one that it has given up, and
what it returns says what came of its calls.
-/

namespace BuildFleet

/-- What holds of an agent's work on one job at every moment. -/
structure Work.Disciplined (exchanges : List WorkExchange) : Prop where
  /-- The build is started once at most, when the claim and the heartbeat after it have
  been granted. -/
  starts : ∀ past exchange rest, exchanges = past ++ exchange :: rest → exchange.Spawns →
    Opened past ∧ ∀ later ∈ rest, ¬ later.Spawns
  /-- A result is reported only when the start was asked for, and never after a heartbeat
  was rejected or the agent was shut down during the build. -/
  reports : ∀ past exchange rest, exchanges = past ++ exchange :: rest → exchange.Reports →
    (∃ earlier ∈ past, earlier.Spawns) ∧
      ∀ earlier ∈ past, ¬ earlier.Rejected ∧ ¬ earlier.ShutDown

/-- What holds of an agent's work on one job when it has come to its end. -/
structure Work.Concluded (exchanges : List WorkExchange) (outcome : Except Failure JobOutcome) :
    Prop where
  /-- A build that was started has exited, or the agent has asked for it to be killed. -/
  cleans : ∀ spec handle, ⟨.spawning spec, .spawned (.ok handle)⟩ ∈ exchanges →
    ∃ exchange ∈ exchanges, exchange.Exits handle ∨ exchange.Kills handle
  /-- After the time limit, a rejected heartbeat or the shutdown the agent asks for that. -/
  kills : ∀ spec handle, ⟨.spawning spec, .spawned (.ok handle)⟩ ∈ exchanges →
    ∀ past exchange rest, exchanges = past ++ exchange :: rest →
      exchange.TimesOut ∨ exchange.Rejected ∨ exchange.ShutDown → ∃ later ∈ rest, later.Kills handle
  /-- The job is passed over if the claim found another lease or a lost job. -/
  skips : outcome = .ok .skipped ↔ ∃ failure : Failure,
    ((∃ message, failure = .conflict message) ∨ ∃ message, failure = .lost message) ∧
      ⟨.claiming, .claimed (.error failure)⟩ ∈ exchanges
  /-- Nothing more is asked when a claim was not granted. -/
  silent : ∀ failure, ⟨.claiming, .claimed (.error failure)⟩ ∈ exchanges →
    exchanges = [⟨.claiming, .claimed (.error failure)⟩]
  /-- The job is completed with a status if the last report has been accepted and was of
  a result with this status. -/
  completes : ∀ status, outcome = .ok (.completed status) ↔ ∃ past result backoff rest,
    exchanges = past ++ ⟨.reporting result backoff, .reported (.ok ())⟩ :: rest ∧
      (∀ later ∈ rest, ¬ later.Reports) ∧ result.status = status
  /-- The status tells whether the build has exited with status zero. -/
  tells : ∀ status, outcome = .ok (.completed status) → (status = .succeeded ↔
    ∃ handle output, ⟨.watching handle, .signalled (.exited (.ok output))⟩ ∈ exchanges ∧
      output.exitCode = some 0)

namespace Work

variable {agent : Agent} {past rest exchanges : List WorkExchange} {exchange : WorkExchange}
  {handle : BuildHandle} {result : JobResult} {backoff : Backoff} {last : Work}
  {outcome : Except Failure JobOutcome}

/-! ## What lies behind a report -/

/-- Nothing that rules a report out. -/
def Harmless (exchange : WorkExchange) : Prop := ¬ exchange.Rejected ∧ ¬ exchange.ShutDown

theorem Opened.length (opened : Opened past) : past.length = 2 := by
  rcases opened with ⟨job, expiry, rfl⟩
  rfl

theorem Opened.of_mem (opened : Opened past) (member : exchange ∈ past) :
    Harmless exchange ∧ ¬ exchange.Spawns ∧ ∀ handle, ¬ exchange.Exits handle := by
  rcases opened with ⟨job, expiry, rfl⟩
  unfold Harmless WorkExchange.Rejected WorkExchange.ShutDown WorkExchange.Spawns WorkExchange.Exits
  simp only [List.mem_cons, List.not_mem_nil, or_false] at member
  rcases member with rfl | rfl <;> simp

theorem Quiet.harmless (quiet : Quiet exchange) :
    Harmless exchange ∧ ∀ handle, ¬ exchange.Exits handle := by
  unfold Harmless WorkExchange.Rejected WorkExchange.ShutDown WorkExchange.Exits
  cases quiet with
  | beaten kept => simpa using kept
  | opened | ticked | noted => simp

theorem Retries.harmless (retries : Retries exchange) :
    Harmless exchange ∧ ∀ handle, ¬ exchange.Exits handle := by
  unfold Harmless WorkExchange.Rejected WorkExchange.ShutDown WorkExchange.Exits
  rcases exchange with ⟨stage, event⟩
  rcases retries with ⟨_, failure, rfl⟩ | rfl <;> simp

theorem Watched.of_mem (watched : Watched handle past) (member : exchange ∈ past) :
    Harmless exchange ∧ ∀ handle, ¬ exchange.Exits handle := by
  rcases watched with ⟨opened, spec, quiet, begins, rfl, all⟩
  rcases List.mem_append.mp member with earlier | later
  · exact (begins.of_mem earlier).imp_right And.right
  · rcases List.mem_cons.mp later with rfl | between
    · unfold Harmless WorkExchange.Rejected WorkExchange.ShutDown WorkExchange.Exits
      simp
    · exact (all exchange between).harmless

theorem Watched.spawned (watched : Watched handle past) :
    ∃ spec, ⟨.spawning spec, .spawned (.ok handle)⟩ ∈ past := by
  rcases watched with ⟨opened, spec, quiet, begins, rfl, all⟩
  exact ⟨spec, List.mem_append_right _ List.mem_cons_self⟩

theorem Built.spawned (built : Built past result) : ∃ earlier ∈ past, earlier.Spawns := by
  have of_watched : ∀ {handle watched rest}, Watched handle watched →
      ∃ earlier ∈ watched ++ rest, earlier.Spawns := by
    intro handle watched rest watches
    rcases watches.spawned with ⟨spec, member⟩
    exact ⟨_, List.mem_append_left _ member, spec, rfl⟩
  cases built with
  | unstarted begins fails =>
      subst fails
      exact ⟨_, List.mem_append_right _ List.mem_cons_self, _, rfl⟩
  | exited watches exits =>
      subst exits
      exact of_watched watches
  | timedOut watches kills =>
      subst kills
      exact of_watched watches

theorem Built.harmless (built : Built past result) (member : exchange ∈ past) :
    Harmless exchange := by
  cases built with
  | unstarted begins fails =>
      subst fails
      rcases List.mem_append.mp member with earlier | last
      · exact (begins.of_mem earlier).1
      · cases List.mem_singleton.mp last
        exact ⟨nofun, nofun⟩
  | exited watches exits =>
      subst exits
      rcases List.mem_append.mp member with earlier | last
      · exact (watches.of_mem earlier).1
      · cases List.mem_singleton.mp last
        exact ⟨nofun, nofun⟩
  | timedOut watches kills =>
      subst kills
      rcases List.mem_append.mp member with earlier | later
      · exact (watches.of_mem earlier).1
      · simp only [List.mem_cons, List.not_mem_nil, or_false] at later
        rcases later with rfl | rfl
        · exact ⟨nofun, nofun⟩
        · exact ⟨nofun, nofun⟩

theorem Built.status (built : Built past result) : result.status = .succeeded ↔
    ∃ handle output, ⟨.watching handle, .signalled (.exited (.ok output))⟩ ∈ past ∧
      output.exitCode = some 0 := by
  -- Neither before the start nor during the watch a build exits.
  have never : ∀ {handle output},
      ⟨.watching handle, .signalled (.exited (.ok output))⟩ ∈ past →
        (∀ exchange ∈ past, ∀ handle, ¬ exchange.Exits handle) → False :=
    fun member none => none _ member _ ⟨_, rfl⟩
  cases built with
  | unstarted begins fails status =>
      rw [status]
      refine ⟨nofun, fun ⟨handle, output, member, _⟩ => ?_⟩
      subst fails
      rcases List.mem_append.mp member with earlier | last
      · exact absurd ⟨_, rfl⟩ ((begins.of_mem earlier).2.2 handle)
      · cases List.mem_singleton.mp last
  | @exited watched handle outcome _ watches exits status =>
      subst exits
      rw [status]
      constructor
      · rintro ⟨output, rfl, zero⟩
        exact ⟨handle, output, List.mem_append_right _ List.mem_cons_self, zero⟩
      · rintro ⟨other, output, member, zero⟩
        rcases List.mem_append.mp member with earlier | last
        · exact absurd ⟨_, rfl⟩ ((watches.of_mem earlier).2 other)
        · cases List.mem_singleton.mp last
          exact ⟨output, rfl, zero⟩
  | timedOut watches kills status =>
      rw [status]
      refine ⟨nofun, fun ⟨handle, output, member, _⟩ => ?_⟩
      subst kills
      rcases List.mem_append.mp member with earlier | later
      · exact absurd ⟨_, rfl⟩ ((watches.of_mem earlier).2 handle)
      · simp only [List.mem_cons, List.not_mem_nil, or_false] at later
        rcases later with same | same <;> cases same

theorem Recalls.spawned {stage : Work} (recalls : Recalls past stage)
    (reports : ∃ delay, stage = .reporting result backoff ∨ stage = .pausing result delay backoff) :
    (∃ earlier ∈ past, earlier.Spawns) ∧ (∀ earlier ∈ past, Harmless earlier) ∧
      (result.status = .succeeded ↔ ∃ handle output,
        ⟨.watching handle, .signalled (.exited (.ok output))⟩ ∈ past ∧
          output.exitCode = some 0) := by
  have shape : ∃ built retries, Built built result ∧ past = built ++ retries ∧
      ∀ exchange ∈ retries, Retries exchange := by
    rcases reports with ⟨delay, rfl | rfl⟩ <;> exact recalls
  rcases shape with ⟨built, retries, has, rfl, all⟩
  refine ⟨?_, fun earlier member => ?_, has.status.trans ⟨?_, ?_⟩⟩
  · rcases has.spawned with ⟨earlier, member, spawns⟩
    exact ⟨earlier, List.mem_append_left _ member, spawns⟩
  · exact (List.mem_append.mp member).elim has.harmless fun later => (all earlier later).harmless.1
  · rintro ⟨handle, output, member, zero⟩
    exact ⟨handle, output, List.mem_append_left _ member, zero⟩
  · rintro ⟨handle, output, member, zero⟩
    refine ⟨handle, output, (List.mem_append.mp member).resolve_right fun later => ?_, zero⟩
    exact (all _ later).harmless.2 handle ⟨_, rfl⟩

/-! ## Laws of whole dialogues -/

namespace Dialogue

theorem opened (dialogue : Dialogue agent .claiming exchanges last)
    (parts : exchanges = past ++ exchange :: rest) (spawns : exchange.Spawns) : Opened past := by
  rcases spawns with ⟨spec, stage⟩
  have recalls := (dialogue.cut parts).1.recalls
  rw [stage] at recalls
  exact recalls

theorem eq_of_spawns (dialogue : Dialogue agent .claiming exchanges last) {other : WorkExchange}
    (member : exchange ∈ exchanges) (spawns : exchange.Spawns)
    (alsoMember : other ∈ exchanges) (alsoSpawns : other.Spawns) : exchange = other := by
  -- Behind every start are the claim and the heartbeat alone.
  have third : ∀ {exchange}, exchange ∈ exchanges → exchange.Spawns →
      exchanges[2]? = some exchange := by
    intro exchange member spawns
    rcases List.append_of_mem member with ⟨past, rest, parts⟩
    have two := (dialogue.opened parts spawns).length
    rw [parts, ← two, List.getElem?_append_right (Nat.le_refl _), Nat.sub_self]
    rfl
  exact Option.some.inj ((third member spawns).symm.trans (third alsoMember alsoSpawns))

theorem no_second_start (dialogue : Dialogue agent .claiming exchanges last)
    (parts : exchanges = past ++ exchange :: rest) (spawns : exchange.Spawns) {later : WorkExchange}
    (member : later ∈ rest) : ¬ later.Spawns := by
  intro again
  rcases List.append_of_mem member with ⟨between, final, rfl⟩
  have first := (dialogue.opened parts spawns).length
  have partsAgain : exchanges = (past ++ exchange :: between) ++ later :: final := by
    rw [parts, List.append_assoc, List.cons_append]
  have second := (dialogue.opened partsAgain again).length
  simp only [List.length_append, List.length_cons] at second
  omega

theorem handle_eq (dialogue : Dialogue agent .claiming exchanges last) {spec : BuildSpec}
    {other : BuildHandle} (member : ⟨.spawning spec, .spawned (.ok handle)⟩ ∈ exchanges)
    (watched : Watched other past) (within : past ⊆ exchanges) : other = handle := by
  rcases watched.spawned with ⟨spec, also⟩
  cases dialogue.eq_of_spawns member ⟨_, rfl⟩ (within also) ⟨_, rfl⟩
  rfl

end Dialogue

/-! ## From the start of a build on -/

/-- The agent watches over this build or is about to kill it. -/
def Attends (handle : BuildHandle) : Work → Prop
  | .openingLogs other | .watching other | .extending other | .noting other
  | .killing other _ => other = handle
  | _ => False

theorem Attends.after {stage next : Work} {event : WorkEvent} (attends : stage.Attends handle)
    (leads : stage.after agent event = some next) : next.Attends handle ∨
      WorkExchange.Exits handle ⟨stage, event⟩ ∨ WorkExchange.Kills handle ⟨stage, event⟩ := by
  cases stage with
  | openingLogs other =>
      cases event <;> cases leads
      exact .inl attends
  | watching other =>
      cases event <;> cases leads
      cases attends
      rename_i signal
      cases signal with
      | exited result => exact .inr (.inl ⟨result, rfl⟩)
      | shutdown | deadline | tick => exact .inl rfl
  | extending other =>
      cases event <;> cases leads
      cases attends
      rename_i answer
      rcases answer with failure | expiry
      · cases failure <;> exact .inl rfl
      · exact .inl rfl
  | noting other =>
      cases event <;> cases leads
      exact .inl attends
  | killing other reason =>
      cases attends
      exact .inr (.inr ⟨reason, rfl⟩)
  | claiming | beginning | spawning | reporting | pausing | ended => cases attends

namespace Dialogue

/-- The agent attends to the build until the build exits or the agent kills it. -/
theorem attends {first : Work} (dialogue : Dialogue agent first exchanges last)
    (attends : first.Attends handle) : last.Attends handle ∨
      ∃ exchange ∈ exchanges, exchange.Exits handle ∨ exchange.Kills handle := by
  induction dialogue with
  | start => exact .inl attends
  | goesOn _ leads induction =>
      rcases induction with attends | ⟨exchange, member, done⟩
      · exact (attends.after leads).imp_right fun done =>
          ⟨_, List.mem_append_right _ List.mem_cons_self, done⟩
      · exact .inr ⟨exchange, List.mem_append_left _ member, done⟩

theorem cleaned (dialogue : Dialogue agent .claiming exchanges (.ended outcome))
    {spec : BuildSpec} (member : ⟨.spawning spec, .spawned (.ok handle)⟩ ∈ exchanges) :
    ∃ exchange ∈ exchanges, exchange.Exits handle ∨ exchange.Kills handle := by
  rcases dialogue.cut_of_mem member with ⟨past, rest, rfl, _, next, leads, later⟩
  cases leads
  have attends : (openingLogs handle).Attends handle := rfl
  rcases later.attends attends with never | ⟨exchange, there, done⟩
  · cases never
  · exact ⟨exchange, List.mem_append_right _ (List.mem_cons_of_mem _ there), done⟩

/-- The agent kills the build at once when it has to. -/
theorem killed (dialogue : Dialogue agent .claiming exchanges (.ended outcome))
    {spec : BuildSpec} (member : ⟨.spawning spec, .spawned (.ok handle)⟩ ∈ exchanges)
    (parts : exchanges = past ++ exchange :: rest)
    (trouble : exchange.TimesOut ∨ exchange.Rejected ∨ exchange.ShutDown) :
    ∃ later ∈ rest, later.Kills handle := by
  rcases dialogue.cut parts with ⟨before, next, leads, later⟩
  have recalls := before.recalls
  have within : past ⊆ exchanges := parts ▸ List.subset_append_left _ _
  have kills : ∀ {other reason}, Watched other past → next = .killing other reason →
      ∃ later ∈ rest, later.Kills handle := by
    rintro other reason watched rfl
    rcases later.begins nofun with ⟨event, final, rfl⟩
    cases dialogue.handle_eq member watched within
    exact ⟨_, List.mem_cons_self, reason, rfl⟩
  rcases exchange with ⟨stage, event⟩
  rcases trouble with timesOut | ⟨message, rejected⟩ | shutDown
  · cases timesOut
    cases stage <;> cases leads
    exact kills recalls rfl
  · cases rejected
    cases stage <;> cases leads
    · -- The agent has not started the build yet.
      cases later.of_ended.1
      cases recalls
      subst parts
      simp at member
    · exact kills recalls rfl
  · cases shutDown
    cases stage <;> cases leads
    exact kills recalls rfl

end Dialogue

/-! ## What the agent returns -/

/-- How the work ends: the job is passed over, or a report is accepted, or else. -/
inductive Over : WorkExchange → Except Failure JobOutcome → Prop
  | conflict (message : String) :
      Over ⟨.claiming, .claimed (.error (.conflict message))⟩ (.ok .skipped)
  | lost (message : String) : Over ⟨.claiming, .claimed (.error (.lost message))⟩ (.ok .skipped)
  | accepted (result : JobResult) (backoff : Backoff) :
      Over ⟨.reporting result backoff, .reported (.ok ())⟩ (.ok (.completed result.status))
  | otherwise {exchange : WorkExchange} {outcome : Except Failure JobOutcome}
      (skipped : outcome ≠ .ok .skipped) (completed : ∀ status, outcome ≠ .ok (.completed status)) :
      Over exchange outcome

theorem over_of_after {stage : Work} {event : WorkEvent}
    (leads : stage.after agent event = some (.ended outcome)) : Over ⟨stage, event⟩ outcome := by
  cases stage with
  | claiming =>
      cases event with
      | claimed answer =>
          rcases answer with failure | job
          · cases failure with
            | conflict message =>
                cases leads
                exact .conflict message
            | lost message =>
                cases leads
                exact .lost message
            | _ =>
                cases leads
                exact .otherwise nofun nofun
          · cases leads
      | _ => cases leads
  | beginning job =>
      cases event with
      | heartbeat answer =>
          rcases answer with failure | expiry
          · cases failure <;> cases leads <;> exact .otherwise nofun nofun
          · cases leads
      | _ => cases leads
  | spawning spec =>
      cases event with
      | spawned answer => cases answer <;> cases leads
      | _ => cases leads
  | watching handle =>
      cases event with
      | signalled signal => rcases signal with _ | (_ | _) | _ | _ <;> cases leads
      | _ => cases leads
  | extending handle =>
      cases event with
      | heartbeat answer =>
          rcases answer with failure | expiry
          · cases failure <;> cases leads
          · cases leads
      | _ => cases leads
  | killing handle reason =>
      cases event with
      | killed answer =>
          cases reason <;> cases leads <;> exact .otherwise nofun nofun
      | _ => cases leads
  | reporting result backoff =>
      cases event with
      | reported answer =>
          rcases answer with failure | _
          · cases failure <;> cases leads <;> exact .otherwise nofun nofun
          · cases leads
            exact .accepted result backoff
      | _ => cases leads
  | pausing result delay backoff =>
      cases event with
      | paused interrupted =>
          cases interrupted <;> cases leads
          exact .otherwise nofun nofun
      | _ => cases leads
  | openingLogs | noting | ended => cases event <;> cases leads

namespace Dialogue

/-- A claim that was not granted is all that the agent asks. -/
theorem silent (dialogue : Dialogue agent .claiming exchanges (.ended outcome))
    {failure : Failure} (member : ⟨.claiming, .claimed (.error failure)⟩ ∈ exchanges) :
    exchanges = [⟨.claiming, .claimed (.error failure)⟩] ∧
      afterClaim (.error failure) = .ended outcome := by
  rcases dialogue.cut_of_mem member with ⟨past, rest, rfl, before, next, leads, later⟩
  have first : past = [] := before.recalls
  have ended : ∃ outcome, afterClaim (.error failure) = .ended outcome := by
    cases failure <;> exact ⟨_, rfl⟩
  rcases ended with ⟨outcome, ended⟩
  cases leads
  rw [ended] at later ⊢
  rcases later.of_ended with ⟨rfl, same⟩
  exact ⟨by rw [first, List.nil_append], same.symm⟩

theorem skipped_iff (dialogue : Dialogue agent .claiming exchanges (.ended outcome)) :
    outcome = .ok .skipped ↔ ∃ failure : Failure,
      ((∃ message, failure = .conflict message) ∨ ∃ message, failure = .lost message) ∧
        ⟨.claiming, .claimed (.error failure)⟩ ∈ exchanges := by
  constructor
  · rintro rfl
    rcases dialogue.ends with ⟨past, stage, event, rfl, _, leads⟩
    cases over_of_after leads with
    | conflict message => exact ⟨_, .inl ⟨message, rfl⟩, List.mem_append_right _ List.mem_cons_self⟩
    | lost message => exact ⟨_, .inr ⟨message, rfl⟩, List.mem_append_right _ List.mem_cons_self⟩
    | otherwise skipped => exact absurd rfl skipped
  · rintro ⟨failure, ⟨message, rfl⟩ | ⟨message, rfl⟩, member⟩
    · cases (dialogue.silent member).2
      rfl
    · cases (dialogue.silent member).2
      rfl

theorem completed_iff (dialogue : Dialogue agent .claiming exchanges (.ended outcome))
    (status : JobStatus) : outcome = .ok (.completed status) ↔ ∃ past result backoff rest,
      exchanges = past ++ ⟨.reporting result backoff, .reported (.ok ())⟩ :: rest ∧
        (∀ later ∈ rest, ¬ later.Reports) ∧ result.status = status := by
  constructor
  · rintro rfl
    rcases dialogue.ends with ⟨past, stage, event, rfl, _, leads⟩
    cases over_of_after leads with
    | accepted result backoff =>
        exact ⟨past, result, backoff, [], rfl, (fun _ member => nomatch member), rfl⟩
    | otherwise _ completed => exact absurd rfl (completed status)
  · rintro ⟨past, result, backoff, rest, rfl, _, rfl⟩
    rcases dialogue.cut rfl with ⟨_, next, leads, later⟩
    cases leads
    cases later.of_ended.2
    rfl

theorem completed_tells (dialogue : Dialogue agent .claiming exchanges (.ended outcome))
    {status : JobStatus} (completed : outcome = .ok (.completed status)) :
    status = .succeeded ↔ ∃ handle output,
      ⟨.watching handle, .signalled (.exited (.ok output))⟩ ∈ exchanges ∧
        output.exitCode = some 0 := by
  subst completed
  rcases dialogue.ends with ⟨past, stage, event, rfl, before, leads⟩
  cases over_of_after leads with
  | accepted result backoff =>
      refine (before.recalls.spawned ⟨.zero, .inl rfl⟩).2.2.trans
        ⟨fun ⟨handle, output, member, zero⟩ => ?_, fun ⟨handle, output, member, zero⟩ => ?_⟩
      · exact ⟨handle, output, List.mem_append_left _ member, zero⟩
      · refine ⟨handle, output, (List.mem_append.mp member).resolve_right fun last => ?_, zero⟩
        cases List.mem_singleton.mp last
  | otherwise _ completed => exact absurd rfl (completed status)

theorem reported (dialogue : Dialogue agent .claiming exchanges last)
    (parts : exchanges = past ++ exchange :: rest) (reports : exchange.Reports) :
    (∃ earlier ∈ past, earlier.Spawns) ∧ ∀ earlier ∈ past, Harmless earlier := by
  rcases reports with ⟨result, backoff, stage⟩
  have behind := (dialogue.cut parts).1.recalls.spawned ⟨.zero, .inl stage⟩
  exact ⟨behind.1, behind.2.1⟩

end Dialogue

/-- Whatever an agent is answered, its work on a job is disciplined, and what it returns
in the end says what came of its calls. -/
theorem Dialogue.disciplined (dialogue : Dialogue agent .claiming exchanges last) :
    Disciplined exchanges ∧ ∀ outcome, last = .ended outcome → Concluded exchanges outcome := by
  have throughout : Disciplined exchanges :=
    { starts := fun _ _ _ parts spawns =>
        ⟨dialogue.opened parts spawns, fun _ => dialogue.no_second_start parts spawns⟩
      reports := fun _ _ _ parts reports => dialogue.reported parts reports }
  refine ⟨throughout, fun outcome ended => ?_⟩
  subst ended
  exact
    { cleans := fun _ _ member => dialogue.cleaned member
      kills := fun _ _ member _ _ _ parts trouble => dialogue.killed member parts trouble
      skips := dialogue.skipped_iff
      silent := fun _ member => (dialogue.silent member).1
      completes := dialogue.completed_iff
      tells := fun _ completed => dialogue.completed_tells completed }

/-! ## A sample

The first report gets lost. -/

namespace Sample

def loneAgent : Agent :=
  ⟨⟨⟨"a"⟩, "host", ⟨"amd64"⟩, 1, .epoch⟩, .ofSeconds 5, .ofSeconds 1, .ofSeconds 60, []⟩

def job : Job := .new (.ofNat 1) ⟨"amd64"⟩ .null .epoch

/-- A build that takes too long under a lease that could not be extended once. -/
def events : List WorkEvent := [
  .claimed (.ok job),
  .heartbeat (.ok .epoch),
  .spawned (.ok ⟨job.id, "", ""⟩),
  .openedLogs (.error (.executionFailed "none")),
  .signalled .tick,
  .heartbeat (.error (.unavailable "store")),
  .signalled .deadline,
  .killed (.ok ()),
  .reported (.error (.unavailable "store")),
  .paused false,
  .reported (.ok ())]

theorem dialogue : Dialogue loneAgent .claiming (transcript loneAgent .claiming events)
    (.ended (.ok (.completed .failed))) := .of_events rfl

end Sample

/-- The build is started once, it is killed when it has taken too long, and the agent
returns that the job has failed. -/
theorem sample_disciplined : Dialogue Sample.loneAgent .claiming
      (transcript Sample.loneAgent .claiming Sample.events) (.ended (.ok (.completed .failed))) ∧
    Disciplined (transcript Sample.loneAgent .claiming Sample.events) ∧
    Concluded (transcript Sample.loneAgent .claiming Sample.events) (.ok (.completed .failed)) :=
  ⟨Sample.dialogue, Sample.dialogue.disciplined.1, Sample.dialogue.disciplined.2 _ rfl⟩

end Work

end BuildFleet
