import BuildFleet.Agent.Work

/-!
# An agent's dialogue about one job

Whoever the agent calls may answer anything, and the signals that it waits for may
come in any order. What it asks next depends on the answers alone: at each stage of
its work the exchanges before it have a shape of their own, and the laws of the whole
dialogue are read off these shapes.
-/

namespace BuildFleet

/-- An answer as what came of a call. -/
def Outcome.ofExcept {α : Type} : Except Failure α → Outcome α
  | .ok value => .done value
  | .error failure => .failed failure

/-- What an agent asked at a stage of its work, and what came of it. -/
structure WorkExchange where
  stage : Work
  event : WorkEvent

namespace WorkExchange

/-- The agent asks for the build to be started. -/
def Spawns (exchange : WorkExchange) : Prop := ∃ spec, exchange.stage = .spawning spec

/-- The agent reports a result. -/
def Reports (exchange : WorkExchange) : Prop :=
  ∃ result backoff, exchange.stage = .reporting result backoff

/-- The agent asks for the build to be killed. -/
def Kills (handle : BuildHandle) (exchange : WorkExchange) : Prop :=
  ∃ reason, exchange.stage = .killing handle reason

/-- The build has come to its end by itself. -/
def Exits (handle : BuildHandle) (exchange : WorkExchange) : Prop :=
  ∃ outcome, exchange = ⟨.watching handle, .signalled (.exited outcome)⟩

/-- A heartbeat was rejected. -/
def Rejected (exchange : WorkExchange) : Prop :=
  ∃ message, exchange.event = .heartbeat (.error (.rejected message))

/-- The build has taken too long. -/
def TimesOut (exchange : WorkExchange) : Prop := exchange.event = .signalled .deadline

/-- The agent is shut down while it watches over the build. -/
def ShutDown (exchange : WorkExchange) : Prop := exchange.event = .signalled .shutdown

end WorkExchange

namespace Work

/-- The exchanges, the oldest first, that lead an agent from one stage to another. -/
inductive Dialogue (agent : Agent) (first : Work) : List WorkExchange → Work → Prop
  | start : Dialogue agent first [] first
  | goesOn {past : List WorkExchange} {stage next : Work} {event : WorkEvent}
      (dialogue : Dialogue agent first past stage)
      (leads : stage.after agent event = some next) :
      Dialogue agent first (past ++ [⟨stage, event⟩]) next

/-- The exchanges that these events come to. -/
def transcript (agent : Agent) : Work → List WorkEvent → List WorkExchange
  | _, [] => []
  | stage, event :: rest => ⟨stage, event⟩ :: match stage.after agent event with
    | some next => transcript agent next rest
    | none => []

namespace Dialogue

variable {agent : Agent} {first last : Work} {past rest exchanges : List WorkExchange}
  {exchange : WorkExchange}

/-- A dialogue can be cut at each of its exchanges. -/
theorem cut (dialogue : Dialogue agent first exchanges last)
    (parts : exchanges = past ++ exchange :: rest) :
    Dialogue agent first past exchange.stage ∧ ∃ next,
      exchange.stage.after agent exchange.event = some next ∧ Dialogue agent next rest last := by
  induction dialogue generalizing rest with
  | start => simp at parts
  | @goesOn before stage next event dialogue leads induction =>
      -- The exchange is the newest one, or the dialogue before that can be cut at it.
      rcases List.eq_nil_or_concat rest with rfl | ⟨between, final, rfl⟩
      · rcases List.append_inj' parts rfl with ⟨rfl, same⟩
        cases same
        exact ⟨dialogue, next, leads, .start⟩
      · rw [List.concat_eq_append, ← List.cons_append, ← List.append_assoc] at parts
        rcases List.append_inj' parts rfl with ⟨same, final⟩
        cases final
        rcases induction same with ⟨earlier, middle, answered, later⟩
        rw [List.concat_eq_append]
        exact ⟨earlier, middle, answered, later.goesOn leads⟩

theorem cut_of_mem (dialogue : Dialogue agent first exchanges last)
    (member : exchange ∈ exchanges) : ∃ past rest, exchanges = past ++ exchange :: rest ∧
      Dialogue agent first past exchange.stage ∧ ∃ next,
        exchange.stage.after agent exchange.event = some next ∧
          Dialogue agent next rest last := by
  rcases List.append_of_mem member with ⟨past, rest, parts⟩
  exact ⟨past, rest, parts, dialogue.cut parts⟩

theorem eq_of_nil (dialogue : Dialogue agent first [] last) : last = first := by
  generalize parts : ([] : List WorkExchange) = exchanges at dialogue
  cases dialogue with
  | start => rfl
  | goesOn => simp at parts

theorem begins (dialogue : Dialogue agent first exchanges last) (moves : last ≠ first) :
    ∃ event rest, exchanges = ⟨first, event⟩ :: rest := by
  cases exchanges with
  | nil => exact absurd dialogue.eq_of_nil moves
  | cons exchange rest =>
      have parts : exchange :: rest = [] ++ exchange :: rest := rfl
      have stage := (dialogue.cut parts).1.eq_of_nil
      exact ⟨exchange.event, rest, by rw [← stage]⟩

theorem of_ended {outcome : Except Failure JobOutcome}
    (dialogue : Dialogue agent (.ended outcome) exchanges last) :
    exchanges = [] ∧ last = .ended outcome := by
  cases exchanges with
  | nil => exact ⟨rfl, dialogue.eq_of_nil⟩
  | cons exchange rest =>
      have parts : exchange :: rest = [] ++ exchange :: rest := rfl
      rcases dialogue.cut parts with ⟨empty, next, leads, _⟩
      rw [empty.eq_of_nil] at leads
      cases leads

theorem cons {stage : Work} {event : WorkEvent} (leads : stage.after agent event = some first)
    (dialogue : Dialogue agent first exchanges last) :
    Dialogue agent stage (⟨stage, event⟩ :: exchanges) last := by
  induction dialogue with
  | start => exact .goesOn .start leads
  | goesOn _ later induction =>
      rw [← List.cons_append]
      exact induction.goesOn later

/-- Every sequence of events that the work can come by makes a dialogue. -/
theorem of_events {events : List WorkEvent} (leads : first.afterAll agent events = some last) :
    Dialogue agent first (first.transcript agent events) last := by
  induction events generalizing first with
  | nil =>
      cases leads
      exact .start
  | cons event rest induction =>
      rw [afterAll, List.foldlM_cons, Option.bind_eq_bind, Option.bind_eq_some_iff] at leads
      rcases leads with ⟨next, leads, later⟩
      rw [transcript, leads]
      exact (induction later).cons leads

theorem ends {outcome : Except Failure JobOutcome}
    (dialogue : Dialogue agent .claiming exchanges (.ended outcome)) : ∃ past stage event,
      exchanges = past ++ [⟨stage, event⟩] ∧ Dialogue agent .claiming past stage ∧
        stage.after agent event = some (.ended outcome) := by
  cases dialogue with
  | goesOn dialogue leads => exact ⟨_, _, _, rfl, dialogue, leads⟩

end Dialogue

/-! ## What lies behind each stage -/

/-- The claim and the heartbeat after it have been granted. -/
def Opened (past : List WorkExchange) : Prop := ∃ job expiry,
  past = [⟨.claiming, .claimed (.ok job)⟩, ⟨.beginning job, .heartbeat (.ok expiry)⟩]

/-- What neither starts a build nor ends one. -/
inductive Quiet : WorkExchange → Prop
  | opened {handle : BuildHandle} {answer : Except Failure Unit} :
      Quiet ⟨.openingLogs handle, .openedLogs answer⟩
  | ticked {handle : BuildHandle} : Quiet ⟨.watching handle, .signalled .tick⟩
  | beaten {handle : BuildHandle} {answer : Except Failure Instant}
      (kept : ∀ message, answer ≠ .error (.rejected message)) :
      Quiet ⟨.extending handle, .heartbeat answer⟩
  | noted {handle : BuildHandle} {answer : Except Failure Unit} :
      Quiet ⟨.noting handle, .noted answer⟩

/-- The build has been started and goes on. -/
def Watched (handle : BuildHandle) (past : List WorkExchange) : Prop := ∃ opened spec quiet,
  Opened opened ∧ past = opened ++ ⟨.spawning spec, .spawned (.ok handle)⟩ :: quiet ∧
    ∀ exchange ∈ quiet, Quiet exchange

/-- Why the agent kills the build. -/
inductive Gives (handle : BuildHandle) : KillReason → WorkExchange → Prop
  | timedOut : Gives handle .timedOut ⟨.watching handle, .signalled .deadline⟩
  | shutdown : Gives handle .shutdown ⟨.watching handle, .signalled .shutdown⟩
  | rejected {message : String} :
      Gives handle .rejected ⟨.extending handle, .heartbeat (.error (.rejected message))⟩

/-- What has come of the build. -/
inductive Built (past : List WorkExchange) : JobResult → Prop
  | unstarted {opened : List WorkExchange} {spec : BuildSpec} {failure : Failure}
      {result : JobResult} (begins : Opened opened)
      (fails : past = opened ++ [⟨.spawning spec, .spawned (.error failure)⟩])
      (status : result.status = .failed) : Built past result
  | exited {watched : List WorkExchange} {handle : BuildHandle}
      {outcome : Except Failure BuildOutput} {result : JobResult} (watches : Watched handle watched)
      (exits : past = watched ++ [⟨.watching handle, .signalled (.exited outcome)⟩])
      (status : result.status = .succeeded ↔ ∃ output, outcome = .ok output ∧
        output.exitCode = some 0) : Built past result
  | timedOut {watched : List WorkExchange} {handle : BuildHandle} {answer : Except Failure Unit}
      {result : JobResult} (watches : Watched handle watched)
      (kills : past = watched ++ [⟨.watching handle, .signalled .deadline⟩,
        ⟨.killing handle .timedOut, .killed answer⟩])
      (status : result.status = .failed) : Built past result

/-- A report that is to be repeated, or the pause after it. -/
def Retries (exchange : WorkExchange) : Prop :=
  exchange.Reports ∧ (∃ failure, exchange.event = .reported (.error failure)) ∨
    exchange.event = .paused false

/-- The exchanges before a stage. -/
def Recalls (past : List WorkExchange) : Work → Prop
  | .claiming => past = []
  | .beginning job => past = [⟨.claiming, .claimed (.ok job)⟩]
  | .spawning _ => Opened past
  | .openingLogs handle | .watching handle | .extending handle | .noting handle =>
    Watched handle past
  | .killing handle reason => ∃ watched cause, Watched handle watched ∧
    Gives handle reason cause ∧ past = watched ++ [cause]
  | .reporting result _ | .pausing result _ _ => ∃ built retries, Built built result ∧
    past = built ++ retries ∧ ∀ exchange ∈ retries, Retries exchange
  | .ended _ => True

/-! ## Each exchange -/

section

variable {agent : Agent} {past : List WorkExchange} {handle : BuildHandle} {stage next : Work}
  {event : WorkEvent} {result : JobResult} {backoff : Backoff}

theorem Watched.snoc (watched : Watched handle past) {exchange : WorkExchange}
    (quiet : Quiet exchange) : Watched handle (past ++ [exchange]) := by
  rcases watched with ⟨opened, spec, between, begins, rfl, all⟩
  refine ⟨opened, spec, between ++ [exchange], begins, by simp, fun other member => ?_⟩
  rcases List.mem_append.mp member with earlier | last
  · exact all other earlier
  · exact List.mem_singleton.mp last ▸ quiet

theorem status_ofOutput (output : BuildOutput) (worker : Option WorkerId) (elapsed : Nat) :
    ({ JobResult.ofOutput output with worker, elapsedMs := elapsed } : JobResult).status =
      .succeeded ↔ output.exitCode = some 0 := by
  unfold JobResult.status JobResult.ofOutput BuildOutput.success
  by_cases zero : output.exitCode = some 0
  · simp [zero, JobResult.succeeded]
  · simp [zero, JobResult.failed]

theorem Built.recalled (built : Built past result) : Recalls past (.reporting result backoff) :=
  ⟨past, [], built, (List.append_nil _).symm, fun _ member => nomatch member⟩

theorem Recalls.after_report (recalls : Recalls past (.reporting result backoff))
    (answer : Except Failure Unit) :
    Recalls (past ++ [⟨.reporting result backoff, .reported answer⟩])
      (afterReport result backoff answer) := by
  rcases recalls with ⟨built, retries, has, rfl, all⟩
  rcases answer with failure | _
  · have repeated : Recalls ((built ++ retries) ++
        [⟨.reporting result backoff, .reported (.error failure)⟩])
        (.pausing result backoff.take.1 backoff.take.2) := by
      refine ⟨built, _, has, List.append_assoc _ _ _, fun exchange member => ?_⟩
      rcases List.mem_append.mp member with earlier | last
      · exact all exchange earlier
      · cases List.mem_singleton.mp last
        exact .inl ⟨⟨result, backoff, rfl⟩, failure, rfl⟩
    cases failure with
    | unavailable message => exact repeated
    | _ => trivial
  · trivial

theorem Recalls.after_signal (recalls : Recalls past (.watching handle)) (agent : Agent)
    (signal : BuildSignal) :
    Recalls (past ++ [⟨.watching handle, .signalled signal⟩])
      (afterSignal agent handle signal) := by
  cases signal with
  | shutdown => exact ⟨past, _, recalls, .shutdown, rfl⟩
  | deadline => exact ⟨past, _, recalls, .timedOut, rfl⟩
  | tick => exact recalls.snoc .ticked
  | exited outcome =>
      cases outcome with
      | ok output =>
          refine Built.recalled (.exited recalls rfl ((status_ofOutput _ _ _).trans ?_))
          exact ⟨fun zero => ⟨output, rfl, zero⟩, fun ⟨_, same, zero⟩ => by cases same; exact zero⟩
      | error failure =>
          refine Built.recalled (.exited recalls rfl ⟨fun succeeded => ?_, fun ⟨_, never, _⟩ => ?_⟩)
          · cases succeeded
          · cases never

theorem Recalls.after_heartbeat (recalls : Recalls past (.extending handle))
    (answer : Except Failure Instant) :
    Recalls (past ++ [⟨.extending handle, .heartbeat answer⟩]) (afterHeartbeat handle answer) := by
  rcases answer with failure | expiry
  · cases failure with
    | rejected message => exact ⟨past, _, recalls, .rejected, rfl⟩
    | _ => exact recalls.snoc (.beaten nofun)
  · exact recalls.snoc (.beaten nofun)

theorem Recalls.after_kill {reason : KillReason} (recalls : Recalls past (.killing handle reason))
    (agent : Agent) (answer : Except Failure Unit) :
    Recalls (past ++ [⟨.killing handle reason, .killed answer⟩]) (afterKill agent reason) := by
  rcases recalls with ⟨watched, cause, watches, gives, rfl⟩
  cases gives with
  | timedOut =>
      exact Built.recalled (.timedOut watches (by rw [List.append_assoc]; rfl) rfl)
  | shutdown => trivial
  | rejected => trivial

/-- Every exchange leads to a stage with the exchanges behind it that belong there. -/
theorem Recalls.after (recalls : Recalls past stage)
    (leads : stage.after agent event = some next) :
    Recalls (past ++ [⟨stage, event⟩]) next := by
  -- An event that does not belong to the stage leads nowhere.
  cases stage with
  | claiming =>
      cases event <;> cases leads
      rename_i answer
      cases recalls
      rcases answer with failure | job
      · cases failure <;> trivial
      · rfl
  | beginning job =>
      cases event <;> cases leads
      rename_i answer
      cases recalls
      rcases answer with failure | expiry
      · cases failure <;> trivial
      · exact ⟨job, expiry, rfl⟩
  | spawning spec =>
      cases event <;> cases leads
      rename_i answer
      rcases answer with failure | handle
      · exact Built.recalled (.unstarted recalls rfl rfl)
      · exact ⟨past, spec, [], recalls, rfl, fun _ member => nomatch member⟩
  | openingLogs handle =>
      cases event <;> cases leads
      exact Watched.snoc recalls .opened
  | watching handle =>
      cases event <;> cases leads
      exact recalls.after_signal agent _
  | extending handle =>
      cases event <;> cases leads
      exact recalls.after_heartbeat _
  | noting handle =>
      cases event <;> cases leads
      exact Watched.snoc recalls .noted
  | killing handle reason =>
      cases event <;> cases leads
      exact recalls.after_kill agent _
  | reporting result backoff =>
      cases event <;> cases leads
      exact recalls.after_report _
  | pausing result delay backoff =>
      cases event with
      | paused interrupted =>
          cases interrupted <;> cases leads
          · rcases recalls with ⟨built, retries, has, rfl, all⟩
            refine ⟨built, _, has, List.append_assoc _ _ _, fun exchange member => ?_⟩
            rcases List.mem_append.mp member with earlier | last
            · exact all exchange earlier
            · cases List.mem_singleton.mp last
              exact .inr rfl
          · trivial
      | _ => cases leads
  | ended outcome => cases leads

theorem Dialogue.recalls (dialogue : Dialogue agent .claiming past stage) :
    Recalls past stage := by
  induction dialogue with
  | start => rfl
  | goesOn _ leads recalls => exact recalls.after leads

end

end Work

end BuildFleet
