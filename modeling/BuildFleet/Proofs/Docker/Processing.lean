import BuildFleet.Proofs.Agent.Dialogue
import BuildFleet.Proofs.Docker.Traces

/-!
# An agent that builds in containers

An agent's work on one job and its calls on the environment go on together: a call is made
when the agent comes to a stage that needs it, and each of its requests is answered before
the work goes on. The wait for a build rests while the agent sends a heartbeat, and is given
up when the agent kills the build. The log is followed beside all that. Whatever the daemon
and the store answer, and whatever the agent notices and when, the requests follow a course.
-/

namespace BuildFleet.Docker

/-- An agent at work on a job with an environment of containers. -/
structure Processing where
  work : Work
  /-- What is left of the call that the work waits for, and what will come of it. -/
  call : Option (Dialogue WorkEvent)
  /-- What is left of following the log. -/
  log : Dialogue (List (LogStream × String))

namespace Processing

/-- What happens in the course of the work. -/
inductive Entry where
  /-- A request of the call that the work waits for. -/
  | asked (exchange : Exchange)
  /-- A request for the log. -/
  | followed (exchange : Exchange)
  /-- The work goes on to another stage. -/
  | met (exchange : WorkExchange)

def Entry.asked? : Entry → Option Exchange
  | asked exchange => some exchange
  | followed _ | met _ => none

def Entry.met? : Entry → Option WorkExchange
  | met exchange => some exchange
  | asked _ | followed _ => none

/-- The requests of the calls, with their answers. -/
def requests (entries : List Entry) : List Exchange := entries.filterMap Entry.asked?

/-- The exchanges of the work itself. -/
def stages (entries : List Entry) : List WorkExchange := entries.filterMap Entry.met?

def start : Processing := ⟨.claiming, none, .done []⟩

/-- What a build is awaited for. -/
def awaiting (handle : BuildHandle) : Dialogue WorkEvent :=
  (fun outcome => .signalled (.exited outcome)) <$> await handle

/-- The call at the next stage. A wait that has begun goes on. -/
def callAt (environment : Environment) (processing : Processing) :
    Work → Option (Dialogue WorkEvent)
  | .spawning spec => some (.spawned <$> environment.spawn spec)
  | .watching handle => processing.call.or (some (awaiting handle))
  | .extending _ | .noting _ => processing.call
  | .killing handle _ => some (.killed <$> cancel handle)
  | _ => none

/-- What is left of following the log at the next stage. -/
def logAt (processing : Processing) : Dialogue (List (LogStream × String)) :=
  match processing.work with
  | .openingLogs handle => logs handle
  | _ => processing.log

/-- Go on to the next stage. -/
def enter (environment : Environment) (processing : Processing) (next : Work) : Processing :=
  ⟨next, processing.callAt environment next, processing.logAt⟩

/-- The work waits for its call at this stage. -/
def Calls : Work → Prop
  | .spawning _ | .watching _ | .killing _ _ => True
  | _ => False

/-- What does not come of a call on the environment. -/
def Foreign : WorkEvent → Prop
  | .spawned _ | .killed _ | .signalled (.exited _) => False
  | _ => True

inductive Step (agent : Agent) (environment : Environment) (processing : Processing) :
    Entry → Processing → Prop
  | asked {request : Request} {go : request.Answer → Dialogue WorkEvent} (answer : request.Answer)
      (calls : Calls processing.work) (pending : processing.call = some (.ask request go)) :
      Step agent environment processing (.asked ⟨request, answer⟩)
        { processing with call := some (go answer) }
  | returned {event : WorkEvent} {next : Work} (finished : processing.call = some (.done event))
      (leads : processing.work.after agent event = some next) :
      Step agent environment processing (.met ⟨processing.work, event⟩)
        (processing.enter environment next)
  /-- The agent notices that a call has come to its end before anything else. -/
  | met {event : WorkEvent} {next : Work}
      (pending : ∀ result, processing.call ≠ some (.done result)) (foreign : Foreign event)
      (leads : processing.work.after agent event = some next) :
      Step agent environment processing (.met ⟨processing.work, event⟩)
        (processing.enter environment next)
  | followed {request : Request} {go : request.Answer → Dialogue (List (LogStream × String))}
      (answer : request.Answer) (pending : processing.log = .ask request go) :
      Step agent environment processing (.followed ⟨request, answer⟩)
        { processing with log := go answer }

/-- What happens, the oldest first, on the way from one state to another. -/
inductive Run (agent : Agent) (environment : Environment) (first : Processing) :
    List Entry → Processing → Prop
  | start : Run agent environment first [] first
  | goesOn {past : List Entry} {processing next : Processing} {entry : Entry}
      (run : Run agent environment first past processing)
      (step : Step agent environment processing entry next) :
      Run agent environment first (past ++ [entry]) next

/-- The build has taken too long. -/
def TimedOut (entries : List Entry) : Prop := ∃ exchange ∈ stages entries, exchange.TimesOut

variable {agent : Agent} {environment : Environment} {processing next : Processing}
  {entries past : List Entry} {entry : Entry} {handle : BuildHandle} {spec : BuildSpec}

/-! ## The work and the calls -/

theorem requests_append (past later : List Entry) :
    requests (past ++ later) = requests past ++ requests later :=
  List.filterMap_append

theorem requests_met (exchange : WorkExchange) : requests [.met exchange] = [] := rfl

theorem requests_asked (exchanges : List Exchange) :
    requests (exchanges.map .asked) = exchanges := by
  have kept : Entry.asked? ∘ Entry.asked = some := rfl
  rw [requests, List.filterMap_map, kept, List.filterMap_some]

theorem stages_append (past : List Entry) (entry : Entry) :
    stages (past ++ [entry]) = stages past ++ entry.met?.toList := by
  cases met : entry.met? <;> simp [stages, met]

/-- An exchange of the work leads to the next stage, whether a call has come to its end or not. -/
theorem Step.leads {exchange : WorkExchange}
    (step : Step agent environment processing (.met exchange) next) :
    processing.work = exchange.stage ∧
      exchange.stage.after agent exchange.event = some next.work := by
  cases step with
  | returned _ leads => exact ⟨rfl, leads⟩
  | met _ _ leads => exact ⟨rfl, leads⟩

/-- The work goes on as it does with any environment. -/
theorem Run.dialogue (run : Run agent environment .start entries processing) :
    Work.Dialogue agent .claiming (stages entries) processing.work := by
  induction run with
  | start => exact .start
  | goesOn _ step induction =>
      rw [stages_append]
      cases step with
      | asked | followed => simpa [Entry.met?] using induction
      | returned _ leads => exact induction.goesOn leads
      | met _ _ leads => exact induction.goesOn leads

/-! ## What was asked at each stage -/

/-- The result that the agent reports for the end of a build. -/
def resultOf : Except Failure BuildOutput → JobResult
  | .ok output => .ofOutput output
  | .error failure => .ofFailure failure

/-- A result with the name of the agent. -/
def signed (agent : Agent) (result : JobResult) : JobResult :=
  { result with worker := some agent.info.id, elapsedMs := 0 }

open Dialogue (Trace)

/-- A build has been started with these requests. -/
def Started (environment : Environment) (handle : BuildHandle) (begun : List Exchange) : Prop :=
  ∃ spec, Trace (environment.spawn spec) begun (.done (.ok handle))

/-- A wait has come so far, but not to its end. -/
def Interrupted (handle : BuildHandle) (waited : List Exchange) : Prop :=
  ∃ request go, Trace (await handle) waited (.ask request go)

/-- A build has been killed with these requests. -/
structure Killed (environment : Environment) (handle : BuildHandle)
    (begun waited killed : List Exchange) : Prop where
  started : Started environment handle begun
  interrupted : Interrupted handle waited
  finished : ∃ answer, Trace (cancel handle) killed (.done answer)

/-- What was asked before a result could be reported, and whether the build was late. -/
inductive Comes (agent : Agent) (environment : Environment) (late : Prop) :
    List Exchange → JobResult → Prop
  | unstarted {spec : BuildSpec} {begun : List Exchange} {failure : Failure}
      (fails : Trace (environment.spawn spec) begun (.done (.error failure))) :
      Comes agent environment late begun (signed agent (.ofFailure failure))
  | exited {handle : BuildHandle} {begun waited : List Exchange}
      {outcome : Except Failure BuildOutput} (started : Started environment handle begun)
      (exits : Trace (await handle) waited (.done outcome)) (onTime : ¬ late) :
      Comes agent environment late (begun ++ waited) (signed agent (resultOf outcome))
  | timedOut {handle : BuildHandle} {begun waited killed : List Exchange}
      (ends : Killed environment handle begun waited killed) (isLate : late) :
      Comes agent environment late (begun ++ waited ++ killed) (signed agent (.failed .timeout))

/-- What has been asked up to a stage, and what is left of the call there. -/
def Recalls (agent : Agent) (environment : Environment) (late : Prop) (asked : List Exchange)
    (call : Option (Dialogue WorkEvent)) : Work → Prop
  | .claiming | .beginning _ => call = none ∧ asked = []
  | .spawning spec => ∃ rest, call = some (.spawned <$> rest) ∧
    Trace (environment.spawn spec) asked rest
  | .openingLogs handle => call = none ∧ Started environment handle asked
  | .watching handle | .extending handle | .noting handle => ∃ begun waited rest,
    call = some ((fun outcome => .signalled (.exited outcome)) <$> rest) ∧
      asked = begun ++ waited ∧ Started environment handle begun ∧
        Trace (await handle) waited rest
  | .killing handle _ => ∃ begun waited killed rest, call = some (.killed <$> rest) ∧
    asked = begun ++ waited ++ killed ∧ Started environment handle begun ∧
      Interrupted handle waited ∧ Trace (cancel handle) killed rest
  | .reporting result _ | .pausing result _ _ =>
    call = none ∧ Comes agent environment late asked result
  | .ended _ => asked = [] ∨ (∃ result, Comes agent environment late asked result) ∨
    ∃ handle begun waited killed, asked = begun ++ waited ++ killed ∧
      Killed environment handle begun waited killed

section

variable {late : Prop} {asked : List Exchange} {call : Option (Dialogue WorkEvent)} {work : Work}
  {request : Request} {go : request.Answer → Dialogue WorkEvent} {event : WorkEvent} {α : Type}
  {f : α → WorkEvent} {rest : Dialogue α}

theorem rest_of_asking (pending : call = some (.ask request go)) (same : call = some (f <$> rest)) :
    ∃ inner, rest = .ask request inner ∧ ∀ answer, go answer = f <$> inner answer :=
  Dialogue.eq_ask_of_map (Option.some.inj (pending.symm.trans same))

theorem rest_of_finished (finished : call = some (.done event)) (same : call = some (f <$> rest)) :
    ∃ result, rest = .done result ∧ event = f result :=
  Dialogue.eq_done_of_map (Option.some.inj (finished.symm.trans same))

/-- A call goes on by a request and its answer. -/
theorem Recalls.ask (recalls : Recalls agent environment late asked call work)
    (calls : Calls work) (pending : call = some (.ask request go)) (answer : request.Answer) :
    Recalls agent environment late (asked ++ [⟨request, answer⟩]) (some (go answer)) work := by
  cases work with
  | spawning spec =>
      rcases recalls with ⟨rest, same, trace⟩
      rcases rest_of_asking pending same with ⟨go, rfl, next⟩
      exact ⟨go answer, congrArg some (next answer), trace.goesOn answer⟩
  | watching handle =>
      rcases recalls with ⟨begun, waited, rest, same, rfl, started, trace⟩
      rcases rest_of_asking pending same with ⟨go, rfl, next⟩
      exact ⟨begun, _, go answer, congrArg some (next answer), List.append_assoc _ _ _, started,
        trace.goesOn answer⟩
  | killing handle reason =>
      rcases recalls with ⟨begun, waited, killed, rest, same, rfl, started, interrupted, trace⟩
      rcases rest_of_asking pending same with ⟨go, rfl, next⟩
      exact ⟨begun, waited, _, go answer, congrArg some (next answer), List.append_assoc _ _ _,
        started, interrupted, trace.goesOn answer⟩
  | _ => exact calls.elim

end

theorem timedOut_append (past : List Entry) (exchange : WorkExchange) :
    TimedOut (past ++ [.met exchange]) ↔ TimedOut past ∨ exchange.TimesOut := by
  simp [TimedOut, stages_append, Entry.met?, or_and_right, exists_or]

theorem timedOut_append_of_call (call : entry.met? = none) :
    TimedOut (past ++ [entry]) ↔ TimedOut past := by
  rw [TimedOut, stages_append, call, Option.toList_none, List.append_nil]
  rfl

/-- A build that goes on is not late. -/
theorem not_timedOut (watched : Work.Watched handle (stages past)) : ¬ TimedOut past := by
  rintro ⟨exchange, member, late⟩
  rcases watched with ⟨opened, spec, quiet, ⟨job, expiry, rfl⟩, parts, all⟩
  simp only [parts, List.cons_append, List.nil_append, List.mem_cons] at member
  rcases member with rfl | rfl | rfl | member
  · cases late
  · cases late
  · cases late
  · cases all exchange member <;> cases late

/-- A build is killed for its time if it is late. -/
theorem timedOut_of_killing
    (stood : Work.Recalls (stages past) (.killing handle .timedOut)) : TimedOut past := by
  rcases stood with ⟨watched, cause, _, gives, parts⟩
  cases gives
  exact ⟨⟨.watching handle, .signalled .deadline⟩, by simp [parts], rfl⟩

variable {event : WorkEvent} {work : Work}

/-- The work goes on by what its call has come to. -/
theorem recalls_of_returned
    (recalls : Recalls agent environment (TimedOut past) (requests past) processing.call
      processing.work)
    (stood : Work.Recalls (stages past) processing.work)
    (finished : processing.call = some (.done event))
    (leads : processing.work.after agent event = some work) :
    Recalls agent environment (TimedOut (past ++ [.met ⟨processing.work, event⟩]))
      (requests past) (processing.callAt environment work) work := by
  rcases processing with ⟨stage, call, log⟩
  dsimp only at recalls stood finished leads ⊢
  rw [timedOut_append]
  cases stage with
  | spawning spec =>
      rcases recalls with ⟨rest, same, trace⟩
      rcases rest_of_finished finished same with ⟨answer, rfl, rfl⟩
      cases leads
      rcases answer with failure | handle
      · exact ⟨rfl, .unstarted trace⟩
      · exact ⟨rfl, spec, trace⟩
  | watching handle =>
      rcases recalls with ⟨begun, waited, rest, same, parts, started, trace⟩
      rcases rest_of_finished finished same with ⟨outcome, rfl, rfl⟩
      have onTime : ¬ (TimedOut past ∨ WorkExchange.TimesOut
          ⟨.watching handle, .signalled (.exited outcome)⟩) := by
        rintro (late | late)
        · exact not_timedOut stood late
        · cases late
      rw [parts]
      cases leads
      cases outcome with
      | error failure => exact ⟨rfl, .exited started trace onTime⟩
      | ok output => exact ⟨rfl, .exited started trace onTime⟩
  | killing handle reason =>
      rcases recalls with ⟨begun, waited, killed, rest, same, parts, started, interrupted, trace⟩
      rcases rest_of_finished finished same with ⟨answer, rfl, rfl⟩
      have ends : Killed environment handle begun waited killed :=
        ⟨started, interrupted, answer, trace⟩
      rw [parts]
      cases leads
      cases reason with
      | timedOut => exact ⟨rfl, .timedOut ends (.inl (timedOut_of_killing stood))⟩
      | rejected => exact .inr (.inr ⟨handle, begun, waited, killed, rfl, ends⟩)
      | shutdown => exact .inr (.inr ⟨handle, begun, waited, killed, rfl, ends⟩)
  | extending handle | noting handle =>
      rcases recalls with ⟨begun, waited, rest, same, parts, started, trace⟩
      rcases rest_of_finished finished same with ⟨outcome, rfl, rfl⟩
      cases leads
  | claiming | beginning | openingLogs | reporting | pausing =>
      exact nomatch recalls.1.symm.trans finished
  | ended outcome => cases leads

/-- A wait that goes on is not at its end. -/
theorem interrupted_of_pending {α : Type} {waited : List Exchange}
    {rest : Dialogue (Except Failure BuildOutput)} {f : Except Failure BuildOutput → α}
    (trace : Trace (await handle) waited rest)
    (pending : ∀ result, some (f <$> rest) ≠ some (.done result)) : Interrupted handle waited := by
  cases rest with
  | done outcome => exact absurd rfl (pending _)
  | ask request go => exact ⟨request, go, trace⟩

/-- The work goes on by something that does not come of its call. -/
theorem recalls_of_met
    (recalls : Recalls agent environment (TimedOut past) (requests past) processing.call
      processing.work)
    (pending : ∀ result, processing.call ≠ some (.done result)) (foreign : Foreign event)
    (leads : processing.work.after agent event = some work) :
    Recalls agent environment (TimedOut (past ++ [.met ⟨processing.work, event⟩]))
      (requests past) (processing.callAt environment work) work := by
  rcases processing with ⟨stage, call, log⟩
  dsimp only at recalls pending leads ⊢
  rw [timedOut_append]
  cases stage with
  | claiming =>
      cases event <;> cases leads
      rename_i answer
      rcases answer with failure | job
      · cases failure <;> exact .inl recalls.2
      · exact ⟨rfl, recalls.2⟩
  | beginning job =>
      cases event <;> cases leads
      rename_i answer
      rcases answer with failure | expiry
      · cases failure <;> exact .inl recalls.2
      · refine ⟨_, rfl, ?_⟩
        rw [recalls.2]
        exact .start _
  | openingLogs handle =>
      cases event <;> cases leads
      rcases recalls with ⟨rfl, started⟩
      exact ⟨_, [], await handle, rfl, (List.append_nil _).symm, started, .start _⟩
  | watching handle =>
      cases event <;> cases leads
      rename_i signal
      rcases recalls with ⟨begun, waited, rest, rfl, parts, started, trace⟩
      rw [parts]
      have interrupted := interrupted_of_pending trace pending
      cases signal with
      | exited outcome => exact foreign.elim
      | tick => exact ⟨begun, waited, rest, rfl, rfl, started, trace⟩
      | shutdown | deadline =>
          exact ⟨begun, waited, [], cancel handle, rfl, (List.append_nil _).symm, started,
            interrupted, .start _⟩
  | extending handle =>
      cases event <;> cases leads
      rename_i answer
      rcases recalls with ⟨begun, waited, rest, rfl, parts, started, trace⟩
      rw [parts]
      rcases answer with failure | expiry
      · cases failure with
        | rejected message =>
            exact ⟨begun, waited, [], cancel handle, rfl, (List.append_nil _).symm, started,
              interrupted_of_pending trace pending, .start _⟩
        | _ => exact ⟨begun, waited, rest, rfl, rfl, started, trace⟩
      · exact ⟨begun, waited, rest, rfl, rfl, started, trace⟩
  | noting handle =>
      cases event <;> cases leads
      rcases recalls with ⟨begun, waited, rest, rfl, parts, started, trace⟩
      exact ⟨begun, waited, rest, rfl, parts, started, trace⟩
  | reporting result backoff =>
      cases event <;> cases leads
      rename_i answer
      have never : ¬ WorkExchange.TimesOut ⟨.reporting result backoff, .reported answer⟩ := nofun
      rw [or_iff_left never]
      rcases answer with failure | _
      · cases failure with
        | unavailable message => exact ⟨rfl, recalls.2⟩
        | _ => exact .inr (.inl ⟨result, recalls.2⟩)
      · exact .inr (.inl ⟨result, recalls.2⟩)
  | pausing result delay backoff =>
      cases event with
      | paused interrupted =>
          have never : ¬ WorkExchange.TimesOut
              ⟨.pausing result delay backoff, .paused interrupted⟩ := nofun
          rw [or_iff_left never]
          cases interrupted <;> cases leads
          · exact ⟨rfl, recalls.2⟩
          · exact .inr (.inl ⟨result, recalls.2⟩)
      | _ => cases leads
  | spawning | killing =>
      cases event <;> first | exact foreign.elim | cases leads
  | ended outcome => cases leads

theorem Step.recalls
    (step : Step agent environment processing entry next)
    (stood : Work.Recalls (stages past) processing.work)
    (recalls : Recalls agent environment (TimedOut past) (requests past) processing.call
      processing.work) :
    Recalls agent environment (TimedOut (past ++ [entry])) (requests (past ++ [entry])) next.call
      next.work := by
  rw [requests_append]
  cases step with
  | @asked request go answer calls pending =>
      rw [timedOut_append_of_call rfl]
      exact recalls.ask calls pending answer
  | returned finished leads =>
      rw [requests_met, List.append_nil]
      exact recalls_of_returned recalls stood finished leads
  | met pending foreign leads =>
      rw [requests_met, List.append_nil]
      exact recalls_of_met recalls pending foreign leads
  | @followed request go answer pending =>
      have none : requests [.followed ⟨request, answer⟩] = [] := rfl
      rw [timedOut_append_of_call rfl, none, List.append_nil]
      exact recalls

/-- At every moment the requests are those that belong to the stage of the work. -/
theorem Run.recalls (run : Run agent environment .start entries processing) :
    Recalls agent environment (TimedOut entries) (requests entries) processing.call
      processing.work := by
  induction run with
  | start => exact ⟨rfl, rfl⟩
  | goesOn run step induction => exact step.recalls run.dialogue.recalls induction

end Processing

end BuildFleet.Docker
