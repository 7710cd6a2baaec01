import BuildFleet.Proofs.Docker.Processing

/-!
# Work that nothing disturbs

The store grants everything, and the daemon answers a request always alike. Then the work on
a job comes to a report on it, with the requests of a spawn and of a wait.
-/

namespace BuildFleet.Docker.Processing

variable {agent : Agent} {environment : Environment} {first : Processing} {entries : List Entry}
  {handle : BuildHandle} {reply : (request : Request) → request.Answer}

/-- A call can be brought to its end. -/
theorem Run.answered {call : Dialogue WorkEvent} {work : Work}
    {log : Dialogue (List (LogStream × String))}
    (run : Run agent environment first entries ⟨work, some call, log⟩)
    (reply : (request : Request) → request.Answer) (calls : Calls work) :
    Run agent environment first (entries ++ (call.exchangesWith reply).map .asked)
      ⟨work, some (.done (call.resultWith reply)), log⟩ := by
  induction call generalizing entries with
  | done event =>
      rw [Dialogue.exchangesWith, List.map_nil, List.append_nil]
      exact run
  | ask request go induction =>
      have next := induction _ (run.goesOn (.asked (reply request) calls rfl))
      rw [List.append_assoc] at next
      exact next

theorem exchangesWith_map {α β : Type} (f : α → β) (dialogue : Dialogue α) :
    (f <$> dialogue).exchangesWith reply = dialogue.exchangesWith reply := by
  induction dialogue with
  | done => rfl
  | ask request go induction => exact congrArg (_ :: ·) (induction _)

theorem resultWith_map {α β : Type} (f : α → β) (dialogue : Dialogue α) :
    (f <$> dialogue).resultWith reply = f (dialogue.resultWith reply) := by
  induction dialogue with
  | done => rfl
  | ask request go induction => exact induction _

theorem Run.meets {stage next : Work} {call : Option (Dialogue WorkEvent)}
    {log : Dialogue (List (LogStream × String))}
    (run : Run agent environment first entries ⟨stage, call, log⟩) (event : WorkEvent)
    (pending : ∀ result, call ≠ some (.done result)) (foreign : Foreign event)
    (leads : stage.after agent event = some next) :
    Run agent environment first (entries ++ [.met ⟨stage, event⟩])
      (enter environment ⟨stage, call, log⟩ next) :=
  run.goesOn (.met pending foreign leads)

theorem Run.returns {stage next : Work} {event : WorkEvent}
    {log : Dialogue (List (LogStream × String))}
    (run : Run agent environment first entries ⟨stage, some (.done event), log⟩)
    (leads : stage.after agent event = some next) :
    Run agent environment first (entries ++ [.met ⟨stage, event⟩])
      (enter environment ⟨stage, some (.done event), log⟩ next) :=
  run.goesOn (.returned rfl leads)

/-- The way to the end of the call that starts the build. -/
theorem exists_run_spawning (agent : Agent) (environment : Environment) (job : Job)
    (reply : (request : Request) → request.Answer) :
    ∃ entries, Run agent environment .start entries
        ⟨.spawning (agent.buildSpec job),
          some (.done (.spawned ((environment.spawn (agent.buildSpec job)).resultWith reply))),
          .done []⟩ ∧
      requests entries = (environment.spawn (agent.buildSpec job)).exchangesWith reply := by
  have begins : Run agent environment .start [] ⟨.claiming, none, .done []⟩ := .start
  have claims := begins.meets (.claimed (.ok job)) (by simp) trivial rfl
  have spawns := claims.meets (.heartbeat (.ok .epoch)) (by simp [callAt, Work.afterClaim])
    trivial rfl
  have finished := spawns.answered reply trivial
  rw [resultWith_map] at finished
  refine ⟨_, finished, ?_⟩
  simp only [requests_append, requests_met, requests_asked, exchangesWith_map,
    List.nil_append]

/-- The way to the wait for a build that has been started. -/
theorem exists_run_watching (agent : Agent) (environment : Environment) (job : Job)
    (reply : (request : Request) → request.Answer)
    (started : (environment.spawn (agent.buildSpec job)).resultWith reply = .ok handle) :
    ∃ entries, Run agent environment .start entries
        ⟨.watching handle, some (awaiting handle), logs handle⟩ ∧
      requests entries = (environment.spawn (agent.buildSpec job)).exchangesWith reply := by
  rcases exists_run_spawning agent environment job reply with ⟨entries, spawns, asked⟩
  rw [started] at spawns
  have watches := (spawns.returns rfl).meets (.openedLogs (.ok ()))
    (by simp [callAt, Work.afterSpawn]) trivial rfl
  refine ⟨_, watches, ?_⟩
  simp only [requests_append, requests_met, asked, List.append_nil]

/-- The way to the report on a build whose wait has come to its end. -/
theorem exists_run_of_started (agent : Agent) (environment : Environment) (job : Job)
    (reply : (request : Request) → request.Answer) {outcome : Except Failure BuildOutput}
    (started : (environment.spawn (agent.buildSpec job)).resultWith reply = .ok handle)
    (awaited : (await handle).resultWith reply = outcome) :
    ∃ entries, Run agent environment .start entries
        ⟨.reporting (signed agent (resultOf outcome)) .standard, none, logs handle⟩ ∧
      requests entries = (environment.spawn (agent.buildSpec job)).exchangesWith reply ++
        (await handle).exchangesWith reply := by
  rcases exists_run_watching agent environment job reply started with ⟨entries, watches, asked⟩
  have finished := watches.answered reply trivial
  rw [awaiting, resultWith_map, awaited] at finished
  have ends : Work.after agent (.watching handle) (.signalled (.exited outcome)) =
      some (.reporting (signed agent (resultOf outcome)) .standard) := by
    cases outcome <;> rfl
  refine ⟨_, finished.returns ends, ?_⟩
  simp only [requests_append, requests_met, requests_asked, exchangesWith_map, asked,
    List.append_nil]

/-- The way to the report on a build whose time is over while its container is being removed. -/
theorem exists_run_of_late (agent : Agent) (environment : Environment) (job : Job)
    (reply : (request : Request) → request.Answer) {report : EndReport} {exitCode : Option Int}
    (started : (environment.spawn (agent.buildSpec job)).resultWith reply = .ok handle)
    (tells : report.exitCode = .ok exitCode) :
    ∃ entries, Run agent environment .start entries
        ⟨.reporting (signed agent (.failed .timeout)) .standard, none, logs handle⟩ ∧
      ⟨.await (containerName handle.jobId), report⟩ ∈ requests entries := by
  rcases exists_run_watching agent environment job reply started with ⟨entries, watches, _⟩
  rcases await_eq_ask handle tells with ⟨go, rest, begins, removes⟩
  rw [awaiting, begins] at watches
  have answers : Step agent environment
      ⟨.watching handle, some ((fun outcome => .signalled (.exited outcome)) <$>
        .ask (.await (containerName handle.jobId)) go), logs handle⟩
      (.asked ⟨.await (containerName handle.jobId), report⟩)
      ⟨.watching handle, some ((fun outcome => .signalled (.exited outcome)) <$> go report),
        logs handle⟩ := by
    apply Step.asked
    · trivial
    · rfl
  rw [removes] at answers
  have kills := (watches.goesOn answers).meets (.signalled .deadline) (fun _ same => nomatch same)
    trivial rfl
  have finished := kills.answered reply trivial
  rw [resultWith_map] at finished
  refine ⟨_, finished.returns rfl, ?_⟩
  simp only [requests_append, List.mem_append]
  exact .inl (.inl (.inl (.inr (.head _))))

/-- The way to the report on a build that could not be started. -/
theorem exists_run_of_unstarted (agent : Agent) (environment : Environment) (job : Job)
    (reply : (request : Request) → request.Answer) {failure : Failure}
    (fails : (environment.spawn (agent.buildSpec job)).resultWith reply = .error failure) :
    ∃ entries, Run agent environment .start entries
        ⟨.reporting (signed agent (.ofFailure failure)) .standard, none, .done []⟩ ∧
      requests entries = (environment.spawn (agent.buildSpec job)).exchangesWith reply := by
  rcases exists_run_spawning agent environment job reply with ⟨entries, spawns, asked⟩
  rw [fails] at spawns
  refine ⟨_, spawns.returns rfl, ?_⟩
  simp only [requests_append, requests_met, asked, List.append_nil]

/-- The store accepts the completion of the job. -/
theorem step_completed (agent : Agent) (environment : Environment) (result : JobResult)
    (backoff : Backoff) (log : Dialogue (List (LogStream × String))) :
    Step agent environment ⟨.reporting result backoff, none, log⟩
      (.met ⟨.reporting result backoff, .reported (.ok ())⟩)
      ⟨.ended (.ok (.completed result.status)), none, log⟩ :=
  .met (by simp) trivial rfl

theorem Run.completed {result : JobResult} {backoff : Backoff}
    {log : Dialogue (List (LogStream × String))}
    (run : Run agent environment first entries ⟨.reporting result backoff, none, log⟩) :
    ∃ completed, Run agent environment first completed
        ⟨.ended (.ok (.completed result.status)), none, log⟩ ∧
      requests completed = requests entries := by
  refine ⟨_, run.goesOn (step_completed agent environment result backoff log), ?_⟩
  rw [requests_append, requests_met, List.append_nil]

/-! ## Samples -/

def sampleAgent : Agent :=
  ⟨⟨⟨"a"⟩, "host", ⟨"amd64"⟩, 1, .epoch⟩, .ofSeconds 5, .ofSeconds 1, .ofSeconds 60, []⟩

def sampleJob : Job := .new (.ofNat 1) ⟨"amd64"⟩ .null .epoch

def sampleEnvironment : Environment := ⟨"builder", []⟩

def samplePlan : ContainerPlan := sampleEnvironment.plan (sampleAgent.buildSpec sampleJob)

/-- A daemon that answers alike whenever it is asked to start a container or to report on
its end, and has nothing against all the rest. -/
def sampleReply (started : Except Fault Unit) (report : EndReport) :
    (request : Request) → request.Answer
  | .pull _ => []
  | .remove _ => Except.ok ()
  | .create _ => Except.ok "c"
  | .start _ => started
  | .follow _ => []
  | .await _ => report
  | .stop _ => Except.ok ()

end BuildFleet.Docker.Processing
