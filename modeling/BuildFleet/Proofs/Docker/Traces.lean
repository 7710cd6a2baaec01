import BuildFleet.Docker.Environment

/-!
# Courses of dialogues with the daemon

Whatever the daemon answers, the requests of a call follow a course of their own, and the
answers on the way settle its result.
-/

namespace BuildFleet.Docker

/-- A request, and what was answered. -/
structure Exchange where
  request : Request
  answer : request.Answer

namespace Dialogue

variable {α β : Type}

/-- The exchanges, the oldest first, that lead a dialogue to what is left of it. -/
inductive Trace : Dialogue α → List Exchange → Dialogue α → Prop
  | start (dialogue : Dialogue α) : Trace dialogue [] dialogue
  | asked {request : Request} {go : request.Answer → Dialogue α} {answer : request.Answer}
      {exchanges : List Exchange} {left : Dialogue α} (later : Trace (go answer) exchanges left) :
      Trace (.ask request go) (⟨request, answer⟩ :: exchanges) left

variable {dialogue left : Dialogue α} {exchanges : List Exchange} {result : α}

theorem Trace.goesOn {request : Request} {go : request.Answer → Dialogue α}
    (trace : Trace dialogue exchanges (.ask request go)) (answer : request.Answer) :
    Trace dialogue (exchanges ++ [⟨request, answer⟩]) (go answer) := by
  generalize rest : Dialogue.ask request go = middle at trace
  induction trace with
  | start =>
      subst rest
      exact .asked (.start _)
  | asked _ induction => exact .asked (induction rest)

/-- A dialogue that is over goes nowhere. -/
theorem trace_done :
    Trace (.done result) exchanges left ↔ exchanges = [] ∧ left = .done result := by
  constructor
  · intro trace
    cases trace with
    | start => exact ⟨rfl, rfl⟩
  · rintro ⟨rfl, rfl⟩
    exact .start _

theorem eq_ask_of_map {f : α → β} {request : Request} {go : request.Answer → Dialogue β}
    (same : .ask request go = f <$> dialogue) :
    ∃ rest, dialogue = .ask request rest ∧ ∀ answer, go answer = f <$> rest answer := by
  cases dialogue with
  | done => cases same
  | ask request rest =>
      cases same
      exact ⟨rest, rfl, fun _ => rfl⟩

theorem eq_done_of_map {f : α → β} {result : β} (same : .done result = f <$> dialogue) :
    ∃ inner, dialogue = .done inner ∧ result = f inner := by
  cases dialogue with
  | done inner =>
      cases same
      exact ⟨inner, rfl, rfl⟩
  | ask => cases same

/-- What is asked for a result is asked for what is made of the result. -/
theorem trace_map {f : α → β} {left : Dialogue β} :
    Trace (f <$> dialogue) exchanges left ↔
      ∃ rest, left = f <$> rest ∧ Trace dialogue exchanges rest := by
  constructor
  · intro trace
    generalize begins : f <$> dialogue = mapped at trace
    induction trace generalizing dialogue with
    | start => exact ⟨dialogue, begins.symm, .start _⟩
    | asked later induction =>
        cases dialogue with
        | done result => cases begins
        | ask request go =>
            cases begins
            rcases induction rfl with ⟨rest, same, later⟩
            exact ⟨rest, same, .asked later⟩
  · rintro ⟨rest, rfl, trace⟩
    induction trace with
    | start => exact .start _
    | asked _ induction => exact .asked induction

theorem trace_map_done {f : α → β} {result : β} :
    Trace (f <$> dialogue) exchanges (.done result) ↔
      ∃ inner, f inner = result ∧ Trace dialogue exchanges (.done inner) := by
  rw [trace_map]
  constructor
  · rintro ⟨rest, same, trace⟩
    rcases eq_done_of_map same with ⟨inner, rfl, rfl⟩
    exact ⟨inner, rfl, trace⟩
  · rintro ⟨inner, rfl, trace⟩
    exact ⟨_, rfl, trace⟩

/-- One dialogue after the other. -/
theorem trace_bind_done {next : α → Dialogue β} {result : β} :
    Trace (dialogue >>= next) exchanges (.done result) ↔ ∃ before inner after,
      exchanges = before ++ after ∧ Trace dialogue before (.done inner) ∧
        Trace (next inner) after (.done result) := by
  constructor
  · intro trace
    induction dialogue generalizing exchanges with
    | done inner => exact ⟨[], inner, exchanges, rfl, .start _, trace⟩
    | ask request go induction =>
        cases trace with
        | asked later =>
            rcases induction _ later with ⟨before, inner, after, rfl, first, second⟩
            exact ⟨_ :: before, inner, after, rfl, .asked first, second⟩
  · rintro ⟨before, inner, after, rfl, first, second⟩
    generalize ends : Dialogue.done inner = middle at first
    induction first with
    | start =>
        subst ends
        exact second
    | asked _ induction => exact .asked (induction ends)

theorem trace_request_done {request : Request} {answer : request.Answer} :
    Trace (Dialogue.request request) exchanges (.done answer) ↔
      exchanges = [⟨request, answer⟩] := by
  constructor
  · intro trace
    cases trace with
    | asked later =>
        rcases trace_done.mp later with ⟨rfl, same⟩
        cases same
        rfl
  · rintro rfl
    exact .asked (.start _)

/-- The exchanges with a daemon that answers a request always alike. -/
def exchangesWith (reply : (request : Request) → request.Answer) : Dialogue α → List Exchange
  | done _ => []
  | ask request go => ⟨request, reply request⟩ :: (go (reply request)).exchangesWith reply

end Dialogue

open Dialogue

variable {environment : Environment} {spec : BuildSpec} {handle : BuildHandle} {name : String}
  {exchanges : List Exchange}

/-- What an answer to a removal means. -/
def removalResult : Except Fault Unit → Except Failure Unit
  | .ok () => .ok ()
  | .error (.refused 404 _) => .ok ()
  | .error fault => .error (executionFailed "remove" fault)

/-- A removal is one request. -/
theorem remove_eq (name : String) :
    remove name = .ask (.remove name) fun answer => .done (removalResult answer) := by
  refine congrArg (Dialogue.ask _) (funext fun answer => ?_)
  dsimp only [Dialogue.bind]
  split
  · rfl
  · rfl
  · rename_i fault other
    simp only [removalResult]
    rfl

theorem exists_of_trace_remove {result : Except Failure Unit}
    (trace : Trace (remove name) exchanges (.done result)) :
    ∃ answer, result = removalResult answer ∧ exchanges = [⟨.remove name, answer⟩] := by
  rw [remove_eq] at trace
  cases trace with
  | asked later =>
      rcases trace_done.mp later with ⟨rfl, same⟩
      cases same
      exact ⟨_, rfl, rfl⟩

/-- What is asked to start a build, and what comes of it. -/
inductive Spawns (environment : Environment) (spec : BuildSpec) :
    List Exchange → Except Failure BuildHandle → Prop
  /-- What was there under the name could not be removed. -/
  | blocked {pulled : List (Except Fault Unit)} {fault : Fault} {failure : Failure} :
      Spawns environment spec
        [⟨.pull environment.image, pulled⟩, ⟨.remove (containerName spec.jobId), .error fault⟩]
        (.error failure)
  | uncreated {pulled : List (Except Fault Unit)} {removed : Except Fault Unit} {fault : Fault}
      {failure : Failure} :
      Spawns environment spec
        [⟨.pull environment.image, pulled⟩, ⟨.remove (containerName spec.jobId), removed⟩,
          ⟨.create (environment.plan spec), .error fault⟩]
        (.error failure)
  | unstarted {pulled : List (Except Fault Unit)} {removed : Except Fault Unit} {id : String}
      {fault : Fault} {failure : Failure} :
      Spawns environment spec
        [⟨.pull environment.image, pulled⟩, ⟨.remove (containerName spec.jobId), removed⟩,
          ⟨.create (environment.plan spec), .ok id⟩,
          ⟨.start (containerName spec.jobId), .error fault⟩]
        (.error failure)
  | started {pulled : List (Except Fault Unit)} {removed : Except Fault Unit} {id : String} :
      Spawns environment spec
        [⟨.pull environment.image, pulled⟩, ⟨.remove (containerName spec.jobId), removed⟩,
          ⟨.create (environment.plan spec), .ok id⟩, ⟨.start (containerName spec.jobId), .ok ()⟩]
        (.ok ⟨spec.jobId, id, "docker"⟩)

theorem spawns_of_trace {result : Except Failure BuildHandle}
    (trace : Trace (environment.spawn spec) exchanges (.done result)) :
    Spawns environment spec exchanges result := by
  rcases trace_bind_done.mp trace with ⟨_, pulled, _, rfl, pulls, trace⟩
  rcases trace_bind_done.mp trace with ⟨_, cleared, _, rfl, removes, trace⟩
  rw [trace_request_done.mp pulls]
  rcases exists_of_trace_remove removes with ⟨removed, clears, rfl⟩
  rcases cleared with failure | _
  · rcases trace_done.mp trace with ⟨rfl, same⟩
    cases same
    rcases removed with fault | _
    · exact .blocked
    · cases clears
  rcases trace_bind_done.mp trace with ⟨_, created, _, rfl, creates, trace⟩
  rw [trace_request_done.mp creates]
  rcases created with fault | id
  · rcases trace_done.mp trace with ⟨rfl, same⟩
    cases same
    exact .uncreated
  rcases trace_bind_done.mp trace with ⟨_, began, _, rfl, starts, trace⟩
  rw [trace_request_done.mp starts]
  rcases began with fault | _
  · rcases trace_done.mp trace with ⟨rfl, same⟩
    cases same
    exact .unstarted
  · rcases trace_done.mp trace with ⟨rfl, same⟩
    cases same
    exact .started

/-- What is asked to end a build. -/
theorem exists_of_trace_cancel {result : Except Failure Unit}
    (trace : Trace (cancel handle) exchanges (.done result)) : ∃ stopped removed,
      exchanges = [⟨.stop (containerName handle.jobId), stopped⟩,
        ⟨.remove (containerName handle.jobId), removed⟩] := by
  rcases trace_bind_done.mp trace with ⟨_, stopped, _, rfl, stops, removes⟩
  rw [trace_request_done.mp stops]
  rcases exists_of_trace_remove removes with ⟨removed, _, rfl⟩
  exact ⟨stopped, removed, rfl⟩

/-- The exit code that is read off a report. -/
def EndReport.exitCode : EndReport → Except Fault (Option Int)
  | silent => .ok none
  | exited status | failed status => .ok (some (exitStatus status))
  | fault cause => .error cause

/-- What is asked while a build is awaited, and what is left to be asked. -/
inductive Awaits (handle : BuildHandle) :
    List Exchange → Dialogue (Except Failure BuildOutput) → Prop
  | waits : Awaits handle [] (await handle)
  /-- The end of the build is not known, and nothing is done about its container. -/
  | failed {fault : Fault} :
      Awaits handle [⟨.await (containerName handle.jobId), .fault fault⟩]
        (.done (.error (.executionFailed ("Failed to wait for container: " ++ fault.text))))
  /-- The container is being removed. -/
  | told {report : EndReport} {exitCode : Option Int} (tells : report.exitCode = .ok exitCode)
      {go : Except Fault Unit → Dialogue (Except Failure BuildOutput)} :
      Awaits handle [⟨.await (containerName handle.jobId), report⟩]
        (.ask (.remove (containerName handle.jobId)) go)
  | removed {report : EndReport} {exitCode : Option Int} (tells : report.exitCode = .ok exitCode)
      {removed : Except Fault Unit} :
      Awaits handle [⟨.await (containerName handle.jobId), report⟩,
        ⟨.remove (containerName handle.jobId), removed⟩] (.done (.ok ⟨exitCode, none, none⟩))

/-- A removal whose answer does not matter. -/
theorem clears_of_trace {result : Except Failure BuildOutput}
    {left : Dialogue (Except Failure BuildOutput)}
    (trace : Trace (remove name >>= fun _ => pure result) exchanges left) :
    (exchanges = [] ∧ ∃ go, left = .ask (.remove name) go) ∨
      ∃ removed, exchanges = [⟨.remove name, removed⟩] ∧ left = .done result := by
  rw [remove_eq] at trace
  cases trace with
  | start => exact .inl ⟨rfl, _, rfl⟩
  | asked later =>
      rcases trace_done.mp later with ⟨rfl, rfl⟩
      exact .inr ⟨_, rfl, rfl⟩

theorem awaits_of_trace {left : Dialogue (Except Failure BuildOutput)}
    (trace : Trace (await handle) exchanges left) : Awaits handle exchanges left := by
  cases trace with
  | start => exact .waits
  | @asked _ _ report exchanges _ later =>
      have cleared {exitCode : Option Int} (tells : report.exitCode = .ok exitCode)
          (later : Trace (remove (containerName handle.jobId) >>= fun _ =>
            pure (.ok ⟨exitCode, none, none⟩)) exchanges left) :
          Awaits handle (⟨.await (containerName handle.jobId), report⟩ :: exchanges) left := by
        rcases clears_of_trace later with ⟨rfl, go, rfl⟩ | ⟨removed, rfl, rfl⟩
        · exact .told tells
        · exact .removed tells
      cases report with
      | silent => exact cleared rfl later
      | exited status => exact cleared rfl later
      | failed status => exact cleared rfl later
      | fault cause =>
          rcases trace_done.mp later with ⟨rfl, rfl⟩
          exact .failed

/-- All that a wait asks for. -/
theorem request_of_trace_await {request : Request}
    {go : request.Answer → Dialogue (Except Failure BuildOutput)}
    (trace : Trace (await handle) exchanges (.ask request go)) :
    request = .await (containerName handle.jobId) ∨
      request = .remove (containerName handle.jobId) := by
  cases awaits_of_trace trace with
  | waits => exact .inl rfl
  | told => exact .inr rfl

/-- All that a cancellation asks for. -/
theorem request_of_trace_cancel {request : Request}
    {go : request.Answer → Dialogue (Except Failure Unit)}
    (trace : Trace (cancel handle) exchanges (.ask request go)) :
    request = .stop (containerName handle.jobId) ∨
      request = .remove (containerName handle.jobId) := by
  cases trace with
  | start => exact .inl rfl
  | asked later =>
      dsimp only [Dialogue.bind] at later
      rw [remove_eq] at later
      cases later with
      | start => exact .inr rfl
      | asked finished => cases (trace_done.mp finished).2

/-- When the end of a build has been told, its container is to be removed. -/
theorem await_eq_ask (handle : BuildHandle) {report : EndReport} {exitCode : Option Int}
    (tells : report.exitCode = .ok exitCode) : ∃ go rest,
      await handle = .ask (.await (containerName handle.jobId)) go ∧
        go report = .ask (.remove (containerName handle.jobId)) rest := by
  have clears (exitCode : Option Int) :
      (remove (containerName handle.jobId) >>= fun _ =>
        (pure (.ok ⟨exitCode, none, none⟩) : Dialogue (Except Failure BuildOutput))) =
      .ask (.remove (containerName handle.jobId)) fun _ => .done (.ok ⟨exitCode, none, none⟩) := by
    rw [remove_eq]
    rfl
  cases report with
  | silent => exact ⟨_, _, rfl, clears none⟩
  | exited status => exact ⟨_, _, rfl, clears (some (exitStatus status))⟩
  | failed status => exact ⟨_, _, rfl, clears (some (exitStatus status))⟩
  | fault cause => cases tells

end BuildFleet.Docker
