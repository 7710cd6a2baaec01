import BuildFleet.Proofs.Docker.Daemon
import BuildFleet.Proofs.Docker.Traces

/-!
# Many callers and one daemon

Environments share a daemon, and the calls on them go on side by side: the daemon answers
one request of one call after the other, in any order. It takes its time to report on the
end of a container: it watches the container that stands under the name when it is asked,
and reports when that one does not run any more or is gone.
-/

namespace BuildFleet.Docker

open Dialogue (Trace)

/-- A call on an environment. -/
inductive BuildCall where
  | spawn (environment : Environment) (spec : BuildSpec)
  | await (handle : BuildHandle)
  | cancel (handle : BuildHandle)

/-- What a call comes to. -/
inductive Reply where
  | spawned (answer : Except Failure BuildHandle)
  | awaited (answer : Except Failure BuildOutput)
  | cancelled (answer : Except Failure Unit)

def BuildCall.dialogue : BuildCall → Dialogue Reply
  | spawn environment spec => .spawned <$> environment.spawn spec
  | await handle => .awaited <$> Docker.await handle
  | cancel handle => .cancelled <$> Docker.cancel handle

/-- A call that is under way or over. -/
structure Talk where
  call : BuildCall
  rest : Dialogue Reply
  /-- The container that the daemon watches for the call. -/
  watched : Option String

/-- A daemon with the calls of all its users, in the order in which they were made. -/
structure Yard where
  daemon : Daemon
  talks : List Talk

/-- What the daemon can report on a container: the status it exited with, zero if it was
never started, and anything if it is gone. -/
inductive Daemon.Reports (daemon : Daemon) (id : String) : EndReport → Prop
  | exited {name : String} {container : Container} {status : Int}
      (stands : daemon.container? name = some container) (same : container.id = id)
      (finished : container.exited = some status) : Reports daemon id (.ofStatus status)
  | unstarted {name : String} {container : Container}
      (stands : daemon.container? name = some container) (same : container.id = id)
      (never : container.started = false) (goesOn : container.exited = none) :
      Reports daemon id (.ofStatus 0)
  | gone (absent : ∀ name container, daemon.container? name = some container → container.id ≠ id)
      (report : EndReport) : Reports daemon id report

namespace Yard

def empty : Yard := ⟨.empty, []⟩

inductive Event where
  | called (call : BuildCall)
  /-- A request of a call has been answered. -/
  | asked (caller : Nat) (exchange : Exchange)
  /-- The daemon begins to watch a container for a call. -/
  | watched (caller : Nat) (id : String)
  /-- A container has exited. -/
  | exited (name : String) (status : Int)

inductive Step (yard : Yard) : Event → Yard → Prop
  | called (call : BuildCall) :
      Step yard (.called call) { yard with talks := yard.talks ++ [⟨call, call.dialogue, none⟩] }
  | asked {caller : Nat} {call : BuildCall} {request : Request}
      {go : request.Answer → Dialogue Reply}
      (talk : yard.talks[caller]? = some ⟨call, .ask request go, none⟩)
      (atOnce : ∀ name, request ≠ .await name) :
      Step yard (.asked caller ⟨request, (yard.daemon.step request).2⟩)
        ⟨(yard.daemon.step request).1,
          yard.talks.set caller ⟨call, go (yard.daemon.step request).2, none⟩⟩
  | watched {caller : Nat} {call : BuildCall} {name : String} {go : EndReport → Dialogue Reply}
      {container : Container}
      (talk : yard.talks[caller]? = some ⟨call, .ask (.await name) go, none⟩)
      (stands : yard.daemon.container? name = some container) :
      Step yard (.watched caller container.id)
        { yard with talks :=
          yard.talks.set caller ⟨call, .ask (.await name) go, some container.id⟩ }
  | missed {caller : Nat} {call : BuildCall} {name : String} {go : EndReport → Dialogue Reply}
      (talk : yard.talks[caller]? = some ⟨call, .ask (.await name) go, none⟩)
      (absent : yard.daemon.container? name = none) :
      Step yard (.asked caller ⟨.await name, .fault (Daemon.missing name)⟩)
        { yard with talks :=
          yard.talks.set caller ⟨call, go (.fault (Daemon.missing name)), none⟩ }
  | reported {caller : Nat} {call : BuildCall} {name id : String}
      {go : EndReport → Dialogue Reply} {report : EndReport}
      (talk : yard.talks[caller]? = some ⟨call, .ask (.await name) go, some id⟩)
      (reports : yard.daemon.Reports id report) :
      Step yard (.asked caller ⟨.await name, report⟩)
        { yard with talks := yard.talks.set caller ⟨call, go report, none⟩ }
  | exited {name : String} {container : Container}
      (stands : yard.daemon.container? name = some container)
      (runs : container.started = true) (goesOn : container.exited = none) (status : Int) :
      Step yard (.exited name status)
        { yard with daemon := yard.daemon.put name { container with exited := some status } }

/-- Events, the oldest first, that lead from one state to another. -/
inductive Run (first : Yard) : List Event → Yard → Prop
  | start : Run first [] first
  | goesOn {past : List Event} {yard next : Yard} {event : Event}
      (run : Run first past yard) (step : Step yard event next) :
      Run first (past ++ [event]) next

variable {first yard next : Yard} {events past rest : List Event} {event : Event} {caller : Nat}

/-- A run can be cut at each of its events. -/
theorem Run.cut (run : Run first events yard) (parts : events = past ++ event :: rest) :
    ∃ before after, Run first past before ∧ Step before event after ∧ Run after rest yard := by
  induction run generalizing rest with
  | start => simp at parts
  | @goesOn between last next newest run step induction =>
      -- The event is the newest one, or the run before that can be cut at it.
      rcases List.eq_nil_or_concat rest with rfl | ⟨middle, final, rfl⟩
      · rcases List.append_inj' parts rfl with ⟨rfl, same⟩
        cases same
        exact ⟨last, next, run, step, .start⟩
      · rw [List.concat_eq_append, ← List.cons_append, ← List.append_assoc] at parts
        rcases List.append_inj' parts rfl with ⟨same, final⟩
        cases final
        rcases induction same with ⟨before, after, earlier, cut, later⟩
        rw [List.concat_eq_append]
        exact ⟨before, after, earlier, cut, later.goesOn step⟩

/-! ## Each call by itself -/

/-- The exchange of a call, if the event is one of it. -/
def Event.of? (caller : Nat) : Event → Option Exchange
  | asked other exchange => if other = caller then some exchange else none
  | called _ | watched _ _ | exited _ _ => none

/-- The exchanges of a call. -/
def exchangesOf (caller : Nat) (events : List Event) : List Exchange :=
  events.filterMap (Event.of? caller)

/-- Each call goes on as it does alone, by the answers that it has got. -/
structure Sound (yard : Yard) (events : List Event) : Prop where
  talks : ∀ {caller talk}, yard.talks[caller]? = some talk →
    Trace talk.call.dialogue (exchangesOf caller events) talk.rest
  silent : ∀ {caller}, yard.talks[caller]? = none → exchangesOf caller events = []
  daemon : yard.daemon.Sound

theorem exchangesOf_append (caller : Nat) (past : List Event) (event : Event) :
    exchangesOf caller (past ++ [event]) =
      exchangesOf caller past ++ (event.of? caller).toList := by
  cases own : event.of? caller <;> simp [exchangesOf, own]

/-- What does not belong to any call. -/
theorem exchangesOf_append_other (foreign : event.of? caller = none) :
    exchangesOf caller (past ++ [event]) = exchangesOf caller past := by
  rw [exchangesOf_append, foreign, Option.toList_none, List.append_nil]

/-- A call goes on, and the others do not. -/
theorem Sound.goOn (sound : yard.Sound past) {talk next : Talk} {daemon : Daemon}
    (there : yard.talks[caller]? = some talk)
    (goesOn : Trace next.call.dialogue (exchangesOf caller (past ++ [event])) next.rest)
    (others : ∀ other ≠ caller, event.of? other = none) (known : daemon.Sound) :
    Sound ⟨daemon, yard.talks.set caller next⟩ (past ++ [event]) where
  talks := by
    intro other found talks
    by_cases same : other = caller
    · subst same
      rw [List.getElem?_set_self (List.getElem?_eq_some_iff.mp there).1] at talks
      cases talks
      exact goesOn
    · rw [List.getElem?_set_ne (Ne.symm same)] at talks
      rw [exchangesOf_append_other (others other same)]
      exact sound.talks talks
  silent := by
    intro other none
    have different : other ≠ caller := by
      rintro rfl
      rw [List.getElem?_set_self (List.getElem?_eq_some_iff.mp there).1] at none
      cases none
    rw [List.getElem?_set_ne (Ne.symm different)] at none
    rw [exchangesOf_append_other (others other different)]
    exact sound.silent none
  daemon := known

theorem sound_empty : empty.Sound [] where
  talks := nofun
  silent _ := rfl
  daemon := Daemon.sound_empty

theorem Sound.call (sound : yard.Sound past) (call : BuildCall) :
    Sound { yard with talks := yard.talks ++ [⟨call, call.dialogue, none⟩] }
      (past ++ [.called call]) where
  talks := by
    intro caller talk there
    rw [exchangesOf_append_other rfl]
    rw [List.getElem?_append] at there
    split at there
    · exact sound.talks there
    · rename_i beyond
      rw [sound.silent (List.getElem?_eq_none (Nat.le_of_not_lt beyond))]
      rw [List.getElem?_singleton] at there
      split at there
      · cases there
        exact .start _
      · cases there
  silent := by
    intro caller none
    rw [exchangesOf_append_other rfl]
    apply sound.silent
    rw [List.getElem?_append] at none
    split at none
    · exact none
    · rename_i beyond
      exact List.getElem?_eq_none (Nat.le_of_not_lt beyond)
  daemon := sound.daemon

/-- A call gets an answer. -/
theorem Sound.answer (sound : yard.Sound past) {call : BuildCall} {request : Request}
    {go : request.Answer → Dialogue Reply} {seen : Option String} {daemon : Daemon}
    (talk : yard.talks[caller]? = some ⟨call, .ask request go, seen⟩) (answer : request.Answer)
    (known : daemon.Sound) :
    Sound ⟨daemon, yard.talks.set caller ⟨call, go answer, none⟩⟩
      (past ++ [.asked caller ⟨request, answer⟩]) := by
  refine sound.goOn talk ?_ (fun other different => if_neg (Ne.symm different)) known
  rw [exchangesOf_append, Event.of?, if_pos rfl]
  exact (sound.talks talk).goesOn answer

theorem Step.advances (step : Step yard event next) :
    ∃ new, yard.daemon.Advances next.daemon new := by
  cases step with
  | called | watched | missed | reported => exact ⟨none, Daemon.advances_rfl⟩
  | @asked caller call request => exact (yard.daemon.does_step request).advances
  | exited stands => exact ⟨none, Daemon.advances_put stands rfl⟩

theorem Sound.step (sound : yard.Sound past) (step : Step yard event next) :
    next.Sound (past ++ [event]) := by
  rcases step.advances with ⟨new, advances⟩
  have known := sound.daemon.advances advances
  cases step with
  | called call => exact sound.call call
  | asked talk => exact sound.answer talk _ known
  | watched talk stands =>
      have trace := sound.talks talk
      refine sound.goOn talk ?_ (fun _ _ => rfl) sound.daemon
      rw [exchangesOf_append_other rfl]
      exact trace
  | missed talk absent => exact sound.answer talk _ sound.daemon
  | reported talk reports => exact sound.answer talk _ sound.daemon
  | exited stands runs goesOn status =>
      exact {
        talks := fun there => by
          rw [exchangesOf_append_other rfl]
          exact sound.talks there
        silent := fun none => by
          rw [exchangesOf_append_other rfl]
          exact sound.silent none
        daemon := known }

theorem Run.sound (run : Run empty events yard) : yard.Sound events := by
  induction run with
  | start => exact sound_empty
  | goesOn _ step induction => exact induction.step step

/-! ## Calls that are left to themselves -/

/-- A dialogue that never waits for the end of a container. -/
inductive AtOnce {α : Type} : Dialogue α → Prop
  | done (result : α) : AtOnce (.done result)
  | ask {request : Request} {go : request.Answer → Dialogue α}
      (atOnce : ∀ name, request ≠ .await name) (later : ∀ answer, AtOnce (go answer)) :
      AtOnce (.ask request go)

theorem AtOnce.bind {α β : Type} {dialogue : Dialogue α} {next : α → Dialogue β}
    (atOnce : AtOnce dialogue) (later : ∀ result, AtOnce (next result)) :
    AtOnce (dialogue >>= next) := by
  induction atOnce with
  | done result => exact later result
  | ask atOnce _ induction => exact .ask atOnce induction

theorem AtOnce.map {α β : Type} {dialogue : Dialogue α} (f : α → β) (atOnce : AtOnce dialogue) :
    AtOnce (f <$> dialogue) :=
  atOnce.bind fun _ => .done _

theorem atOnce_request {request : Request} (atOnce : ∀ name, request ≠ .await name) :
    AtOnce (Dialogue.request request) :=
  .ask atOnce fun _ => .done _

theorem atOnce_remove (name : String) : AtOnce (remove name) := by
  rw [remove_eq]
  exact .ask nofun fun _ => .done _

theorem atOnce_spawn (environment : Environment) (spec : BuildSpec) :
    AtOnce (environment.spawn spec) := by
  refine (atOnce_request (by simp)).bind fun _ => (atOnce_remove _).bind fun cleared => ?_
  rcases cleared with failure | _
  · exact .done _
  refine (atOnce_request (by simp)).bind fun created => ?_
  rcases created with fault | id
  · exact .done _
  refine (atOnce_request (by simp)).bind fun started => ?_
  rcases started with fault | _ <;> exact .done _

/-- Such a call can be brought to its end, and the daemon is left as the call alone leaves it. -/
theorem Run.settles {call : BuildCall} {dialogue : Dialogue Reply} (run : Run first events yard)
    (talk : yard.talks[caller]? = some ⟨call, dialogue, none⟩) (atOnce : AtOnce dialogue) :
    ∃ later, Run first (events ++ later) ⟨(dialogue.run Daemon.step yard.daemon).1,
      yard.talks.set caller ⟨call, .done (dialogue.run Daemon.step yard.daemon).2, none⟩⟩ := by
  induction atOnce generalizing events yard with
  | done reply =>
      refine ⟨[], ?_⟩
      have same : yard.talks.set caller ⟨call, .done reply, none⟩ = yard.talks := by
        rcases List.getElem?_eq_some_iff.mp talk with ⟨below, there⟩
        rw [← there, List.set_getElem_self]
      rw [List.append_nil]
      dsimp only [Dialogue.run]
      rw [same]
      exact run
  | @ask request go atOnce _ induction =>
      have next := run.goesOn (.asked talk atOnce)
      rcases induction _ next (List.getElem?_set_self (List.getElem?_eq_some_iff.mp talk).1)
        with ⟨later, settled⟩
      rw [List.append_assoc, List.set_set] at settled
      exact ⟨_, settled⟩

end Yard

theorem Dialogue.run_bind {σ α β : Type} (step : σ → (request : Request) → σ × request.Answer)
    (state : σ) (first : Dialogue α) (next : α → Dialogue β) :
    (first >>= next).run step state =
      (next (first.run step state).2).run step (first.run step state).1 := by
  induction first generalizing state with
  | done => rfl
  | ask request go induction => exact induction _ _

theorem Dialogue.run_map {σ α β : Type} (step : σ → (request : Request) → σ × request.Answer)
    (state : σ) (dialogue : Dialogue α) (f : α → β) : (f <$> dialogue).run step state =
      ((dialogue.run step state).1, f (dialogue.run step state).2) := by
  exact Dialogue.run_bind step state dialogue _

theorem run_request {σ : Type} (step : σ → (request : Request) → σ × request.Answer) (state : σ)
    (request : Request) : (Dialogue.request request).run step state = step state request := rfl

/-- What stood under the name is gone. -/
theorem run_remove (daemon : Daemon) (name : String) :
    ∃ next, (remove name).run Daemon.step daemon = (next, .ok ()) ∧
      next.created = daemon.created ∧
      ∀ other, next.container? other = if other = name then none else daemon.container? other := by
  rcases daemon.step_remove name with ⟨next, answer, removes, cleared, created, names⟩
  refine ⟨next, ?_, created, names⟩
  rw [remove_eq, Dialogue.run, removes]
  dsimp only [Dialogue.run]
  rw [cleared]

/-- A build that nobody interferes with is started in a new container. -/
theorem run_spawn (daemon : Daemon) (environment : Environment) (spec : BuildSpec) :
    ∃ next, (environment.spawn spec).run Daemon.step daemon =
        (next, .ok ⟨spec.jobId, toString daemon.created, "docker"⟩) ∧
      next.created = daemon.created + 1 ∧
      ∀ other, next.container? other = if other = containerName spec.jobId then
          some ⟨toString daemon.created, environment.plan spec, true, none, []⟩
        else daemon.container? other := by
  rcases run_remove daemon (environment.plan spec).name with ⟨cleared, removes, same, names⟩
  rcases Daemon.step_create ((names (environment.plan spec).name).trans (if_pos rfl))
    with ⟨made, creates, more, others⟩
  rcases Daemon.step_start ((others (environment.plan spec).name).trans (if_pos rfl))
    with ⟨begun, starts, still, all⟩
  refine ⟨begun, ?_, by rw [still, more, same], fun other => ?_⟩
  · have pulls : daemon.step (.pull environment.image) = (daemon, [.ok ()]) := rfl
    unfold Environment.spawn
    simp only [Dialogue.run_bind, run_request, pulls, removes, creates, starts, same]
    rfl
  · have named : (environment.plan spec).name = containerName spec.jobId := rfl
    rw [all, others, names, same, named]
    split <;> rfl

/-- A spawn that is left to itself returns the handle of a new container. -/
theorem Yard.Run.spawns {first yard : Yard} {events : List Yard.Event}
    (run : Yard.Run first events yard) (environment : Environment) (spec : BuildSpec) :
    ∃ later next, Yard.Run first (events ++ later) ⟨next, yard.talks ++
        [⟨.spawn environment spec,
          .done (.spawned (.ok ⟨spec.jobId, toString yard.daemon.created, "docker"⟩)), none⟩]⟩ ∧
      next.created = yard.daemon.created + 1 ∧
      ∀ other, next.container? other = if other = containerName spec.jobId then
          some ⟨toString yard.daemon.created, environment.plan spec, true, none, []⟩
        else yard.daemon.container? other := by
  have called := run.goesOn (.called (.spawn environment spec))
  rcases called.settles List.getElem?_concat_length ((Yard.atOnce_spawn environment spec).map _)
    with ⟨later, settled⟩
  rcases run_spawn yard.daemon environment spec with ⟨next, spawns, created, names⟩
  have finished : (BuildCall.spawn environment spec).dialogue.run Daemon.step yard.daemon =
      (next, .spawned (.ok ⟨spec.jobId, toString yard.daemon.created, "docker"⟩)) := by
    rw [BuildCall.dialogue, Dialogue.run_map, spawns]
  have talks (talk next : Talk) :
      (yard.talks ++ [talk]).set yard.talks.length next = yard.talks ++ [next] := by
    simp
  dsimp only at settled
  rw [finished, List.append_assoc, talks] at settled
  exact ⟨_, next, settled, created, names⟩

end BuildFleet.Docker
