import BuildFleet.Proofs.Docker.Yard

/-!
# Clean-ups that come late

Containers go by the names of their jobs, and so do the requests that stop and remove them.
When a job is built again under the same name, a clean-up of the earlier build that comes
late finds the container of the new one. It takes effect on that container if and only if
nobody has asked for a removal of the name since the container was made.
-/

namespace BuildFleet.Docker

open Dialogue (Trace)

/-- A request changes the container with an identifier, or takes it away. -/
def Daemon.TakesEffect (daemon : Daemon) (request : Request) (id : String) : Prop :=
  ∃ name container, daemon.container? name = some container ∧ container.id = id ∧
    (daemon.step request).1.container? name ≠ some container

namespace Yard

/-- The removal of what stands under a name is asked for. -/
def Event.Removes (name : String) (event : Event) : Prop :=
  ∃ caller answer, event = .asked caller ⟨.remove name, answer⟩

/-- What stands under a name is stopped, or exits. -/
def Event.Ends (name : String) (event : Event) : Prop :=
  (∃ caller answer, event = .asked caller ⟨.stop name, answer⟩) ∨
    ∃ status, event = .exited name status

/-- A call has started a build and returned its handle. -/
def Returned (yard : Yard) (caller : Nat) (handle : BuildHandle) : Prop :=
  ∃ environment spec seen, yard.talks[caller]? =
    some ⟨.spawn environment spec, .done (.spawned (.ok handle)), seen⟩

/-- A wait for an earlier build of a job or a cancellation of it is about to stop or to
remove a container. -/
structure Stale (yard : Yard) (number : Nat) (handle : BuildHandle) (caller : Nat)
    (request : Request) : Prop where
  earlier : ∃ before < number, ∃ former call go seen, yard.Returned before former ∧
    former.jobId = handle.jobId ∧ (call = .await former ∨ call = .cancel former) ∧
      yard.talks[caller]? = some ⟨call, .ask request go, seen⟩
  ends : ∃ name, request = .stop name ∨ request = .remove name

variable {first yard : Yard} {events past since : List Event} {event : Event} {caller number : Nat}
  {handle : BuildHandle} {request : Request} {plan : ContainerPlan} {name id : String}

/-! ## From the making of a container on -/

/-- A container stands whose removal nobody has asked for since it was made, and it runs
unless it has been stopped or has exited since. -/
structure Stands (daemon : Daemon) (name id : String) (since : List Event)
    (container : Container) : Prop where
  there : daemon.container? name = some container
  same : container.id = id
  kept : ∀ event ∈ since, ¬ event.Removes name
  runs : container.exited = none ↔ ∀ event ∈ since, ¬ event.Ends name

/-- A container that was made still stands, or its removal has been asked for and it is gone. -/
inductive Fate (daemon : Daemon) (name id : String) (since : List Event) : Prop
  | stands {container : Container} (stands : Stands daemon name id since container)
  | gone (gone : daemon.Gone id) (removed : ∃ event ∈ since, event.Removes name)

theorem removes_asked {answer : request.Answer} :
    (Event.asked caller ⟨request, answer⟩).Removes name ↔ request = .remove name := by
  constructor
  · rintro ⟨_, _, same⟩
    cases same
    rfl
  · rintro rfl
    exact ⟨caller, answer, rfl⟩

theorem ends_asked {answer : request.Answer} :
    (Event.asked caller ⟨request, answer⟩).Ends name ↔ request = .stop name := by
  constructor
  · rintro (⟨_, _, same⟩ | ⟨_, same⟩) <;> cases same
    rfl
  · rintro rfl
    exact .inl ⟨caller, answer, rfl⟩

theorem ends_exited {status : Int} {other : String} :
    (Event.exited other status).Ends name ↔ other = name := by
  constructor
  · rintro (⟨_, _, same⟩ | ⟨_, same⟩) <;> cases same
    rfl
  · rintro rfl
    exact .inr ⟨status, rfl⟩

section

variable {daemon next : Daemon} {container : Container}

/-- Nothing happens to the container. -/
theorem Stands.idle (stands : Stands daemon name id since container)
    (kept : ¬ event.Removes name) (runs : ¬ event.Ends name) :
    Stands daemon name id (since ++ [event]) container where
  there := stands.there
  same := stands.same
  kept := by simpa [or_imp, forall_and, kept] using stands.kept
  runs := by
    rw [stands.runs]
    simp [or_imp, forall_and, runs]

/-- A request is answered while the container stands. -/
theorem Stands.asked {answer : request.Answer} (stands : Stands daemon name id since container)
    (sound : daemon.Sound) (does : daemon.Does request next) :
    Fate next name id (since ++ [.asked caller ⟨request, answer⟩]) := by
  by_cases removal : request = .remove name
  · subst removal
    rcases does.advances with ⟨new, advances⟩
    refine .gone (stands.same ▸ Daemon.gone_of_removes sound stands.there advances does.removes) ?_
    exact ⟨_, List.mem_append_right _ (.head _), removes_asked.mpr rfl⟩
  · rcases does.keeps stands.there removal with ⟨found, there, kept, exits⟩
    exact .stands {
      there
      same := kept.trans stands.same
      kept := by simpa [or_imp, forall_and, removes_asked, removal] using stands.kept
      runs := by
        rw [exits, stands.runs]
        simp [or_imp, forall_and, ends_asked] }

/-- A container exits while the container stands, which may be that one. -/
theorem Stands.exited {other : String} {found : Container}
    (stands : Stands daemon name id since container) (there : daemon.container? other = some found)
    (status : Int) :
    Fate (daemon.put other { found with exited := some status }) name id
      (since ++ [.exited other status]) := by
  have kept : ∀ event ∈ since ++ [.exited other status], ¬ event.Removes name := by
    simpa [or_imp, forall_and, Event.Removes] using stands.kept
  by_cases equal : other = name
  · subst equal
    cases there.symm.trans stands.there
    exact .stands {
      there := Daemon.container?_put_self _ _ _
      same := stands.same
      kept
      runs := by simp [or_imp, forall_and, ends_exited] }
  · exact .stands {
      there := (Daemon.container?_put_other _ _ (Ne.symm equal)).trans stands.there
      same := stands.same
      kept
      runs := by
        rw [stands.runs]
        simp [or_imp, forall_and, ends_exited, equal] }

end

theorem Fate.step {next : Yard} (fate : Fate yard.daemon name id since)
    (sound : yard.daemon.Sound) (step : Step yard event next) :
    Fate next.daemon name id (since ++ [event]) := by
  cases fate with
  | gone gone removed =>
      rcases step.advances with ⟨new, advances⟩
      rcases removed with ⟨removal, member, removes⟩
      exact .gone (gone.advances advances) ⟨removal, List.mem_append_left _ member, removes⟩
  | stands stands =>
      cases step with
      | called | watched =>
          refine .stands (stands.idle nofun ?_)
          rintro (⟨_, _, same⟩ | ⟨_, same⟩) <;> cases same
      | missed | reported =>
          exact .stands (stands.idle (mt removes_asked.mp nofun) (mt ends_asked.mp nofun))
      | asked => exact stands.asked sound (yard.daemon.does_step _)
      | exited there _ _ status => exact stands.exited there status

/-- What was made stands, and it has not exited. -/
theorem fate_of_created {next : Yard}
    (step : Step yard (.asked caller ⟨.create plan, .ok id⟩) next) :
    Fate next.daemon plan.name id [] := by
  generalize created : Event.asked caller ⟨.create plan, .ok id⟩ = event at step
  cases step with
  | asked talk atOnce =>
      injection created with _ exchange
      injection exchange with asks answer
      subst asks
      have stands := (Daemon.created_of_step (eq_of_heq answer).symm).2.2
      exact .stands ⟨stands, rfl, nofun, iff_of_true rfl nofun⟩
  | called | watched | missed | reported | exited => cases created

/-! ## Who asks for what -/

theorem mem_of_mem_exchangesOf {exchange : Exchange}
    (member : exchange ∈ exchangesOf caller events) : .asked caller exchange ∈ events := by
  rcases List.mem_filterMap.mp member with ⟨event, member, own⟩
  unfold Event.of? at own
  split at own
  · split at own <;> cases own
    rename_i same
    exact same ▸ member
  all_goals cases own

/-- A returned handle is that of a container that was made under the name of the job. -/
theorem Sound.made (sound : yard.Sound events) (returned : yard.Returned number handle) :
    ∃ plan, plan.name = containerName handle.jobId ∧
      .asked number ⟨.create plan, .ok handle.executorId⟩ ∈ events := by
  rcases returned with ⟨environment, spec, seen, talk⟩
  rcases Dialogue.trace_map_done.mp (sound.talks talk) with ⟨answer, same, trace⟩
  cases same
  have spawns := spawns_of_trace trace
  generalize exchanges : exchangesOf number events = asked at spawns
  cases spawns with
  | started =>
      refine ⟨environment.plan spec, rfl, mem_of_mem_exchangesOf ?_⟩
      rw [exchanges]
      exact .tail _ (.tail _ (.head _))

/-- A late clean-up is one of what stands under the name of the job. -/
theorem Stale.request_eq (stale : yard.Stale number handle caller request)
    (sound : yard.Sound events) :
    request = .stop (containerName handle.jobId) ∨
      request = .remove (containerName handle.jobId) := by
  rcases stale.earlier with ⟨_, _, former, call, go, seen, _, same, which, talk⟩
  have trace := sound.talks talk
  rw [← same]
  rcases which with rfl | rfl
  · rcases Dialogue.trace_map.mp trace with ⟨rest, asks, trace⟩
    rcases Dialogue.eq_ask_of_map asks with ⟨go, rfl, _⟩
    rcases request_of_trace_await trace with rfl | removes
    · rcases stale.ends with ⟨_, impossible | impossible⟩ <;> cases impossible
    · exact .inr removes
  · rcases Dialogue.trace_map.mp trace with ⟨rest, asks, trace⟩
    rcases Dialogue.eq_ask_of_map asks with ⟨go, rfl, _⟩
    exact request_of_trace_cancel trace

/-! ## When a late clean-up takes effect -/

theorem Run.fate (run : Run first since yard) (sound : first.Sound past)
    (fate : Fate first.daemon name id []) :
    yard.daemon.Sound ∧ Fate yard.daemon name id since := by
  induction run with
  | start => exact ⟨sound.daemon, fate⟩
  | goesOn _ step induction =>
      rcases step.advances with ⟨new, advances⟩
      exact ⟨induction.1.advances advances, induction.2.step induction.1 step⟩

/-- A container that stands is stopped or removed by a request about its name. -/
theorem takesEffect_iff {daemon : Daemon} {container : Container} (sound : daemon.Sound)
    (stands : daemon.container? name = some container) (same : container.id = id)
    (ends : request = .stop name ∨ request = .remove name) :
    daemon.TakesEffect request id ↔ (request = .stop name → container.exited = none) := by
  constructor
  · rintro ⟨other, found, there, equal, changes⟩ rfl
    cases sound.unique there stands (equal.trans same.symm)
    cases there.symm.trans stands
    rw [Daemon.stopped_of_step stands] at changes
    cases exited : container.exited with
    | none => rfl
    | some status => exact absurd (by rw [exited, Option.some_or, ← exited]) changes
  · intro stops
    refine ⟨name, container, stands, same, ?_⟩
    rcases ends with rfl | rfl
    · rw [Daemon.stopped_of_step stands, stops rfl]
      intro unchanged
      exact nomatch (congrArg Container.exited (Option.some.inj unchanged)).trans (stops rfl)
    · rw [(daemon.does_step _).removes]
      nofun

/-- A late clean-up of an earlier build of a job stops or removes the container of a later
one if and only if nobody has asked for the removal of the container since it was made, and
it still runs in case it is to be stopped. -/
theorem stale_takesEffect_iff (run : Run empty events yard)
    (returned : yard.Returned number handle) (stale : yard.Stale number handle caller request) :
    ∃ plan before since, plan.name = containerName handle.jobId ∧
      events = before ++ .asked number ⟨.create plan, .ok handle.executorId⟩ :: since ∧
      (yard.daemon.TakesEffect request handle.executorId ↔
        (∀ event ∈ since, ¬ event.Removes plan.name) ∧
          (request = .stop plan.name → ∀ event ∈ since, ¬ event.Ends plan.name)) := by
  rcases run.sound.made returned with ⟨plan, named, made⟩
  rcases List.append_of_mem made with ⟨before, since, parts⟩
  rcases run.cut parts with ⟨first, after, earlier, creates, later⟩
  have fate := later.fate (earlier.sound.step creates) (fate_of_created creates)
  have ends := stale.request_eq run.sound
  rw [← named] at ends
  refine ⟨plan, before, since, named, parts, ?_⟩
  cases fate.2 with
  | stands stands =>
      rw [takesEffect_iff fate.1 stands.there stands.same ends, stands.runs]
      exact ⟨fun stops => ⟨stands.kept, stops⟩, And.right⟩
  | gone gone removed =>
      rcases removed with ⟨removal, member, removes⟩
      refine iff_of_false ?_ fun never => never.1 removal member removes
      rintro ⟨name, container, stands, same, _⟩
      exact gone.absent stands same

/-! ## Samples -/

def sampleBuilder : Environment := ⟨"builder", []⟩

def sampleSpec : BuildSpec := ⟨.ofNat 1, ⟨"amd64"⟩, .null, [], none⟩

/-- The handle of the first build of the job, and that of the second. -/
def formerHandle : BuildHandle := ⟨sampleSpec.jobId, "0", "docker"⟩

def laterHandle : BuildHandle := ⟨sampleSpec.jobId, "1", "docker"⟩

def spawnedTalk (handle : BuildHandle) : Talk :=
  ⟨.spawn sampleBuilder sampleSpec, .done (.spawned (.ok handle)), none⟩

theorem exists_run_once : ∃ events daemon, Run empty events ⟨daemon, [spawnedTalk formerHandle]⟩ ∧
    daemon.created = 1 ∧ ∀ other, daemon.container? other =
      if other = containerName sampleSpec.jobId then
        some ⟨"0", sampleBuilder.plan sampleSpec, true, none, []⟩ else none := by
  rcases Run.start.spawns sampleBuilder sampleSpec with ⟨later, daemon, run, created, names⟩
  exact ⟨_, daemon, run, created, names⟩

/-- The job is built again, whatever has been called in the meantime. -/
theorem Run.spawnsAgain {talks : List Talk} {daemon : Daemon}
    (run : Run empty events ⟨daemon, talks⟩) (created : daemon.created = 1)
    (names : ∀ other, daemon.container? other =
      if other = containerName sampleSpec.jobId then
        some ⟨"0", sampleBuilder.plan sampleSpec, true, none, []⟩ else none) :
    ∃ later next, Run empty (events ++ later) ⟨next, talks ++ [spawnedTalk laterHandle]⟩ ∧
      ∀ other, next.container? other = if other = containerName sampleSpec.jobId then
        some ⟨"1", sampleBuilder.plan sampleSpec, true, none, []⟩ else none := by
  rcases run.spawns sampleBuilder sampleSpec with ⟨later, next, again, _, others⟩
  dsimp only at again others
  rw [created] at again others
  refine ⟨later, next, again, fun other => ?_⟩
  rw [others, names]
  split <;> rfl

/-- A cancellation by the handle of the earlier build stops the container of the new one. -/
theorem sample_late_cancellation : ∃ events yard, Run empty events yard ∧
    yard.Returned 1 laterHandle ∧
    yard.Stale 1 laterHandle 2 (.stop (containerName laterHandle.jobId)) ∧
    (∃ plan before since, plan.name = containerName laterHandle.jobId ∧
      events = before ++ .asked 1 ⟨.create plan, .ok laterHandle.executorId⟩ :: since ∧
      (yard.daemon.TakesEffect (.stop (containerName laterHandle.jobId)) laterHandle.executorId ↔
        (∀ event ∈ since, ¬ event.Removes plan.name) ∧
          (Request.stop (containerName laterHandle.jobId) = .stop plan.name →
            ∀ event ∈ since, ¬ event.Ends plan.name))) ∧
    yard.daemon.TakesEffect (.stop (containerName laterHandle.jobId)) laterHandle.executorId := by
  rcases exists_run_once with ⟨events, daemon, once, created, names⟩
  rcases once.spawnsAgain created names with ⟨later, next, again, others⟩
  let talks : List Talk := [spawnedTalk formerHandle, spawnedTalk laterHandle,
    ⟨.cancel formerHandle, (BuildCall.cancel formerHandle).dialogue, none⟩]
  have run : Run empty _ ⟨next, talks⟩ := again.goesOn (.called (.cancel formerHandle))
  have returned : Returned ⟨next, talks⟩ 1 laterHandle := ⟨sampleBuilder, sampleSpec, none, rfl⟩
  have stale : Stale ⟨next, talks⟩ 1 laterHandle 2 (.stop (containerName laterHandle.jobId)) :=
    ⟨⟨0, by decide, formerHandle, _, _, none, ⟨sampleBuilder, sampleSpec, none, rfl⟩, rfl,
      .inr rfl, rfl⟩, _, .inl rfl⟩
  have stands := (others (containerName sampleSpec.jobId)).trans (if_pos rfl)
  exact ⟨_, _, run, returned, stale, stale_takesEffect_iff run returned stale,
    (takesEffect_iff run.sound.daemon stands rfl (.inl rfl)).mpr fun _ => rfl⟩

/-- The wait for the earlier build comes to its end because the new spawn has removed the
container, and the clean-up that follows removes the new one, which runs. -/
theorem sample_successor_removed : ∃ events yard next, Run empty events yard ∧
    yard.Returned 2 laterHandle ∧
    yard.Stale 2 laterHandle 1 (.remove (containerName laterHandle.jobId)) ∧
    yard.daemon.TakesEffect (.remove (containerName laterHandle.jobId)) laterHandle.executorId ∧
    Step yard (.asked 1 ⟨.remove (containerName laterHandle.jobId), .ok ()⟩) next ∧
    next.daemon.container? (containerName laterHandle.jobId) = none := by
  rcases exists_run_once with ⟨events, daemon, once, created, names⟩
  have tells : EndReport.exitCode (.failed 137) = .ok (some 137) := rfl
  rcases await_eq_ask formerHandle tells with ⟨go, rest, begins, removes⟩
  have stands := (names (containerName sampleSpec.jobId)).trans (if_pos rfl)
  -- The first agent waits for the container of its build.
  let waiting (watched : Option String) : Talk := ⟨.await formerHandle,
    .ask (.await (containerName sampleSpec.jobId)) fun report => .awaited <$> go report, watched⟩
  have awaits : ∃ past, Run empty past ⟨daemon, [spawnedTalk formerHandle, waiting none]⟩ := by
    have called := once.goesOn (.called (.await formerHandle))
    rw [BuildCall.dialogue, begins] at called
    exact ⟨_, called⟩
  rcases awaits with ⟨past, awaits⟩
  have waits : [spawnedTalk formerHandle, waiting none][1]? = some (waiting none) := rfl
  have watches := awaits.goesOn (.watched waits stands)
  rcases watches.spawnsAgain created names with ⟨later, second, again, others⟩
  -- The daemon reports to it that the container is gone.
  let talks : List Talk := [spawnedTalk formerHandle,
    ⟨.await formerHandle, .ask (.remove (containerName laterHandle.jobId)) fun answer =>
      .awaited <$> rest answer, none⟩, spawnedTalk laterHandle]
  have reports : second.Reports "0" (.failed 137) := by
    refine .gone (fun name container there => ?_) _
    rw [others] at there
    split at there
    · cases there
      decide
    · cases there
  have told : ∃ events, Run empty events ⟨second, talks⟩ := by
    have watched : [spawnedTalk formerHandle, waiting (some "0"), spawnedTalk laterHandle][1]? =
      some (waiting (some "0")) := rfl
    have reported := again.goesOn (.reported watched reports)
    rw [removes] at reported
    exact ⟨_, reported⟩
  rcases told with ⟨events, run⟩
  have newer := (others (containerName laterHandle.jobId)).trans (if_pos rfl)
  have effect := (takesEffect_iff run.sound.daemon newer rfl (.inr rfl)).mpr
    (fun same => by cases same)
  have stale : Stale ⟨second, talks⟩ 2 laterHandle 1 (.remove (containerName laterHandle.jobId)) :=
    ⟨⟨0, by decide, formerHandle, _, _, none, ⟨sampleBuilder, sampleSpec, none, rfl⟩, rfl,
      .inl rfl, rfl⟩, _, .inr rfl⟩
  have step : Step ⟨second, talks⟩ (.asked 1 ⟨.remove (containerName laterHandle.jobId),
      (second.step (.remove (containerName laterHandle.jobId))).2⟩) _ :=
    .asked rfl fun _ same => by cases same
  have answer : (second.step (.remove (containerName laterHandle.jobId))).2 = .ok () := by
    simp only [Daemon.step, newer]
    rfl
  rw [answer] at step
  exact ⟨_, _, _, run, ⟨sampleBuilder, sampleSpec, none, rfl⟩, stale, effect, step,
    (second.does_step _).removes⟩

end Yard

end BuildFleet.Docker
