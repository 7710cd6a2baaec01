import BuildFleet.Proofs.Fleet.Timers
import BuildFleet.Proofs.Services.Laws

/-!
# Runs of a fleet by rules

A fleet goes on by the steps of its tasks and by its clock. What comes from outside is up
to rules: who asks what, who begins, which calls are planned to fail, and which tasks may
end before they are done. What happens to the services within a moment is the deeds of one
actor, and what happens to a task is its own step, or it waits, or it is gone.
-/

namespace BuildFleet

open Relation (ReflTransGen)

/-- What may come to a fleet from outside. -/
structure Rules where
  mayAsk : Fleet → Call → Prop
  mayBegin : Fleet → Task → Prop
  /-- The names of the calls for which failures may be planned. -/
  mayFail : String → Prop
  /-- The places of the tasks that may end before they are done. -/
  mayEnd : Nat → Prop

/-- The task with nothing left to do. -/
def Task.gone (task : Task) : Task := { task with role := .finished }

theorem Task.not_creates (task : Task) {id : JobId} {target : Target} {payload : Json} :
    ¬ task.MayCall (.store (.create id target payload)) := by
  intro may
  rcases task with ⟨actor, startsAt, loop | ⟨agent, assignment⟩ | loop | loop | _⟩
  · rcases may with never | never | ⟨listening, assignment, stage, never⟩ <;> cases never
  all_goals cases may

namespace Rules

/-- What may happen next. -/
inductive Change (rules : Rules) : Fleet → Fleet → Prop
  /-- The first of the tasks that can go on takes a step. -/
  | step {fleet next : Fleet} (stepped : fleet.step = .done next) : Change rules fleet next
  /-- The first of the tasks that can go on breaks down in its step. -/
  | crash {fleet : Fleet} {place : Nat} {rest : List Nat} {task : Task}
      (ready : fleet.ready = place :: rest) (there : fleet.tasks[place]? = some task)
      (breaks : ∀ progress, (task.step fleet.builds (fleet.interrupted.contains task.actor)
        task.actor fleet.services).1 ≠ .done progress) (may : rules.mayEnd place) :
      Change rules fleet (Fleet.wakeSubscribers { fleet with
        services := (task.step fleet.builds (fleet.interrupted.contains task.actor)
          task.actor fleet.services).2
        tasks := fleet.tasks.set place task.gone
        ready := rest })
  /-- A task falls silent. -/
  | vanish {fleet : Fleet} {place : Nat} {task : Task}
      (there : fleet.tasks[place]? = some task) (may : rules.mayEnd place) :
      Change rules fleet { fleet with tasks := fleet.tasks.set place task.gone }
  /-- Those that can go on do so in any order. -/
  | reorder (fleet : Fleet) {ready : List Nat} (same : ready.Perm fleet.ready) :
      Change rules fleet { fleet with ready }
  /-- When nobody can go on the clock jumps, and no further than the next timer. -/
  | jump {fleet next : Fleet} {elapsed : Nat} (idle : fleet.ready = [])
      (forward : fleet.services.elapsed ≤ elapsed)
      (punctual : ∀ timer, fleet.nextTimer? = some timer → elapsed ≤ timer)
      (jumped : fleet.jump? elapsed = some next) : Change rules fleet next
  /-- Somebody acts from outside. A job that he makes gets an identifier of its own. -/
  | act {α : Type} (fleet : Fleet) {action : Action α} (may : action.Within (rules.mayAsk fleet))
      (apart : ((action .main fleet.services).2.store.jobs.map (·.id)).Nodup) :
      Change rules fleet (fleet.act action).2
  | begin (fleet : Fleet) {task : Task} (may : rules.mayBegin fleet task) :
      Change rules fleet (fleet.begin task)
  /-- Somebody is shut down. -/
  | interrupt (fleet : Fleet) (actor : Actor) : Change rules fleet (fleet.interrupt actor)
  | plan (fleet : Fleet) {plan : FailurePlan} (may : rules.mayFail plan.call) :
      Change rules fleet { fleet with services := fleet.services.plan plan }

/-- What a fleet comes to from a start with nothing. -/
inductive Reached (rules : Rules) : Fleet → Prop
  | start (settings : StoreSettings) (origin : Instant) (builds : BuildScripts) :
      Reached rules ⟨.start settings origin, origin, builds, [], [], []⟩
  | change {fleet next : Fleet} (reached : Reached rules fleet)
      (change : rules.Change fleet next) : Reached rules next

variable {rules : Rules} {fleet next : Fleet} {place : Nat} {task : Task}

theorem Reached.changes (reached : rules.Reached fleet)
    (changes : ReflTransGen rules.Change fleet next) : rules.Reached next := by
  induction changes with
  | refl => exact reached
  | tail _ change induction => exact .change induction change

/-! ## What happens to the services -/

/-- What the services may come to within a moment, done by the task at one of these
places or from outside. -/
inductive Moment (rules : Rules) (fleet : Fleet) (acts : Nat → Prop) : Services → Prop
  | nothing : Moment rules fleet acts fleet.services
  | task {place : Nat} {task : Task} {after : Services} (among : acts place)
      (there : fleet.tasks[place]? = some task)
      (deeds : ReflTransGen (Services.Deed task.MayCall task.actor) fleet.services after) :
      Moment rules fleet acts { after with awakened := [] }
  | asked {after : Services}
      (deeds : ReflTransGen (Services.Deed (rules.mayAsk fleet) .main) fleet.services after)
      (apart : (after.store.jobs.map (·.id)).Nodup) :
      Moment rules fleet acts { after with awakened := [] }
  | planned {plan : FailurePlan} (may : rules.mayFail plan.call) :
      Moment rules fleet acts (fleet.services.plan plan)

/-- A change happens within a moment, or the clock jumps and nothing else changes. -/
inductive Effect (rules : Rules) (fleet : Fleet) (services : Services) : Prop
  | moment (moment : rules.Moment fleet (fun _ => True) services)
  | jump {now : Instant} {elapsed : Nat} (forward : fleet.services.elapsed ≤ elapsed)
      (reads : fleet.origin.addMilliseconds? elapsed = some now)
      (same : services = { fleet.services with now, elapsed })

theorem Change.effect (change : rules.Change fleet next) : rules.Effect fleet next.services := by
  cases change with
  | step stepped =>
      cases Fleet.step_eq_done stepped with
      | idle _ same => exact same ▸ .moment .nothing
      | vacant _ _ same => exact same ▸ .moment .nothing
      | @taken place rest task progress after ready there steps wakes =>
          have deeds := task.step_within fleet.builds (fleet.interrupted.contains task.actor)
            task.actor fleet.services
          rcases wakes with ⟨latest, rfl, _⟩
          rw [steps] at deeds
          exact .moment (.task trivial there deeds)
  | @crash _ place rest task ready there breaks may =>
      rcases Fleet.wakeSubscribers_wakes _ with ⟨latest, same, _⟩
      rw [same]
      exact .moment (.task trivial there (task.step_within _ _ _ _))
  | vanish | reorder => exact .moment .nothing
  | jump idle forward punctual jumped =>
      rcases Fleet.jump?_eq_some jumped with ⟨now, reads, ⟨latest, rfl, _⟩, _⟩
      exact .jump forward reads rfl
  | @act _ _ action may apart =>
      rcases fleet.act_wakes action with ⟨latest, same, _⟩
      rw [same]
      exact .moment (.asked (may .main fleet.services) apart)
  | begin _ may =>
      rcases (fleet.begin_wakes _).1 with ⟨latest, same, _⟩
      rw [same]
      exact .moment .nothing
  | interrupt _ actor =>
      rcases fleet.interrupt_wakes actor with ⟨latest, same, _⟩
      rw [same]
      exact .moment .nothing
  | plan _ may => exact .moment (.planned may)

/-! ## What stays -/

/-- What such calls keep, a moment keeps. -/
theorem Moment.keeps {acts : Nat → Prop} {services : Services} (May : Call → Prop)
    (Holds : Services → Prop) (moment : rules.Moment fleet acts services)
    (asked : ∀ call, rules.mayAsk fleet call → May call)
    (called : ∀ place task, acts place → fleet.tasks[place]? = some task →
      ∀ call, task.MayCall call → May call)
    (deed : ∀ actor before after, Services.Deed May actor before after → Holds before →
      Holds after)
    (asleep : ∀ services, Holds services → Holds { services with awakened := [] })
    (planned : ∀ services plan, rules.mayFail plan.call → Holds services →
      Holds (services.plan plan))
    (holds : Holds fleet.services) : Holds services := by
  have deeds : ∀ {actor after} {Makes : Call → Prop}, (∀ call, Makes call → May call) →
      ReflTransGen (Services.Deed Makes actor) fleet.services after → Holds after := by
    intro actor after Makes wider deeds
    induction deeds with
    | refl => exact holds
    | tail _ last before => exact deed _ _ _ (last.mono wider) before
  cases moment with
  | nothing => exact holds
  | task among there done => exact asleep _ (deeds (called _ _ among there) done)
  | asked done => exact asleep _ (deeds asked done)
  | planned may => exact planned _ _ may holds

theorem Moment.sameMoment {acts : Nat → Prop} {services : Services}
    (moment : rules.Moment fleet acts services) : services.now = fleet.services.now ∧
      services.elapsed = fleet.services.elapsed :=
  moment.keeps (fun _ => True)
    (fun services => services.now = fleet.services.now ∧ services.elapsed = fleet.services.elapsed)
    (fun _ _ => trivial) (fun _ _ _ _ _ _ => trivial)
    (fun _ _ _ deed holds => ⟨deed.sameMoment.now.trans holds.1,
      deed.sameMoment.elapsed.trans holds.2⟩)
    (fun _ holds => holds) (fun _ _ _ holds => holds) ⟨rfl, rfl⟩

/-- A law of a job that the calls of a moment keep. -/
theorem Moment.every {acts : Nat → Prop} {services : Services} {May : JobCall → Prop}
    {id : JobId} {Holds : Job → Prop} (moment : rules.Moment fleet acts services)
    (law : Job.Law May fleet.services.now Holds)
    (asked : ∀ call, rules.mayAsk fleet (.store (call.on id)) → May call)
    (called : ∀ place task, acts place → fleet.tasks[place]? = some task →
      ∀ call, task.MayCall (.store (call.on id)) → May call)
    (holds : fleet.services.Every id Holds) : services.Every id Holds := by
  refine (moment.keeps (fun call => ∀ jobCall, call = .store (jobCall.on id) → May jobCall)
    (fun services => services.now = fleet.services.now ∧ services.Every id Holds)
    ?_ ?_ ?_ ?_ ?_ ?_).2
  · rintro _ may call rfl
    exact asked call may
  · rintro place task among there _ may call rfl
    exact called place task among there call may
  · rintro actor before after deed ⟨now, every⟩
    refine ⟨deed.sameMoment.now.trans now, deed.every ?_ every⟩
    exact ⟨now ▸ law.made, fun limit job call may holds =>
      now ▸ law.kept limit job call (may call rfl) holds⟩
  · exact fun _ holds => holds
  · exact fun _ _ _ holds => holds
  · exact ⟨rfl, holds⟩

theorem Change.until {Ends Never : Happening → Prop} {id : JobId} {Holds : Job → Prop}
    {journal : List Entry} (change : rules.Change fleet next)
    (answered : ∀ happening, Never happening → happening.Answers id)
    (kept : ∀ limit job call, Holds job →
      let performed := job.perform limit fleet.services.now call
      let happening := Happening.called (.store (call.on id)) (call.report id performed.1)
      Ends happening ∨ ¬ Never happening ∧ Holds performed.2)
    (holding : fleet.services.Until Ends Never id Holds journal) :
    next.services.Until Ends Never id Holds journal := by
  cases change.effect with
  | moment moment =>
      refine (moment.keeps (fun _ => True) (fun services => services.now = fleet.services.now ∧
        services.Until Ends Never id Holds journal) (fun _ _ => trivial)
        (fun _ _ _ _ _ _ => trivial) ?_ (fun _ holding => holding) (fun _ _ _ holding => holding)
        ⟨rfl, holding⟩).2
      rintro actor before after deed ⟨now, holding⟩
      exact ⟨deed.sameMoment.now.trans now, deed.until answered (now ▸ kept) holding⟩
  | jump forward reads same =>
      rw [same]
      exact holding

/-- A law of jobs holds of every job. -/
theorem Reached.every {Holds : Job → Prop} (reached : rules.Reached fleet)
    (law : ∀ now, Job.Law (fun _ => True) now Holds) (id : JobId) :
    fleet.services.Every id Holds := by
  induction reached with
  | start => exact fun _ never => nomatch never
  | change _ change every =>
      cases change.effect with
      | moment moment =>
          exact moment.every (law _) (fun _ _ => trivial) (fun _ _ _ _ _ _ => trivial) every
      | jump forward reads same =>
          rw [same]
          exact every

theorem Change.elapsed_le (change : rules.Change fleet next) :
    fleet.services.elapsed ≤ next.services.elapsed := by
  cases change.effect with
  | moment moment => exact Nat.le_of_eq moment.sameMoment.2.symm
  | jump forward reads same =>
      rw [same]
      exact forward

/-- The origin and the builds stay, and whoever is shut down stays so. -/
theorem Change.follows (change : rules.Change fleet next) : Fleet.Follows fleet next := by
  cases change with
  | step stepped => exact (Fleet.Move.step stepped).follows
  | crash ready there breaks may =>
      exact .wakes (Fleet.wakeSubscribers_wakes _) ⟨rfl, rfl, List.Subset.refl _⟩
  | vanish | reorder | plan => exact ⟨rfl, rfl, List.Subset.refl _⟩
  | jump idle forward punctual jumped =>
      exact (Fleet.Move.jump idle forward punctual jumped).follows
  | act => exact .wakes (fleet.act_wakes _) ⟨rfl, rfl, List.Subset.refl _⟩
  | begin => exact .wakes (fleet.begin_wakes _).1 ⟨rfl, rfl, List.Subset.refl _⟩
  | interrupt _ actor => exact (Fleet.Move.interrupt fleet actor).follows

/-! ## What happens to a task -/

/-- A task takes its own step, or it waits for the others or for the clock, or it is gone. -/
inductive Fate (rules : Rules) (fleet next : Fleet) (place : Nat) (task : Task) : Prop
  | stepped {progress : Progress Task} {after : Services}
      (first : fleet.ready.head? = some place)
      (steps : task.step fleet.builds (fleet.interrupted.contains task.actor) task.actor
        fleet.services = (.done progress, after))
      (services : next.services = { after with awakened := [] })
      (left : next.tasks[place]? = some progress.state)
      (ready : ∀ state, progress = .goesOn state → place ∈ next.ready)
  | waited (left : next.tasks[place]? = some task)
      (ready : place ∈ fleet.ready → place ∈ next.ready)
      (moment : rules.Moment fleet (· ≠ place) next.services)
  | jumped {now : Instant} {elapsed : Nat} (left : next.tasks[place]? = some task)
      (idle : fleet.ready = []) (forward : fleet.services.elapsed ≤ elapsed)
      (reads : fleet.origin.addMilliseconds? elapsed = some now)
      (services : next.services = { fleet.services with now, elapsed })
      (punctual : ∀ timer, task.wakesAt fleet.services.elapsed = some timer →
        elapsed ≤ timer ∧ (timer ≤ elapsed → place ∈ next.ready))
  | gone (may : rules.mayEnd place) (left : next.tasks[place]? = some task.gone)

private theorem mem_rest {ready rest : List Nat} {first : Nat} (starts : ready = first :: rest)
    (other : first ≠ place) (member : place ∈ ready) : place ∈ rest := by
  rw [starts] at member
  exact (List.mem_cons.mp member).resolve_left other.symm

theorem Change.fate (change : rules.Change fleet next)
    (there : fleet.tasks[place]? = some task) : rules.Fate fleet next place task := by
  have short := (List.getElem?_eq_some_iff.mp there).1
  cases change with
  | step stepped =>
      cases Fleet.step_eq_done stepped with
      | idle _ same =>
          subst same
          exact .waited there id .nothing
      | @vacant first rest ready vacant same =>
          subst same
          refine .waited there (mem_rest ready ?_) .nothing
          rintro rfl
          cases vacant.symm.trans there
      | @taken first rest other progress after ready found steps wakes =>
          have deeds := other.step_within fleet.builds (fleet.interrupted.contains other.actor)
            other.actor fleet.services
          rw [steps] at deeds
          rcases wakes with ⟨latest, rfl, more⟩
          -- The step is this task's own, or another one takes it.
          by_cases own : first = place
          · subst own
            cases found.symm.trans there
            refine .stepped (by rw [ready]; rfl) steps rfl (List.getElem?_set_self short) ?_
            rintro state rfl
            exact more (show first ∈ fleet.ready from ready ▸ List.mem_cons_self)
          · refine .waited ((List.getElem?_set_ne own).trans there) (fun member => more ?_)
              (.task own found deeds)
            cases progress with
            | goesOn => exact member
            | waits =>
                show place ∈ fleet.ready.tail
                have later := mem_rest ready own member
                rw [ready]
                exact later
  | @crash _ first rest other ready found breaks may =>
      rcases Fleet.wakeSubscribers_wakes _ with ⟨latest, same, more⟩
      rw [same]
      by_cases own : first = place
      · subst own
        cases found.symm.trans there
        exact .gone may (List.getElem?_set_self short)
      · exact .waited ((List.getElem?_set_ne own).trans there)
          (fun member => more (mem_rest ready own member))
          (.task own found (other.step_within _ _ _ _))
  | @vanish _ other _ found may =>
      by_cases own : other = place
      · subst own
        cases found.symm.trans there
        exact .gone may (List.getElem?_set_self short)
      · exact .waited ((List.getElem?_set_ne own).trans there) id .nothing
  | reorder _ same => exact .waited there same.mem_iff.mpr .nothing
  | jump idle forward punctual jumped =>
      rcases Fleet.jump?_eq_some jumped with ⟨now, reads, ⟨latest, rfl, _⟩, woken⟩
      refine .jumped there idle forward reads rfl fun timer due =>
        ⟨?_, woken place task timer there due⟩
      rcases Fleet.nextTimer?_le there due with ⟨first, next, least⟩
      exact Nat.le_trans (punctual first next) least
  | @act _ _ action may apart =>
      rcases fleet.act_wakes action with ⟨latest, same, more⟩
      rw [same]
      exact .waited there (fun member => more member) (.asked (may .main fleet.services) apart)
  | @begin _ newcomer may =>
      rcases (fleet.begin_wakes newcomer).1 with ⟨latest, same, more⟩
      rw [same]
      exact .waited ((List.getElem?_append_left short).trans there) (fun member => more member)
        .nothing
  | interrupt _ actor =>
      rcases fleet.interrupt_wakes actor with ⟨latest, same, more⟩
      rw [same]
      exact .waited there (fun member => more member) .nothing
  | plan _ may => exact .waited there id (.planned may)

theorem Change.task_before (change : rules.Change fleet next)
    (there : next.tasks[place]? = some task) : (∃ before, fleet.tasks[place]? = some before) ∨
      fleet.tasks.length = place ∧ rules.mayBegin fleet task := by
  have inside : fleet.tasks.length = next.tasks.length →
      ∃ before, fleet.tasks[place]? = some before := by
    intro same
    have short := (List.getElem?_eq_some_iff.mp there).1
    rw [← same] at short
    exact ⟨_, List.getElem?_eq_getElem short⟩
  cases change with
  | step stepped =>
      cases Fleet.step_eq_done stepped with
      | idle _ same => exact .inl (inside (by rw [same]))
      | vacant _ _ same => exact .inl (inside (by rw [same]))
      | taken _ _ _ wakes =>
          rcases wakes with ⟨latest, rfl, _⟩
          exact .inl (inside List.length_set.symm)
  | crash _ _ _ may =>
      rcases Fleet.wakeSubscribers_wakes _ with ⟨latest, same, _⟩
      exact .inl (inside (by rw [same]; exact List.length_set.symm))
  | vanish => exact .inl (inside List.length_set.symm)
  | reorder | plan => exact .inl (inside rfl)
  | jump _ _ _ jumped =>
      rcases Fleet.jump?_eq_some jumped with ⟨now, _, ⟨latest, rfl, _⟩, _⟩
      exact .inl (inside rfl)
  | act _ may apart =>
      rcases fleet.act_wakes _ with ⟨latest, same, _⟩
      exact .inl (inside (by rw [same]))
  | @begin _ newcomer may =>
      rcases (fleet.begin_wakes newcomer).1 with ⟨latest, same, _⟩
      rw [same] at there
      rcases Nat.lt_or_ge place fleet.tasks.length with short | long
      · exact .inl ⟨_, List.getElem?_eq_getElem short⟩
      · have last : fleet.tasks.length = place := by
          have bound := (List.getElem?_eq_some_iff.mp there).1
          rw [List.length_append, List.length_singleton] at bound
          omega
        subst last
        rw [List.getElem?_append_right (Nat.le_refl _)] at there
        cases List.mem_singleton.mp (List.mem_of_getElem? there)
        exact .inr ⟨rfl, may⟩
  | interrupt _ actor =>
      rcases fleet.interrupt_wakes actor with ⟨latest, same, _⟩
      exact .inl (inside (by rw [same]))

/-- An agent was there before, or its task begins now. -/
theorem Change.agent_before {actor : Actor} {agent : Agent} (change : rules.Change fleet next)
    (found : next.agent? place = some (actor, agent)) :
    fleet.agent? place = some (actor, agent) ∨ fleet.tasks.length = place ∧
      ∃ task, rules.mayBegin fleet task ∧ task.agent? = some agent := by
  rcases Fleet.agent?_eq_some.mp found with ⟨later, there, acts, its⟩
  rcases change.task_before there with ⟨before, was⟩ | ⟨last, may⟩
  · left
    have same : ∀ {other : Task}, next.tasks[place]? = some other → other = later := fun left =>
      Option.some.inj (left.symm.trans there)
    cases change.fate was with
    | @stepped progress after first steps services left ready =>
        have continues : before.Continues progress.state := (before.step_ensures fleet.builds
          (fleet.interrupted.contains before.actor) before.actor fleet.services progress trivial
          (by rw [steps])).2
        rw [same left] at continues
        exact Fleet.agent?_eq_some.mpr ⟨before, was, continues.actor.symm.trans acts,
          continues.agent agent its⟩
    | waited left | jumped left =>
        cases same left
        exact Fleet.agent?_eq_some.mpr ⟨_, was, acts, its⟩
    | gone _ left =>
        cases same left
        cases its
  · exact .inr ⟨last, later, may, its⟩

/-- A job does not go away. -/
theorem Change.has {id : JobId} {Holds Other : Job → Prop} (change : rules.Change fleet next)
    (has : fleet.services.Has id Other) (every : next.services.Every id Holds) :
    next.services.Has id Holds := by
  rcases has with ⟨job, found, _⟩
  have there : fleet.services.Until (fun _ => False) (fun _ => False) id (fun _ => True)
      fleet.services.journal := .start ⟨job, found, trivial⟩
  rcases change.until (fun _ never => False.elim never)
    (fun _ _ _ _ => .inr ⟨not_false, trivial⟩) there with
      ⟨_, _, ⟨_, _, never⟩ | ⟨_, later, foundAfter, _⟩⟩
  · cases never
  · exact ⟨later, foundAfter, every later foundAfter⟩

/-! ## The clock and the plans -/

/-- The clock reads what has elapsed since the start, failures are planned by the rules,
and the jobs have identifiers of their own. -/
structure Sound (rules : Rules) (fleet : Fleet) : Prop where
  clock : fleet.origin.addMilliseconds? fleet.services.elapsed = some fleet.services.now
  planned : fleet.services.Planned rules.mayFail
  distinct : (fleet.services.store.jobs.map (·.id)).Nodup

theorem map_id_of_deeds {services after : Services}
    (deeds : ReflTransGen (Services.Deed task.MayCall task.actor) services after) :
    after.store.jobs.map (·.id) = services.store.jobs.map (·.id) := by
  induction deeds with
  | refl => rfl
  | tail _ deed before => exact (deed.map_id fun _ _ _ => task.not_creates).trans before

theorem map_id_of_step (stepped : fleet.step = .done next) :
    next.services.store.jobs.map (·.id) = fleet.services.store.jobs.map (·.id) := by
  cases Fleet.step_eq_done stepped with
  | idle _ same => rw [same]
  | vacant _ _ same => rw [same]
  | @taken place rest task progress after ready there steps wakes =>
      have deeds := task.step_within fleet.builds (fleet.interrupted.contains task.actor)
        task.actor fleet.services
      rcases wakes with ⟨latest, rfl, _⟩
      rw [steps] at deeds
      have ids : after.store.jobs.map (·.id) = _ := map_id_of_deeds deeds
      exact ids

theorem Moment.distinct {acts : Nat → Prop} {services : Services}
    (moment : rules.Moment fleet acts services)
    (distinct : (fleet.services.store.jobs.map (·.id)).Nodup) :
    (services.store.jobs.map (·.id)).Nodup := by
  cases moment with
  | nothing | planned => exact distinct
  | task among there deeds => exact map_id_of_deeds deeds ▸ distinct
  | asked deeds apart => exact apart

theorem Sound.change (sound : rules.Sound fleet) (change : rules.Change fleet next) :
    rules.Sound next := by
  have origin := change.follows.origin
  cases change.effect with
  | moment moment =>
      rcases moment.sameMoment with ⟨now, elapsed⟩
      refine ⟨by rw [origin, elapsed, now, sound.clock], ?_, ?_⟩
      · refine moment.keeps (fun _ => True) (fun services => services.Planned rules.mayFail)
          (fun _ _ => trivial) (fun _ _ _ _ _ _ => trivial)
          (fun _ _ _ deed planned => deed.planned planned) (fun _ planned => planned) ?_
          sound.planned
        intro services plan may planned other member
        rcases List.mem_append.mp member with earlier | newest
        · exact planned other earlier
        · cases List.mem_singleton.mp newest
          exact may
      · exact moment.distinct sound.distinct
  | jump forward reads same =>
      refine ⟨?_, ?_, ?_⟩ <;> rw [same]
      · rw [origin]
        exact reads
      · exact sound.planned
      · exact sound.distinct

theorem Reached.sound (reached : rules.Reached fleet) : rules.Sound fleet := by
  induction reached with
  | start settings origin builds =>
      exact ⟨origin.addMilliseconds?_zero, (fun _ never => nomatch never), List.nodup_nil⟩
  | change _ change sound => exact sound.change change

theorem Reached.now_le (reached : rules.Reached fleet) (change : rules.Change fleet next) :
    fleet.services.now ≤ next.services.now := by
  have later := (reached.change change).sound.clock
  rw [change.follows.origin] at later
  exact Instant.reading_le reached.sound.clock later change.elapsed_le

end Rules

end BuildFleet
