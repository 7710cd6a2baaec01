import BuildFleet.Proofs.Fleet.Run

/-!
# Timers that are still to come

Whoever cannot go on waits for nothing, or for a timer that is still to come. So
the clock of a fleet never jumps back, and the program's own way to run a fleet is
one of its runs.
-/

namespace BuildFleet

/-- What waits has no timer, or one that is still to come. -/
def Progress.Timely {α : Type} (wakesAt : α → Option Nat) (elapsed : Nat) : Progress α → Prop
  | .goesOn _ => True
  | .waits state => ∀ timer, wakesAt state = some timer → elapsed < timer

variable {builds : BuildScripts} {interrupted : Bool} {actor : Actor} {services after : Services}

private theorem timely_goesOn {α β : Type} {wakesAt : α → Option Nat} {elapsed : Nat}
    {action : Action β} {state : β → α} {progress : Progress α}
    (done : (action >>= fun value => Pure.pure (Progress.goesOn (state value))) actor services =
      (.done progress, after)) : progress.Timely wakesAt elapsed := by
  rcases Action.bind_eq_done done with ⟨value, middle, _, ends⟩
  cases ends
  trivial

private theorem timely_map {α β : Type} {wakesAt : α → Option Nat} {other : β → Option Nat}
    {elapsed : Nat} {progress : Progress α} {transform : α → β}
    (timely : progress.Timely wakesAt elapsed)
    (same : ∀ state, other (transform state) = wakesAt state) :
    (progress.map transform).Timely other elapsed := by
  cases progress with
  | goesOn state => trivial
  | waits state => exact fun timer due => timely timer ((same state).symm.trans due)

/-! ## Agents -/

theorem Assignment.step_timely {agent : Agent} {assignment : Assignment}
    {progress : Progress Assignment}
    (done : assignment.step builds agent interrupted actor services = (.done progress, after)) :
    progress.Timely Assignment.wakesAt services.elapsed := by
  unfold step at done
  rcases Action.bind_eq_done done with ⟨elapsed, middle, reads, rest⟩
  cases reads
  cases work : assignment.work with
  | claiming | beginning | spawning | extending | noting | killing | reporting =>
      rw [work] at rest
      exact timely_goesOn rest
  | openingLogs handle =>
      rw [work] at rest
      rcases Action.bind_eq_done rest with ⟨_, noted, _, opened⟩
      split at opened
      · exact timely_goesOn opened
      · cases opened
        trivial
  | watching handle =>
      rw [work] at rest
      dsimp only at rest
      cases noticed : assignment.signal? interrupted services.elapsed with
      | none =>
          rw [noticed] at rest
          cases rest
          intro timer due
          rw [wakesAt, work] at due
          cases due
          exact lt_of_no_signal noticed
      | some signalled =>
          rw [noticed] at rest
          rcases signalled with ⟨_ | outcome | _ | _, heartbeats⟩
          · cases rest
            trivial
          · exact timely_goesOn rest
          · cases rest
            trivial
          · cases rest
            trivial
  | pausing result delay backoff =>
      rw [work] at rest
      dsimp only at rest
      split at rest
      · cases rest
        trivial
      · split at rest
        · cases rest
          trivial
        · rename_i early
          cases rest
          intro timer due
          rw [wakesAt, work] at due
          cases due
          exact Nat.lt_of_not_le early
  | ended outcome =>
      rw [work] at rest
      cases rest
      intro timer due
      rw [wakesAt, work] at due
      cases due

namespace AgentLoop

variable {loop : AgentLoop} {progress : Progress AgentLoop}

theorem stop_timely {listening : Option Listening} {elapsed : Nat}
    (done : loop.stop listening actor services = (.done progress, after)) :
    progress.Timely wakesAt elapsed := by
  have stops : ∀ {services : Services}, (do
      Services.note .stopped
      return .waits { loop with stage := .stopped } : Action (Progress AgentLoop)) actor services =
        (.done progress, after) → progress.Timely wakesAt elapsed := by
    intro services done
    rcases Action.bind_eq_done done with ⟨_, noted, _, ends⟩
    cases ends
    exact fun timer due => nomatch due
  unfold stop at done
  split at done
  · rcases Action.bind_eq_done done with ⟨_, left, _, rest⟩
    exact stops rest
  · exact stops done

theorem receive_timely {listening : Listening} {delivery : Delivery} {elapsed : Nat}
    (done : loop.receive listening elapsed delivery actor services = (.done progress, after)) :
    progress.Timely wakesAt elapsed := by
  unfold receive at done
  rcases Action.bind_eq_done done with ⟨_, noted, _, rest⟩
  dsimp only at rest
  split at rest
  · cases rest
    trivial
  · cases rest
    trivial
  · exact timely_goesOn rest

theorem listen_timely {listening : Listening} {elapsed : Nat}
    (early : listening.idle.isDue elapsed = false)
    (done : loop.listen listening elapsed actor services = (.done progress, after)) :
    progress.Timely wakesAt elapsed := by
  rw [listen_eq] at done
  rcases Action.bind_eq_done done with ⟨planned, middle, _, rest⟩
  cases planned with
  | some delivery => exact receive_timely rest
  | none =>
      rcases Action.bind_eq_done rest with ⟨polled, left, _, ends⟩
      cases polled with
      | some id => exact receive_timely ends
      | none =>
          cases ends
          intro timer due
          cases due
          exact Nat.lt_of_not_le (of_decide_eq_false early)

theorem step_timely (done : loop.step builds interrupted actor services = (.done progress, after)) :
    progress.Timely wakesAt services.elapsed := by
  rcases loop with ⟨agent, backoff, stage⟩
  unfold step at done
  rcases Action.bind_eq_done done with ⟨elapsed, middle, reads, rest⟩
  cases reads
  cases stage with
  | starting => exact timely_goesOn rest
  | subscribing =>
      dsimp only at rest
      split at rest
      · exact stop_timely rest
      · rcases Action.bind_eq_done rest with ⟨answer, subscribed, _, goesOn⟩
        cases answer with
        | error failure =>
            cases goesOn
            trivial
        | ok subscription =>
            dsimp only at goesOn
            split at goesOn
            · exact timely_goesOn goesOn
            · cases goesOn
              trivial
  | listening listening =>
      dsimp only at rest
      split at rest
      · exact stop_timely rest
      · split at rest
        · cases rest
          trivial
        · rename_i early
          exact listen_timely (Bool.eq_false_iff.mpr early) rest
  | noting listening => exact timely_goesOn rest
  | working listening assignment =>
      cases work : assignment.work with
      | ended outcome =>
          dsimp only at rest
          rw [work] at rest
          cases rest
          trivial
      | _ =>
          dsimp only at rest
          rw [work] at rest
          rcases Action.bind_eq_done rest with ⟨worked, left, steps, ends⟩
          cases ends
          exact timely_map (Assignment.step_timely steps) fun _ => rfl
  | resting listening resumesAt =>
      dsimp only at rest
      split at rest
      · exact stop_timely rest
      · split at rest
        · cases rest
          trivial
        · rename_i early
          cases rest
          intro timer due
          cases due
          exact Nat.lt_of_not_le early
  | stopped =>
      cases rest
      exact fun timer due => nomatch due

end AgentLoop

/-! ## Tasks -/

theorem MonitorLoop.step_timely {loop : MonitorLoop} {elapsed : Nat}
    {progress : Progress MonitorLoop}
    (done : loop.step elapsed actor services = (.done progress, after)) :
    progress.Timely (fun loop => some loop.resumesAt) elapsed := by
  unfold step at done
  split at done
  · rename_i early
    cases done
    intro timer due
    cases due
    exact early
  · exact timely_goesOn done

theorem RelayLoop.step_timely {loop : RelayLoop} {elapsed : Nat} {progress : Progress RelayLoop}
    (done : loop.step elapsed actor services = (.done progress, after)) :
    progress.Timely (fun loop => some loop.resumesAt) elapsed := by
  unfold step at done
  split at done
  · rename_i early
    cases done
    intro timer due
    cases due
    exact early
  · exact timely_goesOn done

namespace Task

variable {task : Task} {progress : Progress Task}

/-- Before a task begins its timer is its beginning. -/
theorem wakesAt_unbegun {elapsed : Nat} (unbegun : elapsed < task.startsAt) :
    task.wakesAt elapsed = some task.startsAt := if_pos unbegun

/-- When a task has begun its timer does not depend on the clock. -/
theorem wakesAt_begun {elapsed : Nat} (begun : task.startsAt ≤ elapsed) :
    task.wakesAt elapsed = task.wakesAt task.startsAt := by
  unfold wakesAt
  rw [if_neg (Nat.not_lt.mpr begun), if_neg (Nat.lt_irrefl _)]

/-- The timer of a task that works on a job is that of the work. -/
theorem wakesAt_of_work {agent : Agent} {assignment : Assignment} {elapsed : Nat}
    (works : task.work? = some (agent, assignment)) (begun : task.startsAt ≤ elapsed) :
    task.wakesAt elapsed = assignment.wakesAt := by
  rcases task with ⟨actor, startsAt, ⟨other, backoff, stage⟩ | ⟨other, before⟩ | loop | loop | _⟩
  · rcases Option.map_eq_some_iff.mp works with ⟨before, working, same⟩
    cases same
    cases stage <;> cases working
    exact if_neg (Nat.not_lt.mpr begun)
  · cases works
    exact if_neg (Nat.not_lt.mpr begun)
  · cases works
  · cases works
  · cases works

theorem finish_timely {happening : Happening} {elapsed : Nat} (begun : task.startsAt ≤ elapsed)
    (done : task.finish happening actor services = (.done progress, after)) :
    progress.Timely (wakesAt elapsed) elapsed := by
  rcases Action.bind_eq_done done with ⟨_, noted, _, ends⟩
  cases ends
  intro timer due
  have never : wakesAt elapsed { task with role := .finished } = none :=
    if_neg (Nat.not_lt.mpr begun)
  rw [never] at due
  cases due

theorem step_timely (done : task.step builds interrupted actor services = (.done progress, after)) :
    progress.Timely (wakesAt services.elapsed) services.elapsed := by
  unfold step at done
  rcases Action.bind_eq_done done with ⟨elapsed, middle, reads, rest⟩
  cases reads
  split at rest
  · rename_i unbegun
    cases rest
    intro timer due
    rw [wakesAt_unbegun unbegun] at due
    cases due
    exact unbegun
  · rename_i begun
    unfold advance at rest
    rcases Action.bind_eq_done rest with ⟨elapsed, middle, reads, advances⟩
    cases reads
    rcases task with ⟨owner, startsAt, loop | ⟨agent, assignment⟩ | loop | loop | _⟩
    · rcases Action.bind_eq_done advances with ⟨worked, left, steps, ends⟩
      cases ends
      exact timely_map (AgentLoop.step_timely steps) fun _ => if_neg begun
    · cases work : assignment.work with
      | ended outcome =>
          dsimp only at advances
          rw [work] at advances
          exact finish_timely (Nat.le_of_not_lt begun) advances
      | _ =>
          dsimp only at advances
          rw [work] at advances
          rcases Action.bind_eq_done advances with ⟨worked, left, steps, ends⟩
          cases ends
          exact timely_map (Assignment.step_timely steps) fun _ => if_neg begun
    · dsimp only at advances
      split at advances
      · exact finish_timely (Nat.le_of_not_lt begun) advances
      · rcases Action.bind_eq_done advances with ⟨worked, left, steps, ends⟩
        cases ends
        exact timely_map (MonitorLoop.step_timely steps) fun _ => if_neg begun
    · dsimp only at advances
      split at advances
      · exact finish_timely (Nat.le_of_not_lt begun) advances
      · rcases Action.bind_eq_done advances with ⟨worked, left, steps, ends⟩
        cases ends
        exact timely_map (RelayLoop.step_timely steps) fun _ => if_neg begun
    · cases advances
      intro timer due
      have never : wakesAt services.elapsed ⟨owner, startsAt, .finished⟩ = none := if_neg begun
      rw [never] at due
      cases due

end Task

/-! ## The clock of a fleet -/

namespace Fleet

open Relation (ReflTransGen)

variable {fleet next : Fleet}

/-- Whoever is not ready waits for nothing, or for a timer that is still to come. -/
def Punctual (fleet : Fleet) : Prop :=
  ∀ place task, fleet.tasks[place]? = some task → place ∈ fleet.ready ∨
    ∀ timer, task.wakesAt fleet.services.elapsed = some timer → fleet.services.elapsed < timer

theorem Wakes.punctual (wakes : Wakes fleet next) (punctual : fleet.Punctual) : next.Punctual := by
  rcases wakes with ⟨ready, rfl, more⟩
  exact fun place task there => (punctual place task there).imp_left fun member => more member

theorem nextTimer?_le {place timer : Nat} {task : Task} (there : fleet.tasks[place]? = some task)
    (wakes : task.wakesAt fleet.services.elapsed = some timer) :
    ∃ next, fleet.nextTimer? = some next ∧ next ≤ timer := by
  have member : timer ∈ fleet.tasks.filterMap (Task.wakesAt fleet.services.elapsed) :=
    List.mem_filterMap.mpr ⟨task, List.mem_of_getElem? there, wakes⟩
  cases due : fleet.nextTimer? with
  | none =>
      rw [List.min?_eq_none_iff.mp due] at member
      cases member
  | some next => exact ⟨next, rfl, (List.min?_eq_some_iff.mp due).2 timer member⟩

theorem Stepped.punctual (stepped : Stepped fleet next) (punctual : fleet.Punctual) :
    next.Punctual := by
  cases stepped with
  | idle _ same => exact same ▸ punctual
  | @vacant place rest ready vacant same =>
      subst same
      intro other task there
      refine (punctual other task there).imp_left fun member => ?_
      rw [ready] at member
      rcases List.mem_cons.mp member with rfl | later
      · cases vacant.symm.trans there
      · exact later
  | @taken place rest task progress after ready there steps wakes =>
      have within := task.step_within fleet.builds (fleet.interrupted.contains task.actor)
      have moment := within.sameMoment task.actor fleet.services
      rw [steps] at moment
      have elapsed : after.elapsed = fleet.services.elapsed := moment.elapsed
      refine wakes.punctual fun other later found => ?_
      rw [List.getElem?_set] at found
      by_cases here : place = other
      · -- The task that has taken the step is ready, or waits as it should.
        subst here
        rw [if_pos rfl, if_pos (List.getElem?_eq_some_iff.mp there).1] at found
        cases found
        cases progress with
        | goesOn state => exact .inl (by rw [remaining, ready]; exact List.mem_cons_self)
        | waits state =>
            right
            show ∀ timer, state.wakesAt after.elapsed = some timer → after.elapsed < timer
            rw [elapsed]
            exact Task.step_timely steps
      · rw [if_neg here] at found
        refine (punctual other later found).imp (fun member => ?_) fun timely => ?_
        · cases progress with
          | goesOn state => exact member
          | waits state =>
              show other ∈ fleet.ready.tail
              rw [ready] at member ⊢
              exact (List.mem_cons.mp member).resolve_left fun same => here same.symm
        · show ∀ timer, later.wakesAt after.elapsed = some timer → after.elapsed < timer
          rw [elapsed]
          exact timely

theorem Move.punctual (move : Move fleet next) (punctual : fleet.Punctual) : next.Punctual := by
  cases move with
  | step stepped => exact (step_eq_done stepped).punctual punctual
  | reorder _ same =>
      exact fun place task there => (punctual place task there).imp_left same.mem_iff.mpr
  | @jump _ _ elapsed idle forward early jumped =>
      rcases jump?_eq_some jumped with ⟨now, _, wakes, woken⟩
      intro place task there
      rcases wakes with ⟨ready, rfl, _⟩
      show place ∈ ready ∨ ∀ timer, task.wakesAt elapsed = some timer → elapsed < timer
      refine or_iff_not_imp_left.mpr fun asleep timer due => ?_
      have later : ∀ timer, task.wakesAt fleet.services.elapsed = some timer → elapsed < timer :=
        fun timer wakesAt => Nat.lt_of_not_le fun reached =>
          asleep (woken place task timer there wakesAt reached)
      rcases Nat.lt_or_ge fleet.services.elapsed task.startsAt with unbegun | begun
      · -- It begins later still.
        have starts := later _ (Task.wakesAt_unbegun unbegun)
        rw [Task.wakesAt_unbegun starts] at due
        cases due
        exact starts
      · rw [Task.wakesAt_begun (Nat.le_trans begun forward), ← Task.wakesAt_begun begun] at due
        exact later timer due
  | @act _ _ action outside =>
      have moment := outside.sameMoment .main fleet.services
      have elapsed : (action .main fleet.services).2.elapsed = fleet.services.elapsed :=
        moment.elapsed
      refine (fleet.act_wakes action).punctual fun place task there => ?_
      refine (punctual place task there).imp_right fun timely => ?_
      show ∀ timer, task.wakesAt (action .main fleet.services).2.elapsed = some timer → _
      rw [elapsed]
      exact timely
  | @begin _ task idle healthy distinct =>
      rcases fleet.begin_wakes task with ⟨wakes, ready⟩
      intro place later there
      rcases wakes with ⟨latest, same, more⟩
      rw [same] at there ready ⊢
      rcases Nat.lt_or_ge place fleet.tasks.length with inside | outside
      · rw [List.getElem?_append_left inside] at there
        exact (punctual place later there).imp_left fun member => more member
      · have short := (List.getElem?_eq_some_iff.mp there).1
        rw [List.length_append, List.length_singleton] at short
        have last : place = fleet.tasks.length := by omega
        exact .inl (last ▸ ready)
  | interrupt _ actor =>
      exact (fleet.interrupt_wakes actor).punctual punctual

theorem Reached.punctual (reached : Reached fleet) : fleet.Punctual := by
  induction reached with
  | start settings origin builds => exact fun place task there => nomatch there
  | move _ move punctual => exact move.punctual punctual

/-- A fleet that nothing can go on in and that jumps to its next timer jumps forward. -/
theorem Reached.elapsed_lt_nextTimer? (reached : Reached fleet) (idle : fleet.ready = [])
    {timer : Nat} (due : fleet.nextTimer? = some timer) : fleet.services.elapsed < timer := by
  rcases List.mem_filterMap.mp (List.min?_mem due) with ⟨task, member, wakes⟩
  rcases List.getElem?_of_mem member with ⟨place, there⟩
  rcases reached.punctual place task there with ready | later
  · rw [idle] at ready
    cases ready
  · exact later timer wakes

/-! ## The program's own runs -/

/-- To let everything go on that can is a matter of steps. -/
theorem settle_steps {fuel : Nat} (settled : fleet.settle fuel = .done next) :
    ReflTransGen (fun before after => before.step = .done after) fleet next := by
  induction fuel generalizing fleet with
  | zero =>
      cases settled
      exact .refl
  | succ fuel induction =>
      unfold settle at settled
      split at settled
      · cases settled
        exact .refl
      · split at settled
        · rename_i later stepped
          exact .head stepped (induction settled)
        · cases settled
        · cases settled

theorem settle_moves {fuel : Nat} (settled : fleet.settle fuel = .done next) :
    ReflTransGen Move fleet next :=
  ReflTransGen.mono (fun _ _ stepped => .step stepped) fleet next (settle_steps settled)

/-- So is the way to a later millisecond, if at each moment there is fuel enough to
let everything go on that can. -/
theorem Reached.runUntil_moves {limit settling fuel : Nat} (reached : Reached fleet)
    (settles : ∀ middle later, ReflTransGen Move fleet middle →
      middle.settle settling = .done later → later.ready = [])
    (ran : fleet.runUntil limit settling fuel = .done next) :
    ReflTransGen Move fleet next := by
  induction fuel generalizing fleet limit with
  | zero =>
      cases ran
      exact .refl
  | succ fuel induction =>
      unfold runUntil at ran
      split at ran
      · cases ran
      · cases ran
      · rename_i settled toSettled
        have idle := settles fleet settled .refl toSettled
        have reaches := settle_moves toSettled
        have timers : ∀ timer, settled.nextTimer? = some timer → settled.services.elapsed < timer :=
          fun _ => (reached.moves reaches).elapsed_lt_nextTimer? idle
        dsimp only at ran
        generalize aim : min (max limit settled.services.elapsed)
          (settled.nextTimer?.getD (max limit settled.services.elapsed)) = elapsed at ran
        split at ran
        · cases ran
        · rename_i jumped toJumped
          have bounds : settled.services.elapsed ≤ elapsed ∧
              ∀ timer, settled.nextTimer? = some timer → elapsed ≤ timer := by
            cases due : settled.nextTimer? with
            | none =>
                rw [due, Option.getD_none, Nat.min_self] at aim
                exact ⟨aim ▸ Nat.le_max_right _ _, fun _ never => nomatch never⟩
            | some timer =>
                have forward := timers timer due
                rw [due, Option.getD_some] at aim
                refine ⟨by omega, fun other same => ?_⟩
                cases same
                omega
          have jumps : ReflTransGen Move fleet jumped :=
            reaches.tail (.jump idle bounds.1 bounds.2 toJumped)
          split at ran
          · cases ran
            exact jumps
          · exact jumps.trans (induction (reached.moves jumps)
              (fun middle later moves => settles middle later (jumps.trans moves)) ran)

end Fleet

end BuildFleet
