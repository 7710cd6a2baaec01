import BuildFleet.Docker.Daemon
import BuildFleet.Proofs.Docker.Traces
import BuildFleet.Proofs.Text.Blanks

/-!
# What the daemon knows

A request changes what stands under the name that it is about, and nothing else. A container
keeps its identifier as long as it stands, and no identifier is given out twice.
-/

namespace BuildFleet.Docker.Daemon

variable {daemon : Daemon} {request : Request} {name other id : String} {plan : ContainerPlan}
  {container found : Container}

theorem container?_without (daemon : Daemon) (name other : String) :
    (daemon.without name).container? other =
      if other = name then none else daemon.container? other := by
  rcases daemon with ⟨containers, created⟩
  unfold container? without
  dsimp only
  induction containers with
  | nil => simp
  | cons entry rest induction => grind

theorem container?_put (daemon : Daemon) (name other : String) (container : Container) :
    (daemon.put name container).container? other =
      if other = name then some container else daemon.container? other := by
  have without := daemon.container?_without name other
  unfold container? put at *
  grind

theorem container?_put_self (daemon : Daemon) (name : String) (container : Container) :
    (daemon.put name container).container? name = some container := by
  rw [container?_put, if_pos rfl]

theorem container?_put_other (daemon : Daemon) (container : Container) (different : other ≠ name) :
    (daemon.put name container).container? other = daemon.container? other := by
  rw [container?_put, if_neg different]

/-- All that a request can do. -/
inductive Does (daemon : Daemon) : Request → Daemon → Prop
  | nothing {request : Request} (idle : ∀ name, request = .remove name ∨ request = .stop name →
      daemon.container? name = none) : Does daemon request daemon
  | removed {name : String} : Does daemon (.remove name) (daemon.without name)
  | created {plan : ContainerPlan} (free : daemon.container? plan.name = none) :
      Does daemon (.create plan) { daemon.put plan.name
        ⟨toString daemon.created, plan, false, none, []⟩ with created := daemon.created + 1 }
  | started {name : String} {container : Container}
      (stands : daemon.container? name = some container) :
      Does daemon (.start name) (daemon.put name { container with started := true })
  | stopped {name : String} {container : Container}
      (stands : daemon.container? name = some container) :
      Does daemon (.stop name) (daemon.put name
        { container with exited := container.exited.or (some 137) })

theorem does_step (daemon : Daemon) (request : Request) :
    daemon.Does request (daemon.step request).1 := by
  unfold step
  cases request with
  | pull image => exact .nothing nofun
  | remove name =>
      dsimp only
      split
      · exact .removed
      · rename_i gone
        exact .nothing (by simp [gone])
  | create plan =>
      dsimp only
      split
      · exact .nothing nofun
      · rename_i free
        exact .created free
  | start name =>
      dsimp only
      split
      · rename_i stands
        exact .started stands
      · exact .nothing nofun
  | follow name | await name =>
      dsimp only
      split <;> exact .nothing nofun
  | stop name =>
      dsimp only
      split
      · rename_i stands
        exact .stopped stands
      · rename_i gone
        exact .nothing (by simp [gone])

variable {next : Daemon}

/-- Whatever is asked, a container that stands is still there unless its removal is asked
for, and it has exited if it had or is stopped. -/
theorem Does.keeps (does : daemon.Does request next)
    (stands : daemon.container? name = some container) (kept : request ≠ .remove name) :
    ∃ found, next.container? name = some found ∧ found.id = container.id ∧
      (found.exited = none ↔ container.exited = none ∧ request ≠ .stop name) := by
  cases does with
  | nothing idle =>
      have other : request ≠ .stop name := by
        rintro rfl
        exact nomatch (idle name (.inr rfl)).symm.trans stands
      exact ⟨container, stands, rfl, by simp [other]⟩
  | @removed removed =>
      have different : name ≠ removed := fun same => kept (by rw [same])
      exact ⟨container, by simp [container?_without, different, stands], rfl, by simp⟩
  | @created plan free =>
      have different : name ≠ plan.name := by
        rintro rfl
        exact nomatch free.symm.trans stands
      refine ⟨container, ?_, rfl, by simp⟩
      exact (container?_put _ _ _ _).trans (by rw [if_neg different, stands])
  | @started started found there =>
      rw [container?_put]
      by_cases same : name = started
      · subst same
        cases there.symm.trans stands
        exact ⟨_, if_pos rfl, rfl, by simp⟩
      · exact ⟨container, by rw [if_neg same, stands], rfl, by simp⟩
  | @stopped stopped found there =>
      rw [container?_put]
      by_cases same : name = stopped
      · subst same
        cases there.symm.trans stands
        exact ⟨_, if_pos rfl, rfl, by cases container.exited <;> simp⟩
      · exact ⟨container, by rw [if_neg same, stands], rfl, by simp [Ne.symm same]⟩

theorem Does.removes (does : daemon.Does (.remove name) next) : next.container? name = none := by
  cases does with
  | nothing idle => exact idle name (.inl rfl)
  | removed => simp [container?_without]

theorem stopped_of_step (stands : daemon.container? name = some container) :
    (daemon.step (.stop name)).1.container? name =
      some { container with exited := container.exited.or (some 137) } := by
  simp only [step, stands]
  exact container?_put_self _ _ _

/-- A container is made under a name that is free, and it has not run yet. -/
theorem created_of_step (made : (daemon.step (.create plan)).2 = Except.ok id) :
    daemon.container? plan.name = none ∧ id = toString daemon.created ∧
      (daemon.step (.create plan)).1.container? plan.name = some ⟨id, plan, false, none, []⟩ := by
  cases stands : daemon.container? plan.name with
  | some container =>
      simp only [step, stands] at made
      cases made
  | none =>
      simp only [step, stands] at made ⊢
      cases made
      exact ⟨trivial, rfl, container?_put_self _ _ _⟩

/-! ## Identifiers -/

/-- The daemon has given out this identifier. -/
def Given (daemon : Daemon) (id : String) : Prop :=
  ∃ number < daemon.created, id = toString number

/-- What stands was there before, under the same name and with the same identifier, but for
a new container under one name at most. -/
structure Advances (daemon next : Daemon) (new : Option String) : Prop where
  created : next.created = daemon.created + if new.isSome then 1 else 0
  comes : ∀ {name container}, next.container? name = some container →
    (∃ earlier, daemon.container? name = some earlier ∧ container.id = earlier.id) ∨
      new = some name ∧ container.id = toString daemon.created

theorem advances_rfl : daemon.Advances daemon none where
  created := rfl
  comes there := .inl ⟨_, there, rfl⟩

theorem advances_put (stands : daemon.container? name = some container)
    (same : found.id = container.id) : daemon.Advances (daemon.put name found) none where
  created := rfl
  comes := by
    intro other later there
    rw [container?_put] at there
    split at there
    · rename_i equal
      subst equal
      cases there
      exact .inl ⟨container, stands, same⟩
    · exact .inl ⟨later, there, rfl⟩

theorem Does.advances (does : daemon.Does request next) : ∃ new, daemon.Advances next new := by
  cases does with
  | nothing => exact ⟨none, advances_rfl⟩
  | removed =>
      refine ⟨none, rfl, fun there => ?_⟩
      rw [container?_without] at there
      split at there
      · cases there
      · exact .inl ⟨_, there, rfl⟩
  | @created plan free =>
      refine ⟨some plan.name, rfl, fun {name container} there => ?_⟩
      have there := (container?_put daemon plan.name name _).symm.trans there
      split at there
      · rename_i equal
        cases there
        exact .inr ⟨by rw [equal], rfl⟩
      · exact .inl ⟨_, there, rfl⟩
  | started stands => exact ⟨none, advances_put stands rfl⟩
  | stopped stands => exact ⟨none, advances_put stands rfl⟩

/-- Each container that stands has an identifier of its own, and the daemon has given it out. -/
structure Sound (daemon : Daemon) : Prop where
  given : ∀ {name container}, daemon.container? name = some container → daemon.Given container.id
  unique : ∀ {name other container found}, daemon.container? name = some container →
    daemon.container? other = some found → container.id = found.id → name = other

theorem sound_empty : empty.Sound where
  given := nofun
  unique := nofun

theorem Given.advances {new : Option String} (given : daemon.Given id)
    (advances : daemon.Advances next new) : next.Given id := by
  rcases given with ⟨number, below, rfl⟩
  exact ⟨number, by rw [advances.created]; omega, rfl⟩

theorem eq_of_toString {left right : Nat} (same : toString left = toString right) :
    left = right := by
  have digits := congrArg String.toList same
  simp only [Nat.toString_eq_repr, Nat.toList_repr] at digits
  exact Text.eq_of_toDigits digits

/-- An identifier that has been given out is not given out again. -/
theorem Given.ne_new (given : daemon.Given id) : id ≠ toString daemon.created := by
  rcases given with ⟨number, below, rfl⟩
  intro same
  exact absurd (eq_of_toString same) (Nat.ne_of_lt below)

theorem Sound.advances {new : Option String} (sound : daemon.Sound)
    (advances : daemon.Advances next new) : next.Sound where
  given := by
    intro name container stands
    rcases advances.comes stands with ⟨earlier, stood, same⟩ | ⟨isNew, same⟩
    · rw [same]
      exact (sound.given stood).advances advances
    · refine ⟨daemon.created, ?_, same⟩
      rw [advances.created, isNew]
      simp
  unique := by
    intro name other container found stands there same
    rcases advances.comes stands with ⟨earlier, stood, kept⟩ | ⟨isNew, fresh⟩ <;>
      rcases advances.comes there with ⟨before, was, kept'⟩ | ⟨isNew', fresh'⟩
    · exact sound.unique stood was (kept.symm.trans (same.trans kept'))
    · exact absurd (kept.symm.trans (same.trans fresh')) (sound.given stood).ne_new
    · exact absurd (kept'.symm.trans (same.symm.trans fresh)) (sound.given was).ne_new
    · exact Option.some.inj (isNew.symm.trans isNew')

/-- A container with this identifier has stood and does not stand any more. -/
structure Gone (daemon : Daemon) (id : String) : Prop where
  given : daemon.Given id
  absent : ∀ {name container}, daemon.container? name = some container → container.id ≠ id

theorem Gone.advances {new : Option String} (gone : daemon.Gone id)
    (advances : daemon.Advances next new) : next.Gone id where
  given := gone.given.advances advances
  absent := by
    intro name container stands same
    rcases advances.comes stands with ⟨earlier, stood, kept⟩ | ⟨_, fresh⟩
    · exact gone.absent stood (kept.symm.trans same)
    · exact gone.given.ne_new (same.symm.trans fresh)

/-- A container whose removal is asked for is gone for good. -/
theorem gone_of_removes {new : Option String} (sound : daemon.Sound)
    (stands : daemon.container? name = some container)
    (advances : daemon.Advances next new) (removed : next.container? name = none) :
    next.Gone container.id where
  given := (sound.given stands).advances advances
  absent := by
    intro other found there same
    rcases advances.comes there with ⟨earlier, stood, kept⟩ | ⟨_, fresh⟩
    · have names := sound.unique stood stands (kept.symm.trans same)
      rw [names, removed] at there
      cases there
    · exact (sound.given stands).ne_new (same.symm.trans fresh)

/-! ## Requests that are granted -/

theorem step_remove (daemon : Daemon) (name : String) : ∃ next answer,
    daemon.step (.remove name) = (next, answer) ∧ removalResult answer = .ok () ∧
      next.created = daemon.created ∧
      ∀ other, next.container? other = if other = name then none else daemon.container? other := by
  cases stands : daemon.container? name with
  | some container =>
      refine ⟨daemon.without name, .ok (), ?_, rfl, rfl, container?_without daemon name⟩
      simp only [step, stands]
  | none =>
      refine ⟨daemon, .error (missing name), ?_, rfl, rfl, fun other => ?_⟩
      · simp only [step, stands]
      · split
        · rename_i same
          rw [same, stands]
        · rfl

theorem step_create (free : daemon.container? plan.name = none) : ∃ next,
    daemon.step (.create plan) = (next, Except.ok (toString daemon.created)) ∧
      next.created = daemon.created + 1 ∧
      ∀ other, next.container? other = if other = plan.name then
        some ⟨toString daemon.created, plan, false, none, []⟩ else daemon.container? other := by
  refine ⟨{ daemon.put plan.name ⟨toString daemon.created, plan, false, none, []⟩ with
    created := daemon.created + 1 }, ?_, rfl, fun other => daemon.container?_put _ other _⟩
  simp only [step, free]
  rfl

theorem step_start (stands : daemon.container? name = some container) : ∃ next,
    daemon.step (.start name) = (next, Except.ok ()) ∧ next.created = daemon.created ∧
      ∀ other, next.container? other = if other = name then
        some { container with started := true } else daemon.container? other := by
  refine ⟨daemon.put name { container with started := true }, ?_, rfl,
    fun other => daemon.container?_put _ other _⟩
  simp only [step, stands]
  rfl

end BuildFleet.Docker.Daemon
