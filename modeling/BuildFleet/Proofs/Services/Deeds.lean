import Mathlib.Logic.Relation
import BuildFleet.Proofs.Services.Calls

/-!
# What an action does, deed by deed

An action changes the services by the calls that it makes, one after the other,
and by a few deeds that are no calls. `Action.Within` bounds the calls that an
action may make. What every such call and every other deed keeps, the action
keeps, whatever comes of its calls.
-/

namespace BuildFleet

def Happening.isCall : Happening → Bool
  | .called _ _ => true
  | _ => false

/-- One thing that an actor does to the services: a call that it may make, or
something that the store does not see. -/
inductive Services.Deed (May : Call → Prop) (actor : Actor) : Services → Services → Prop
  | call (services : Services) {call : Call} (may : May call) :
      Deed May actor services (perform call actor services).2
  | note (services : Services) {happening : Happening} (silent : happening.isCall = false) :
      Deed May actor services (services.record actor happening)
  | plan (services : Services) : Deed May actor services services.plannedDelivery.2
  | poll (services : Services) (target : Target) (subscription : Subscription) :
      Deed May actor services (Services.poll target subscription actor services).2
  | unsubscribe (services : Services) (target : Target) (subscription : Subscription) :
      Deed May actor services (Services.unsubscribe target subscription actor services).2
  /-- One more job has been made. -/
  | count (services : Services) :
      Deed May actor services { services with made := services.made + 1 }

theorem Services.Deed.mono {May Other : Call → Prop} {actor : Actor} {before after : Services}
    (deed : Deed May actor before after) (wider : ∀ call, May call → Other call) :
    Deed Other actor before after := by
  cases deed with
  | call may => exact .call _ (wider _ may)
  | note silent => exact .note _ silent
  | plan => exact .plan _
  | poll => exact .poll _ _ _
  | unsubscribe => exact .unsubscribe _ _ _
  | count => exact .count _

namespace Action

open Relation

variable {α β : Type} {May Other : Call → Prop} {actor : Actor} {services : Services}
  {action : Action α} {next : α → Action β}

/-- Whatever comes of its calls, the action makes no others than these. -/
def Within (May : Call → Prop) (action : Action α) : Prop :=
  ∀ actor services, ReflTransGen (Services.Deed May actor) services (action actor services).2

theorem Within.keeps {Holds : Services → Prop} (within : action.Within May)
    (kept : ∀ before after, Services.Deed May actor before after → Holds before → Holds after)
    (holds : Holds services) : Holds (action actor services).2 := by
  have deeds := within actor services
  generalize (action actor services).2 = after at deeds ⊢
  induction deeds with
  | refl => exact holds
  | tail _ deed before => exact kept _ _ deed before

namespace Within

theorem mono (within : action.Within May) (wider : ∀ call, May call → Other call) :
    action.Within Other :=
  fun actor services =>
    ReflTransGen.mono (fun _ _ deed => deed.mono wider) services _ (within actor services)

theorem pure (value : α) : (Pure.pure value : Action α).Within May := fun _ _ => .refl

theorem fail (failure : Failure) : (fail failure : Action α).Within May := fun _ _ => .refl

theorem stop : (stop : Action α).Within May := fun _ _ => .refl

theorem ofExcept (result : Except Failure α) : (ofExcept result).Within May := by
  cases result with
  | ok value => exact .pure value
  | error failure => exact .fail failure

theorem bind (within : action.Within May) (nextWithin : ∀ value, (next value).Within May) :
    (action >>= next).Within May := by
  intro actor services
  by_cases done : ∃ value, (action actor services).1 = .done value
  · rcases done with ⟨value, outcome⟩
    rw [bind_done outcome]
    exact (within actor services).trans (nextWithin value actor _)
  · rw [bind_undone (not_exists.mp done)]
    exact within actor services

theorem attempt (within : action.Within May) : action.attempt.Within May := by
  intro actor services
  rw [attempt_services]
  exact within actor services

theorem perform {call : Call} (may : May call) : (Services.perform call).Within May :=
  fun _ services => .single (.call services may)

theorem create {target : Target} {payload : Json}
    (may : ∀ id, May (.store (.create id target payload))) :
    (Services.create target payload).Within May := by
  intro actor services
  have made : ReflTransGen (Services.Deed May actor) services
      (Services.perform (.store (.create (freshId services.made) target payload)) actor
        services).2 := .single (.call services (may _))
  unfold Services.create
  split
  · rename_i performed
    rw [performed] at made
    exact made.tail (.count _)
  · rename_i performed
    rw [performed] at made
    exact made
  · rename_i performed
    rw [performed] at made
    exact made

theorem note {happening : Happening} (silent : happening.isCall = false) :
    (Services.note happening).Within May := fun _ services => .single (.note services silent)

theorem elapsedTime : Services.elapsedTime.Within May := fun _ _ => .refl

theorem planDelivery : Services.planDelivery.Within May :=
  fun _ services => .single (.plan services)

theorem poll (target : Target) (subscription : Subscription) :
    (Services.poll target subscription).Within May :=
  fun _ services => .single (.poll services target subscription)

theorem unsubscribe (target : Target) (subscription : Subscription) :
    (Services.unsubscribe target subscription).Within May :=
  fun _ services => .single (.unsubscribe services target subscription)

end Within

/-! ## What an action comes to -/

/-- An action that is done has been done part by part. -/
theorem bind_eq_done {value : β} {after : Services}
    (done : (action >>= next) actor services = (.done value, after)) :
    ∃ first middle, action actor services = (.done first, middle) ∧
      next first actor middle = (.done value, after) := by
  rw [bind_apply] at done
  generalize action actor services = performed at done ⊢
  rcases performed with ⟨first | failure | _, middle⟩
  · exact ⟨first, middle, rfl, done⟩
  · cases done
  · cases done

theorem attempt_eq_done {answer : Except Failure α} {after : Services}
    (done : action.attempt actor services = (.done answer, after)) :
    (∃ value, answer = .ok value ∧ action actor services = (.done value, after)) ∨
      ∃ failure, answer = .error failure ∧ action actor services = (.failed failure, after) := by
  unfold attempt at done
  generalize action actor services = performed at done ⊢
  rcases performed with ⟨value | failure | _, middle⟩
  · cases done
    exact .inl ⟨value, rfl, rfl⟩
  · cases done
    exact .inr ⟨failure, rfl, rfl⟩
  · cases done

/-- The action keeps a property of the services, and its value has another one. -/
def Ensures (Holds : Services → Prop) (action : Action α) (Post : α → Prop) : Prop :=
  ∀ actor services value, Holds services → (action actor services).1 = .done value →
    Holds (action actor services).2 ∧ Post value

namespace Ensures

variable {Holds : Services → Prop} {Mid : α → Prop} {Post : β → Prop}

theorem pure {value : β} (post : Post value) :
    (Pure.pure value : Action β).Ensures Holds Post := by
  intro actor services other holds done
  cases done
  exact ⟨holds, post⟩

theorem bind (first : action.Ensures Holds Mid)
    (second : ∀ value, Mid value → (next value).Ensures Holds Post) :
    (action >>= next).Ensures Holds Post := by
  intro actor services result holds done
  by_cases reached : ∃ value, (action actor services).1 = .done value
  · rcases reached with ⟨value, outcome⟩
    rcases first actor services value holds outcome with ⟨still, mid⟩
    rw [bind_done outcome] at done ⊢
    exact second value mid actor _ result still done
  · rw [bind_apply] at done
    generalize action actor services = performed at reached done
    rcases performed with ⟨value | failure | _, after⟩
    · exact absurd ⟨value, rfl⟩ reached
    · cases done
    · cases done

/-- Nothing is said of the services or the value. -/
theorem anything (action : Action α) : action.Ensures (fun _ => True) fun _ => True :=
  fun _ _ _ _ _ => ⟨trivial, trivial⟩

/-- What every deed keeps, an action keeps whose value does not depend on it. -/
theorem of_within (ensures : action.Ensures (fun _ => True) Mid) (within : action.Within May)
    (kept : ∀ actor before after, Services.Deed May actor before after →
      Holds before → Holds after) : action.Ensures Holds Mid :=
  fun actor services value holds done => ⟨within.keeps (kept actor) holds,
    (ensures actor services value trivial done).2⟩

end Ensures

end Action

end BuildFleet
