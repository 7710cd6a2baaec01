import BuildFleet.Proofs.Store.Lookup
import Mathlib.Data.List.Chain

/-!
# Delivered and pending events

The outbox is a list of delivered events and one of pending events after it, as
long as events are acknowledged in the order of their numbers.
-/

namespace BuildFleet

/-! ## Numbers of events -/

/-- The events are numbered one after the other from a start. -/
def NumberedFrom (start : Nat) (events : List JobEvent) : Prop :=
  events.map (·.number) = (List.range' start events.length).map Int.ofNat

/-- The numbers go on from one to the next: none goes back and none is left out,
from one on. -/
def Climbs (events : List JobEvent) : Prop :=
  (0 :: events.map (·.number)).IsChain fun earlier later =>
    earlier ≤ later ∧ later ≤ earlier + 1

namespace NumberedFrom

variable {start : Nat} {event : JobEvent} {events rest : List JobEvent}

theorem snoc (numbered : NumberedFrom start events)
    (next : event.number = start + events.length) : NumberedFrom start (events ++ [event]) := by
  unfold NumberedFrom at numbered ⊢
  rw [List.length_append, List.length_singleton, List.range'_1_concat, List.map_append,
    List.map_append, numbered, List.map_singleton, List.map_singleton, next]
  rfl

theorem of_snoc (numbered : NumberedFrom start (events ++ [event])) :
    event.number = start + events.length := by
  unfold NumberedFrom at numbered
  rw [List.length_append, List.length_singleton, List.range'_1_concat, List.map_append,
    List.map_append] at numbered
  have last := (List.append_inj' numbered rfl).2
  rw [List.map_singleton, List.map_singleton] at last
  exact (List.cons.inj last).1

theorem of_cons (numbered : NumberedFrom start (event :: rest)) :
    event.number = start ∧ NumberedFrom (start + 1) rest := by
  unfold NumberedFrom at numbered
  rw [List.length_cons, List.range'_succ, List.map_cons, List.map_cons] at numbered
  exact List.cons.inj numbered

theorem bounds (numbered : NumberedFrom start events) (member : event ∈ events) :
    (start : Int) ≤ event.number ∧ event.number < start + events.length := by
  have isNumber : event.number ∈ events.map (·.number) := List.mem_map_of_mem member
  rw [numbered] at isNumber
  rcases List.mem_map.mp isNumber with ⟨number, inRange, equal⟩
  have range := List.mem_range'_1.mp inRange
  rw [← equal]
  constructor <;> simp <;> omega

end NumberedFrom

namespace Climbs

variable {event : JobEvent} {events : List JobEvent}

theorem nil : Climbs [] := .singleton _

/-- The last number is the greatest. -/
theorem le_last (climbs : Climbs events) {last : Int}
    (isLast : last ∈ (0 :: events.map (·.number)).getLast?) :
    0 ≤ last ∧ ∀ event ∈ events, event.number ≤ last := by
  have ordered : (0 :: events.map (·.number)).Pairwise (· ≤ ·) :=
    List.isChain_iff_pairwise.mp (climbs.imp fun _ _ step => step.1)
  rcases List.getLast?_eq_some_iff.mp isLast with ⟨before, whole⟩
  have below : ∀ number ∈ 0 :: events.map (·.number), number ≤ last := by
    rw [whole] at ordered ⊢
    intro number member
    rcases List.mem_append.mp member with earlier | isLast
    · exact (List.pairwise_append.mp ordered).2.2 number earlier last (List.mem_singleton_self _)
    · exact Int.le_of_eq (List.mem_singleton.mp isLast)
  exact ⟨below 0 List.mem_cons_self,
    fun event member => below _ (List.mem_cons_of_mem _ (List.mem_map_of_mem member))⟩

theorem snoc (climbs : Climbs events) (next : ∀ last ∈ (0 :: events.map (·.number)).getLast?,
    last ≤ event.number ∧ event.number ≤ last + 1) : Climbs (events ++ [event]) := by
  unfold Climbs
  rw [List.map_append, ← List.cons_append, List.isChain_append]
  refine ⟨climbs, .singleton _, ?_⟩
  intro last isLast number isNumber
  cases isNumber
  exact next last isLast

end Climbs

/-! ## The outbox -/

namespace Store

/-- The events that have been delivered, the oldest first. -/
def acknowledged (store : Store) : List JobEvent :=
  (store.outbox.filter (·.delivered)).map (·.event)

variable {store : Store} {settings : StoreSettings} {now : Instant} {event : JobEvent}
  {delivered pending rest : List JobEvent}

/-- The outbox holds delivered events, then pending ones. -/
def Holds (store : Store) (delivered pending : List JobEvent) : Prop :=
  store.outbox = delivered.map (⟨·, true⟩) ++ pending.map (⟨·, false⟩)

theorem outbox_mutate {id : JobId} {transition : Job → Outcome α × Job} :
    (store.mutate id transition now).2.outbox = store.outbox ∨
      ∃ event : JobEvent, event.number = store.outbox.length + 1 ∧
        (store.mutate id transition now).2.outbox = store.outbox ++ [⟨event, false⟩] := by
  rcases store.mutate_cases id transition now with same | ⟨job, same | same⟩
  · exact .inl (by rw [same])
  · exact .inl (by rw [same]; rfl)
  · exact .inr ⟨_, rfl, by rw [same]; rfl⟩

/-- Only an acknowledgement touches the events that are there; a call adds one at most. -/
theorem outbox_perform {call : StoreCall} (other : ∀ number, call ≠ .acknowledge number) :
    (store.perform settings now call).2.outbox = store.outbox ∨
      ∃ event : JobEvent, event.number = store.outbox.length + 1 ∧
        (store.perform settings now call).2.outbox = store.outbox ++ [⟨event, false⟩] := by
  cases addressed : call.addressed? with
  | some target =>
      rw [perform_addressed addressed]
      exact outbox_mutate
  | none =>
      left
      cases call <;> simp only [StoreCall.addressed?, reduceCtorEq] at addressed
      case acknowledge number => exact absurd rfl (other number)
      case create id target payload =>
        simp only [perform, create]
        split <;> rfl
      case staleQueued olderThan limit => exact (staleQueued_keeps olderThan limit).2
      all_goals rfl

namespace Holds

theorem acknowledged_eq (holds : store.Holds delivered pending) :
    store.acknowledged = delivered := by
  unfold Holds at holds
  have none : pending.filter (fun _ => false) = [] := List.filter_false pending
  simp [acknowledged, holds, List.filter_map, Function.comp_def]

theorem events_eq (holds : store.Holds delivered pending) :
    store.events = delivered ++ pending := by
  unfold Holds at holds
  simp [events, holds, Function.comp_def]

theorem pendingEvents_eq (holds : store.Holds delivered pending) (limit : Int) :
    store.pendingEvents limit = pending.take limit.toNat := by
  unfold Holds at holds
  simp [pendingEvents, holds, List.filter_map, Function.comp_def, ← List.map_take]

/-- The acknowledgement of the first pending event. -/
theorem acknowledge (holds : store.Holds delivered (event :: rest))
    (before : ∀ other ∈ delivered, other.number ≠ event.number)
    (behind : ∀ other ∈ rest, other.number ≠ event.number) :
    (store.acknowledge event.number).1 = .done () ∧
      (store.acknowledge event.number).2.Holds (delivered ++ [event]) rest := by
  unfold Holds at holds ⊢
  have present : (store.outbox.any (·.event.number == event.number)) = true := by
    simp [holds]
  rw [Store.acknowledge, if_pos present]
  refine ⟨rfl, ?_⟩
  simp only [holds, List.map_append, List.map_map, List.map_cons, List.map_nil, if_true,
    List.append_assoc]
  congr 1
  · apply List.map_congr_left
    intro other member
    simp [before other member]
  · rw [List.singleton_append]
    congr 1
    apply List.map_congr_left
    intro other member
    simp [behind other member]

end Holds

end Store

end BuildFleet
