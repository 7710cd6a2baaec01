import BuildFleet.Proofs.Queue.Pending
import BuildFleet.Proofs.Relay.Turns
import BuildFleet.Proofs.Store.Pending
import BuildFleet.Proofs.Store.Run

/-!
# Deliveries of the relay

The events that the relay has acknowledged are always the oldest ones, and every
front-end has accepted each of them and at most one event more. An event is told
again until the relay learns that every front-end has it, so a front-end may
accept it more than once, but never an older one after it.
-/

namespace BuildFleet

/-- The events that a front-end has accepted, the oldest first. -/
def Services.acceptedBy (services : Services) (frontEnd : String) : List JobEvent :=
  (services.accepted.lookup frontEnd).getD []

namespace Relay

/-! ## What holds between any two calls -/

/-- An event that is told of is the oldest pending one, its batch goes on with the
next ones, and the front-ends that are not left have accepted it. -/
def Phase.Fits (relay : Relay) (services : Services) (pending : List JobEvent) : Phase → Prop
  | .resting => True
  | .telling event left rest =>
    (∃ later, pending = event :: (rest ++ later)) ∧
      ∃ told, relay.frontEnds = told ++ left ∧
        ∀ frontEnd ∈ told, event ∈ services.acceptedBy frontEnd

structure InOrder (relay : Relay) (phase : Phase) (services : Services)
    (delivered pending : List JobEvent) : Prop where
  holds : services.store.Holds delivered pending
  deliveredNumbers : NumberedFrom 1 delivered
  pendingNumbers : NumberedFrom (1 + delivered.length) pending
  told : ∀ frontEnd ∈ relay.frontEnds, delivered ⊆ services.acceptedBy frontEnd
  known : ∀ frontEnd, services.acceptedBy frontEnd ⊆ delivered ++ pending.head?.toList
  climbs : ∀ frontEnd, Climbs (services.acceptedBy frontEnd)
  fits : phase.Fits relay services pending

theorem acceptedBy_carryOut_notify (services : Services) (told : String) (event : JobEvent)
    (frontEnd : String) : (services.carryOut (.notify told event)).2.acceptedBy frontEnd =
      if frontEnd = told then services.acceptedBy told ++ [event]
      else services.acceptedBy frontEnd := by
  simp only [Services.carryOut, Services.acceptedBy, Ordered.lookup_put]
  split <;> rfl

namespace InOrder

variable {relay : Relay} {phase : Phase} {services changed : Services} {event : JobEvent}
  {delivered pending rest : List JobEvent} {left : List String}

theorem start (relay : Relay) (settings : StoreSettings) (now : Instant) :
    relay.InOrder .resting (.start settings now) [] [] where
  holds := rfl
  deliveredNumbers := rfl
  pendingNumbers := rfl
  told _ _ := List.nil_subset _
  known _ := List.nil_subset _
  climbs _ := .nil
  fits := trivial

theorem resting (inOrder : relay.InOrder phase services delivered pending) :
    relay.InOrder .resting services delivered pending := { inOrder with fits := trivial }

/-- Only the outbox and what has been accepted count. -/
theorem unchanged (inOrder : relay.InOrder phase services delivered pending)
    (outbox : changed.store.outbox = services.store.outbox)
    (accepted : changed.accepted = services.accepted) :
    relay.InOrder phase changed delivered pending := by
  rcases services with ⟨settings, ⟨jobs, services, known, published⟩⟩
  rcases changed with ⟨settings, ⟨jobs, services, known, published⟩⟩
  cases outbox
  cases accepted
  exact { inOrder with }

/-- A batch of the oldest pending events is taken up. -/
theorem begin {batch later : List JobEvent}
    (inOrder : relay.InOrder phase services delivered (batch ++ later)) :
    relay.InOrder (relay.begin batch) services delivered (batch ++ later) where
  holds := inOrder.holds
  deliveredNumbers := inOrder.deliveredNumbers
  pendingNumbers := inOrder.pendingNumbers
  told := inOrder.told
  known := inOrder.known
  climbs := inOrder.climbs
  fits := by
    cases batch with
    | nil => trivial
    | cons event rest =>
        exact ⟨⟨later, rfl⟩, [], rfl, fun _ member => absurd member List.not_mem_nil⟩

/-- A new event comes last. -/
theorem received {store : Store} (inOrder : relay.InOrder phase services delivered pending)
    (number : event.number = services.store.outbox.length + 1)
    (outbox : store.outbox = services.store.outbox ++ [⟨event, false⟩]) :
    relay.InOrder phase { services with store } delivered (pending ++ [event]) where
  holds := by
    rw [Store.Holds, outbox, inOrder.holds, List.map_append, List.append_assoc]
    rfl
  deliveredNumbers := inOrder.deliveredNumbers
  pendingNumbers := by
    refine inOrder.pendingNumbers.snoc ?_
    rw [number, inOrder.holds, List.length_append, List.length_map, List.length_map]
    push_cast
    omega
  told := inOrder.told
  known frontEnd := by
    refine List.Subset.trans (inOrder.known frontEnd) ?_
    cases pending with
    | nil => simp
    | cons first others => exact List.Subset.refl _
  climbs := inOrder.climbs
  fits := by
    have fits := inOrder.fits
    cases phase with
    | resting => trivial
    | telling current left rest =>
        rcases fits with ⟨⟨later, whole⟩, told⟩
        exact ⟨⟨later ++ [event], by simp [whole]⟩, told⟩

/-- The last number that a front-end has accepted is that of the last delivered
event or of the one that is being told. -/
theorem last_accepted (inOrder : relay.InOrder phase services delivered (event :: rest))
    {frontEnd : String} (member : frontEnd ∈ relay.frontEnds) :
    ∀ last ∈ (0 :: (services.acceptedBy frontEnd).map (·.number)).getLast?,
      last ≤ event.number ∧ event.number ≤ last + 1 := by
  intro last isLast
  have number := inOrder.pendingNumbers.of_cons.1
  rcases (inOrder.climbs frontEnd).le_last isLast with ⟨nonneg, greatest⟩
  constructor
  · rcases List.mem_cons.mp (List.mem_of_getLast? isLast) with zero | isNumber
    · omega
    · rcases List.mem_map.mp isNumber with ⟨accepted, isAccepted, equal⟩
      rw [← equal]
      rcases List.mem_append.mp (inOrder.known frontEnd isAccepted) with past | current
      · have bounds := inOrder.deliveredNumbers.bounds past
        omega
      · cases List.mem_singleton.mp current
        exact Int.le_refl _
  -- The newest delivered event has been accepted, and no number after the last is smaller.
  · rcases List.eq_nil_or_concat delivered with none | ⟨before, newest, whole⟩
    · rw [none, List.length_nil] at number
      omega
    · rw [List.concat_eq_append] at whole
      have isNewest : newest ∈ delivered := by simp [whole]
      have reached := greatest newest (inOrder.told frontEnd member isNewest)
      have numbered := inOrder.deliveredNumbers
      rw [whole] at numbered number
      have newestNumber := numbered.of_snoc
      rw [List.length_append, List.length_singleton] at number
      omega

/-- A front-end accepts the event that it is told. -/
theorem accept {frontEnd : String}
    (inOrder : relay.InOrder (.telling event (frontEnd :: left) rest) services delivered pending) :
    relay.InOrder (.telling event left rest) (services.carryOut (.notify frontEnd event)).2
      delivered pending := by
  have accepted := acceptedBy_carryOut_notify services frontEnd event
  rcases inOrder.fits with ⟨⟨later, whole⟩, told, frontEnds, accepting⟩
  subst whole
  have member : frontEnd ∈ relay.frontEnds := by simp [frontEnds]
  -- One front-end may stand in the list twice and be told twice.
  have grows : ∀ other, services.acceptedBy other ⊆
      (services.carryOut (.notify frontEnd event)).2.acceptedBy other := by
    intro other
    rw [accepted other]
    split
    · rename_i same
      rw [same]
      exact List.subset_append_left _ _
    · exact List.Subset.refl _
  refine ⟨inOrder.holds, inOrder.deliveredNumbers, inOrder.pendingNumbers, ?_, ?_, ?_, ?_⟩
  · intro other there
    exact List.Subset.trans (inOrder.told other there) (grows other)
  · intro other
    rw [accepted other]
    split
    · refine List.append_subset.mpr ⟨inOrder.known frontEnd, ?_⟩
      exact List.subset_append_right _ _
    · exact inOrder.known other
  · intro other
    rw [accepted other]
    split
    · exact (inOrder.climbs frontEnd).snoc (inOrder.last_accepted member)
    · exact inOrder.climbs other
  · refine ⟨⟨later, rfl⟩, told ++ [frontEnd], by simp [frontEnds], ?_⟩
    intro other isTold
    rcases List.mem_append.mp isTold with before | now
    · exact grows other (accepting other before)
    · rw [List.mem_singleton.mp now, accepted frontEnd, if_pos rfl]
      exact List.mem_append_right _ (List.mem_singleton_self _)

theorem accepted_everywhere
    (inOrder : relay.InOrder (.telling event [] rest) services delivered pending) :
    ∀ frontEnd ∈ relay.frontEnds, event ∈ services.acceptedBy frontEnd := by
  rcases inOrder.fits with ⟨_, told, frontEnds, accepting⟩
  rw [frontEnds, List.append_nil]
  exact accepting

/-- An event that all front-ends have accepted is acknowledged. -/
theorem acknowledge
    (inOrder : relay.InOrder (.telling event [] rest) services delivered pending) :
    (services.store.acknowledge event.number).1 = .done () ∧
      ∃ later, relay.InOrder (relay.begin rest)
        { services with store := (services.store.acknowledge event.number).2 }
        (delivered ++ [event]) (rest ++ later) := by
  have everywhere := inOrder.accepted_everywhere
  rcases inOrder.fits with ⟨⟨later, whole⟩, _⟩
  subst whole
  rcases inOrder.pendingNumbers.of_cons with ⟨number, behindNumbers⟩
  have before : ∀ other ∈ delivered, other.number ≠ event.number := by
    intro other member
    have bounds := inOrder.deliveredNumbers.bounds member
    omega
  have behind : ∀ other ∈ rest ++ later, other.number ≠ event.number := by
    intro other member
    have bounds := behindNumbers.bounds member
    omega
  rcases inOrder.holds.acknowledge before behind with ⟨done, holds⟩
  refine ⟨done, later, ?_⟩
  have next : relay.InOrder .resting
      { services with store := (services.store.acknowledge event.number).2 }
      (delivered ++ [event]) (rest ++ later) := by
    refine ⟨holds, ?_, ?_, ?_, ?_, inOrder.climbs, trivial⟩
    · exact inOrder.deliveredNumbers.snoc (by rw [number]; push_cast; rfl)
    · rw [List.length_append, List.length_singleton, ← Nat.add_assoc]
      exact behindNumbers
    · intro frontEnd member
      refine List.append_subset.mpr ⟨inOrder.told frontEnd member, ?_⟩
      intro other single
      rw [List.mem_singleton.mp single]
      exact everywhere frontEnd member
    · intro frontEnd
      exact List.Subset.trans (inOrder.known frontEnd) (List.subset_append_left _ _)
  exact next.begin

end InOrder

/-- Nothing has been acknowledged, or one event that all front-ends had accepted. -/
def Acknowledges (relay : Relay) (services : Services) (before after : List JobEvent) : Prop :=
  after = before ∨ ∃ event, after = before ++ [event] ∧
    ∀ frontEnd ∈ relay.frontEnds, event ∈ services.acceptedBy frontEnd

variable {relay : Relay} {phase : Phase} {services : Services} {delivered pending : List JobEvent}

theorem InOrder.turn (inOrder : relay.InOrder phase services delivered pending) :
    ∃ deliveredAfter pendingAfter,
      relay.InOrder (relay.turn phase services).1 (relay.turn phase services).2 deliveredAfter
        pendingAfter ∧
      relay.Acknowledges services delivered deliveredAfter := by
  cases phase with
  | resting =>
      refine ⟨delivered, pending, ?_, .inl rfl⟩
      rw [Relay.turn, Services.pendingEvents]
      rcases Services.perform_carried_or_failed (.store (.pendingEvents batchSize)) .relay services
        with ⟨after, ⟨performed, store, accepted⟩ | ⟨failure, performed, store, accepted⟩⟩
      · rw [performed]
        -- The batch is the front of what is pending.
        have whole := List.take_append_drop batchSize.toNat pending
        have asked := inOrder.unchanged (congrArg Store.outbox store) accepted
        rw [← whole] at asked
        have begun := asked.begin
        rw [whole, ← inOrder.holds.pendingEvents_eq] at begun
        exact begun
      · rw [performed]
        exact (inOrder.unchanged (congrArg Store.outbox store) accepted).resting
  | telling event left rest =>
      cases left with
      | cons frontEnd left =>
          refine ⟨delivered, pending, ?_, .inl rfl⟩
          rw [Relay.turn, Services.notify]
          rcases Services.perform_carried_or_failed (.notify frontEnd event) .relay services
            with ⟨after, ⟨performed, store, accepted⟩ | ⟨failure, performed, store, accepted⟩⟩
          · rw [performed]
            exact inOrder.accept.unchanged (congrArg Store.outbox store) accepted
          · rw [performed]
            exact (inOrder.unchanged (congrArg Store.outbox store) accepted).resting
      | nil =>
          rw [Relay.turn, Services.acknowledge]
          rcases Services.perform_carried_or_failed (.store (.acknowledge event.number)) .relay
            services
            with ⟨after, ⟨performed, store, accepted⟩ | ⟨failure, performed, store, accepted⟩⟩
          · rcases inOrder.acknowledge with ⟨done, later, next⟩
            have answered : (services.carryOut (.store (.acknowledge event.number))).1 =
              .done () := done
            rw [performed, answered]
            exact ⟨_, _, next.unchanged (congrArg Store.outbox store) accepted,
              .inr ⟨event, rfl, inOrder.accepted_everywhere⟩⟩
          · rw [performed]
            exact ⟨_, _, (inOrder.unchanged (congrArg Store.outbox store) accepted).resting,
              .inl rfl⟩

/-- A call of anybody else adds one pending event at most. -/
theorem InOrder.call (inOrder : relay.InOrder phase services delivered pending) (actor : Actor)
    {call : StoreCall} (other : ∀ number, call ≠ .acknowledge number) :
    ∃ pendingAfter, relay.InOrder phase (Services.perform (.store call) actor services).2 delivered
      pendingAfter := by
  rcases Services.perform_carried_or_failed (.store call) actor services
    with ⟨after, ⟨performed, store, accepted⟩ | ⟨failure, performed, store, accepted⟩⟩
  · rw [performed]
    rcases Store.outbox_perform other with same | ⟨event, number, added⟩
    · exact ⟨pending, inOrder.unchanged ((congrArg Store.outbox store).trans same) accepted⟩
    · exact ⟨pending ++ [event],
        (inOrder.received number added).unchanged (congrArg Store.outbox store) accepted⟩
  · rw [performed]
    exact ⟨pending, inOrder.unchanged (congrArg Store.outbox store) accepted⟩

/-- Every step keeps the order and acknowledges one event at most. -/
theorem Step.inOrder {next : Phase × Services} (step : relay.Step (phase, services) next)
    (inOrder : relay.InOrder phase services delivered pending) :
    ∃ deliveredAfter pendingAfter,
      relay.InOrder next.1 next.2 deliveredAfter pendingAfter ∧
      relay.Acknowledges services delivered deliveredAfter := by
  cases step with
  | turn => exact inOrder.turn
  | stop => exact ⟨delivered, pending, inOrder.resting, .inl rfl⟩
  | outside _ store accepted =>
      exact ⟨delivered, pending, inOrder.unchanged (congrArg Store.outbox store) accepted, .inl rfl⟩
  | call _ _ actor call other =>
      rcases inOrder.call actor other with ⟨pendingAfter, after⟩
      exact ⟨delivered, pendingAfter, after, .inl rfl⟩

theorem Reached.inOrder {state : Phase × Services} (reached : relay.Reached state) :
    ∃ delivered pending, relay.InOrder state.1 state.2 delivered pending := by
  induction reached with
  | start settings now => exact ⟨[], [], .start relay settings now⟩
  | step reached step induction =>
      rcases induction with ⟨delivered, pending, inOrder⟩
      rcases step.inOrder inOrder with ⟨deliveredAfter, pendingAfter, after, _⟩
      exact ⟨deliveredAfter, pendingAfter, after⟩

/-- Whatever fails and whoever calls the store in between, the acknowledged events
are the first ones. Every front-end had accepted each of them before it was
acknowledged, has accepted at most one event more, and has accepted them in
order and without a gap. The turns in question are those that deliveries are
made of. -/
theorem Reached.delivers_in_order (reached : relay.Reached (phase, services)) :
    (∃ count : Nat,
      services.store.acknowledged.map (·.number) = (List.range' 1 count).map Int.ofNat ∧
      (∀ event ∈ services.store.events,
        event ∈ services.store.acknowledged ↔ event.number ≤ count) ∧
      ∀ frontEnd, ∀ event ∈ services.acceptedBy frontEnd,
        event ∈ services.store.events ∧ event.number ≤ count + 1) ∧
    (∀ frontEnd, Climbs (services.acceptedBy frontEnd)) ∧
    (∀ event ∈ services.store.acknowledged, ∀ frontEnd ∈ relay.frontEnds,
      event ∈ services.acceptedBy frontEnd) ∧
    (∀ next, relay.Step (phase, services) next →
      ∀ event ∈ next.2.store.acknowledged, event ∉ services.store.acknowledged →
        ∀ frontEnd ∈ relay.frontEnds, event ∈ services.acceptedBy frontEnd) ∧
    relay.Finishes (relay.turn .resting services).1 (relay.turn .resting services).2
      (relay.deliver .relay services).2 := by
  rcases reached.inOrder with ⟨delivered, pending, inOrder⟩
  have acknowledged := inOrder.holds.acknowledged_eq
  have events := inOrder.holds.events_eq
  dsimp only at acknowledged events
  refine ⟨⟨delivered.length, ?_, ?_, ?_⟩, inOrder.climbs, ?_, ?_, relay.deliver_finishes services⟩
  · rw [acknowledged]
    exact inOrder.deliveredNumbers
  · intro event member
    rw [events] at member
    rw [acknowledged]
    constructor
    · intro isDelivered
      have bounds := inOrder.deliveredNumbers.bounds isDelivered
      omega
    · intro low
      rcases List.mem_append.mp member with isDelivered | isPending
      · exact isDelivered
      · have bounds := inOrder.pendingNumbers.bounds isPending
        omega
  · intro frontEnd event member
    rw [events]
    rcases List.mem_append.mp (inOrder.known frontEnd member) with isDelivered | isNext
    · have bounds := inOrder.deliveredNumbers.bounds isDelivered
      exact ⟨List.mem_append_left _ isDelivered, by omega⟩
    · cases pending with
      | nil => cases isNext
      | cons first rest =>
          cases List.mem_singleton.mp isNext
          have number := inOrder.pendingNumbers.of_cons.1
          exact ⟨List.mem_append_right _ List.mem_cons_self, by omega⟩
  · intro event member frontEnd isFrontEnd
    rw [acknowledged] at member
    exact inOrder.told frontEnd isFrontEnd member
  · intro next step event after before
    rcases step.inOrder inOrder with ⟨deliveredAfter, pendingAfter, nextInOrder, acknowledges⟩
    rw [nextInOrder.holds.acknowledged_eq] at after
    rw [acknowledged] at before
    rcases acknowledges with same | ⟨newest, added, everywhere⟩
    · exact absurd (same ▸ after) before
    · rw [added] at after
      cases List.mem_singleton.mp ((List.mem_append.mp after).resolve_left before)
      exact everywhere

end Relay

/-! ## A sample run

The second front-end refuses the event of a cancelled job once. -/

namespace Sample

def relay : Relay := ⟨["chat", "mail"], Relay.standardPollInterval⟩

def created : Services :=
  (Services.perform (.store (.create firstJob ⟨"amd64"⟩ .null)) .main
    (.start settings (moment 0))).2

def announced : Services := (Services.perform (.store (.cancel firstJob)) .main created).2

def refusing : Services := announced.plan ⟨"notify:mail", 0, 1, .unavailable "down"⟩

def refused : Services := (relay.deliver .relay refusing).2

def retried : Services := (relay.deliver .relay refused).2

theorem announced_reached : relay.Reached (.resting, announced) := by
  have started : relay.Reached (.resting, .start settings (moment 0)) := .start _ _
  have made : relay.Reached (.resting, created) :=
    started.step (.call _ _ .main (.create firstJob ⟨"amd64"⟩ .null) nofun)
  exact made.step (.call _ _ .main (.cancel firstJob) nofun)

theorem refused_reached : relay.Reached (.resting, refused) := by
  have planned : relay.Reached (.resting, refusing) :=
    announced_reached.step (.outside .resting rfl rfl)
  exact planned.deliver

theorem retried_reached : relay.Reached (.resting, retried) := refused_reached.deliver

theorem retried_numbers : (retried.acceptedBy "chat").map (·.number) = [1, 1] ∧
    (retried.acceptedBy "mail").map (·.number) = [1] ∧
    retried.store.acknowledged.map (·.number) = [1] := by
  decide +kernel

end Sample

/-- Both front-ends have the event before it is acknowledged, the first one twice. -/
theorem Relay.Reached.sample_delivers_in_order :
    Sample.relay.Reached (.resting, Sample.retried) ∧
      (Sample.retried.acceptedBy "chat").map (·.number) = [1, 1] ∧
      (Sample.retried.acceptedBy "mail").map (·.number) = [1] ∧
      Climbs (Sample.retried.acceptedBy "chat") ∧
      ∃ event ∈ Sample.retried.store.acknowledged, event.number = 1 ∧
        ∀ frontEnd ∈ Sample.relay.frontEnds, event ∈ Sample.retried.acceptedBy frontEnd := by
  rcases Sample.retried_reached.delivers_in_order with ⟨_, climbs, everywhere, _⟩
  rcases Sample.retried_numbers with ⟨chat, mail, acknowledged⟩
  have first : (1 : Int) ∈ Sample.retried.store.acknowledged.map (·.number) := by
    rw [acknowledged]
    exact List.mem_singleton_self _
  rcases List.mem_map.mp first with ⟨event, member, number⟩
  exact ⟨Sample.retried_reached, chat, mail, climbs "chat", event, member, number,
    everywhere event member⟩

end BuildFleet
