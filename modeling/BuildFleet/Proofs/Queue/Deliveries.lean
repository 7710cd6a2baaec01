import BuildFleet.Proofs.Queue.Pending

/-!
# What the queues deliver

Whatever is published and taken, in whatever order: what a target has delivered,
followed by what still waits there, is what was published to it, less the
publications that repeated a waiting identifier. What happens at one target
cannot be seen at another.
-/

namespace BuildFleet

/-- What is asked of the queue of one target. -/
inductive QueueCall where
  | publish (id : JobId)
  | pop
  | poll (subscription : Subscription)
  | drop (subscription : Subscription)
deriving DecidableEq, Repr

namespace TargetQueue

variable {queue : TargetQueue}

/-- Carry out a call, and tell which identifier it delivers. -/
def perform (queue : TargetQueue) : QueueCall → Option JobId × TargetQueue
  | .publish id => (none, (queue.publish id).2)
  | .pop => queue.pop
  | .poll subscription => queue.poll subscription
  | .drop subscription => (none, (queue.drop subscription).2)

/-- The identifier that a call adds to those that wait. -/
def accepted? (queue : TargetQueue) : QueueCall → Option JobId
  | .publish id => if id ∈ queue.pending then none else some id
  | .pop | .poll _ | .drop _ => none

/-- The set that tells repetitions holds what waits, and nothing waits twice. -/
structure InStep (queue : TargetQueue) : Prop where
  mem_queued : ∀ id, id ∈ queue.queued ↔ id ∈ queue.pending
  distinct : queue.pending.Nodup

theorem inStep_empty : empty.InStep := ⟨fun _ => Iff.rfl, List.nodup_nil⟩

/-! ## One call -/

theorem pending_drop (queue : TargetQueue) (subscription : Subscription) :
    (queue.drop subscription).2.pending = queue.pending ∧
      (queue.drop subscription).2.queued = queue.queued := by
  unfold drop
  dsimp only
  split
  · exact pending_notify _
  · exact ⟨rfl, rfl⟩

/-- An identifier that is delivered stood first and leaves the line and the set. -/
theorem pop_cases (queue : TargetQueue) :
    (queue.pending = [] ∧ queue.pop = (none, queue)) ∨
      ∃ id rest, queue.pending = id :: rest ∧ queue.pop = (some id,
        { queue with pending := rest, queued := queue.queued.filter (· ≠ id) }) := by
  unfold pop
  split
  · rename_i nothing
    exact .inl ⟨nothing, rfl⟩
  · rename_i id rest waiting
    exact .inr ⟨id, rest, waiting, rfl⟩

/-- A poll either leaves everything that waits where it is or takes the first
identifier as `pop` does. -/
theorem poll_pending (queue : TargetQueue) (subscription : Subscription) :
    ((queue.poll subscription).1 = none ∧
        (queue.poll subscription).2.pending = queue.pending ∧
        (queue.poll subscription).2.queued = queue.queued) ∨
      ((queue.poll subscription).1 = queue.pop.1 ∧
        (queue.poll subscription).2.pending = queue.pop.2.pending ∧
        (queue.poll subscription).2.queued = queue.pop.2.queued) := by
  unfold poll
  split
  · exact .inl ⟨rfl, rfl, rfl⟩
  · rcases queue with ⟨_ | ⟨id, rest⟩, queued, permit, waiting, woken⟩
    · exact .inl ⟨rfl, rfl, rfl⟩
    · exact .inr ⟨rfl, rfl, rfl⟩

namespace InStep

theorem publish (inStep : queue.InStep) (id : JobId) : (queue.publish id).2.InStep := by
  by_cases repeated : id ∈ queue.queued
  · rw [publish_repeated repeated]
    exact inStep
  · have absent : id ∉ queue.pending := fun waits => repeated ((inStep.mem_queued id).mpr waits)
    rcases publish_new repeated with ⟨pending, queued⟩
    constructor
    · intro other
      rw [pending, queued, List.mem_cons, List.mem_append, List.mem_singleton,
        inStep.mem_queued other, or_comm]
    · rw [pending]
      refine List.nodup_append.mpr ⟨inStep.distinct, by simp, ?_⟩
      intro waiting member newest isNewest equal
      rw [List.mem_singleton.mp isNewest] at equal
      exact absent (equal ▸ member)

theorem pop (inStep : queue.InStep) : queue.pop.2.InStep := by
  rcases queue.pop_cases with ⟨_, same⟩ | ⟨id, rest, waiting, taken⟩
  · rw [same]
    exact inStep
  · rw [taken]
    have distinct := inStep.distinct
    rw [waiting] at distinct
    rcases List.nodup_cons.mp distinct with ⟨absent, restDistinct⟩
    refine ⟨fun other => ?_, restDistinct⟩
    rw [List.mem_filter, inStep.mem_queued other, waiting, List.mem_cons, decide_eq_true_eq]
    constructor
    · rintro ⟨there, different⟩
      exact there.resolve_left different
    · intro member
      exact ⟨.inr member, fun equal => absent (equal ▸ member)⟩

theorem of_eq {other : TargetQueue} (inStep : queue.InStep)
    (pending : other.pending = queue.pending) (queued : other.queued = queue.queued) :
    other.InStep :=
  ⟨by rw [pending, queued]; exact inStep.mem_queued, by rw [pending]; exact inStep.distinct⟩

theorem perform (inStep : queue.InStep) (call : QueueCall) : (queue.perform call).2.InStep := by
  cases call with
  | publish id => exact inStep.publish id
  | pop => exact inStep.pop
  | poll subscription =>
      rcases queue.poll_pending subscription with ⟨_, pending, queued⟩ | ⟨_, pending, queued⟩
      · exact inStep.of_eq pending queued
      · exact inStep.pop.of_eq pending queued
  | drop subscription =>
      rcases queue.pending_drop subscription with ⟨pending, queued⟩
      exact inStep.of_eq pending queued

/-- What a call delivers leaves the front of the line, and what it accepts joins
the end. -/
theorem balance (inStep : queue.InStep) (call : QueueCall) :
    (queue.perform call).1.toList ++ (queue.perform call).2.pending =
      queue.pending ++ (queue.accepted? call).toList := by
  have popped : queue.pop.1.toList ++ queue.pop.2.pending = queue.pending := by
    rcases queue.pop_cases with ⟨_, same⟩ | ⟨id, rest, waiting, taken⟩
    · rw [same]
      rfl
    · rw [taken, waiting]
      rfl
  cases call with
  | publish id =>
      show (queue.publish id).2.pending = _
      by_cases repeated : id ∈ queue.pending
      · rw [publish_repeated ((inStep.mem_queued id).mpr repeated), accepted?, if_pos repeated]
        exact (List.append_nil _).symm
      · rw [(publish_new (mt (inStep.mem_queued id).mp repeated)).1, accepted?, if_neg repeated]
        rfl
  | pop => exact popped.trans (List.append_nil _).symm
  | poll subscription =>
      show (queue.poll subscription).1.toList ++ (queue.poll subscription).2.pending = _
      rw [accepted?, Option.toList_none, List.append_nil]
      rcases queue.poll_pending subscription with ⟨answer, pending, _⟩ | ⟨answer, pending, _⟩
      · rw [answer, pending]
        rfl
      · rw [answer, pending]
        exact popped
  | drop subscription =>
      show (queue.drop subscription).2.pending = _
      rw [(queue.pending_drop subscription).1]
      exact (List.append_nil _).symm

end InStep

end TargetQueue

/-! ## Calls at any targets -/

namespace Queue

variable {queue other : Queue} {target : Target}

/-- Carry out a call at a target. -/
def perform (queue : Queue) (target : Target) : QueueCall → Option JobId × Queue
  | .publish id => (none, (queue.publish target id).2)
  | .pop => queue.pop target
  | .poll subscription => queue.poll target subscription
  | .drop subscription => (none, (queue.drop target subscription).2)

def afterCalls (queue : Queue) (calls : List (Target × QueueCall)) : Queue :=
  calls.foldl (fun queue call => (queue.perform call.1 call.2).2) queue

/-- What calls deliver at a target, the first to be delivered first. -/
def delivered (target : Target) (queue : Queue) : List (Target × QueueCall) → List JobId
  | [] => []
  | (place, call) :: rest =>
    let (id, after) := queue.perform place call
    (if place = target then id.toList else []) ++ after.delivered target rest

/-- What is published at a target and does not wait there at that time. -/
def accepted (target : Target) (queue : Queue) : List (Target × QueueCall) → List JobId
  | [] => []
  | (place, call) :: rest =>
    (if place = target then ((queue.ofTarget target).accepted? call).toList else []) ++
      (queue.perform place call).2.accepted target rest

theorem perform_eq (queue : Queue) (target : Target) (call : QueueCall) :
    queue.perform target call = (((queue.ofTarget target).perform call).1,
      queue.update target ((queue.ofTarget target).perform call).2) := by
  cases call <;> rfl

theorem ofTarget_perform (queue : Queue) (place : Target) (call : QueueCall) (target : Target) :
    (queue.perform place call).2.ofTarget target =
      if target = place then ((queue.ofTarget place).perform call).2
      else queue.ofTarget target := by
  rw [perform_eq]
  exact ofTarget_update _ _ _ _

theorem delivered_cons (queue : Queue) (place target : Target) (call : QueueCall)
    (rest : List (Target × QueueCall)) : queue.delivered target ((place, call) :: rest) =
      (if place = target then ((queue.ofTarget place).perform call).1.toList else []) ++
        (queue.perform place call).2.delivered target rest := by
  simp only [delivered, perform_eq]

theorem inStep_afterCalls (inStep : (queue.ofTarget target).InStep)
    (calls : List (Target × QueueCall)) : ((queue.afterCalls calls).ofTarget target).InStep := by
  induction calls generalizing queue with
  | nil => exact inStep
  | cons head rest induction =>
      refine induction ?_
      rw [ofTarget_perform]
      split
      · rename_i same
        exact (same ▸ inStep).perform head.2
      · exact inStep

/-- What was waiting and what is accepted is what is delivered and what waits in
the end. -/
theorem delivered_append_pending (inStep : (queue.ofTarget target).InStep)
    (calls : List (Target × QueueCall)) :
    queue.delivered target calls ++ (queue.afterCalls calls).pending target =
      queue.pending target ++ queue.accepted target calls := by
  induction calls generalizing queue with
  | nil => exact (List.append_nil _).symm
  | cons head rest induction =>
      rcases head with ⟨place, call⟩
      rw [delivered_cons, accepted, afterCalls, List.foldl_cons, ← afterCalls]
      by_cases here : place = target
      · subst here
        have after : ((queue.perform place call).2.ofTarget place).InStep := by
          rw [ofTarget_perform, if_pos rfl]
          exact inStep.perform call
        have pending : (queue.perform place call).2.pending place =
            ((queue.ofTarget place).perform call).2.pending := by
          rw [pending, ofTarget_perform, if_pos rfl]
        rw [if_pos rfl, if_pos rfl, List.append_assoc, induction after, pending,
          ← List.append_assoc, inStep.balance call, List.append_assoc]
        rfl
      · have untouched : (queue.perform place call).2.ofTarget target = queue.ofTarget target := by
          rw [ofTarget_perform, if_neg (Ne.symm here)]
        rw [if_neg here, if_neg here, List.nil_append, List.nil_append,
          induction (untouched ▸ inStep), pending, untouched]
        rfl

/-- What a target delivers depends on its own queue and the calls there alone. -/
theorem delivered_congr (same : queue.ofTarget target = other.ofTarget target)
    (calls : List (Target × QueueCall)) :
    queue.delivered target calls = other.delivered target (calls.filter (·.1 = target)) := by
  induction calls generalizing queue other with
  | nil => rfl
  | cons head rest induction =>
      rcases head with ⟨place, call⟩
      by_cases here : place = target
      · subst here
        have after : (queue.perform place call).2.ofTarget place =
            (other.perform place call).2.ofTarget place := by
          rw [ofTarget_perform, ofTarget_perform, if_pos rfl, if_pos rfl, same]
        rw [List.filter_cons_of_pos (by simp), delivered_cons, delivered_cons, same,
          induction after]
      · have untouched : (queue.perform place call).2.ofTarget target = other.ofTarget target := by
          rw [ofTarget_perform, if_neg (Ne.symm here), same]
        rw [List.filter_cons_of_neg (by simpa using here), delivered_cons, if_neg here,
          List.nil_append]
        exact induction untouched

/-- The queues neither lose nor repeat anything, and targets do not disturb each
other. -/
theorem deliveries_balance (calls : List (Target × QueueCall)) (target : Target) :
    ((∀ id, id ∈ ((empty.afterCalls calls).ofTarget target).queued ↔
        id ∈ (empty.afterCalls calls).pending target) ∧
      ((empty.afterCalls calls).pending target).Nodup) ∧
    empty.delivered target calls ++ (empty.afterCalls calls).pending target =
      empty.accepted target calls ∧
    empty.delivered target calls = empty.delivered target (calls.filter (·.1 = target)) := by
  have start : (empty.ofTarget target).InStep := TargetQueue.inStep_empty
  have inStep := inStep_afterCalls start calls
  exact ⟨⟨inStep.mem_queued, inStep.distinct⟩, delivered_append_pending start calls,
    delivered_congr rfl calls⟩

/-- An identifier that was delivered can be published again; one that waits cannot. -/
example :
    let calls : List (Target × QueueCall) := [
      (⟨"amd64"⟩, .publish (.ofNat 1)), (⟨"amd64"⟩, .publish (.ofNat 1)),
      (⟨"arm64"⟩, .pop), (⟨"amd64"⟩, .pop), (⟨"amd64"⟩, .publish (.ofNat 1))]
    empty.delivered ⟨"amd64"⟩ calls = [.ofNat 1] ∧
      (empty.afterCalls calls).pending ⟨"amd64"⟩ = [.ofNat 1] := by decide

end Queue

end BuildFleet
