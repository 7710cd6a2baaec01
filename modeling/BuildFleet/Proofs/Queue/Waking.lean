import Mathlib.Data.Set.Card
import BuildFleet.Proofs.Queue.Deliveries

/-!
# Nobody sleeps beside a waiting job

A publication wakes one subscription at most, repeated publications wake none,
and any subscription may take what another one was woken for. Still nobody stays
asleep for long: as long as a subscription is blocked, every identifier that
waits is matched by a subscription that was woken and has yet to look.
-/

namespace BuildFleet

/-- What a subscription is doing. -/
inductive Attendance where
  /-- It is not waiting: its holder is at work, or has let go of it. -/
  | working
  /-- It waits for the next publication. -/
  | blocked
  /-- It was woken and has not looked again yet. -/
  | woken
deriving DecidableEq, Repr

namespace TargetQueue

variable {queue : TargetQueue} {subscription other : Subscription}

def attendance (queue : TargetQueue) (subscription : Subscription) : Attendance :=
  if subscription ∈ queue.waiting then .blocked
  else if subscription ∈ queue.woken then .woken
  else .working

/-- Every subscription is in one place at most, and while one is blocked those
that were woken are enough for all that waits. -/
structure Attended (queue : TargetQueue) : Prop where
  apart : (queue.waiting ++ queue.woken).Nodup
  matched : queue.waiting ≠ [] → queue.pending.length ≤ queue.woken.length

theorem attended_empty : empty.Attended where
  apart := List.nodup_nil
  matched blocked := absurd rfl blocked

theorem attendance_eq_blocked : queue.attendance subscription = .blocked ↔
    subscription ∈ queue.waiting := by
  unfold attendance
  split
  · simp [*]
  · split <;> simp [*]

theorem Attended.attendance_eq_woken (attended : queue.Attended) :
    queue.attendance subscription = .woken ↔ subscription ∈ queue.woken := by
  have disjoint := List.disjoint_of_nodup_append attended.apart
  unfold attendance
  split
  · rename_i blocked
    simpa using disjoint blocked
  · split <;> simp [*]

/-- The subscriptions that were woken are as many as the list of them is long. -/
theorem Attended.ncard_woken (attended : queue.Attended) :
    {subscription | queue.attendance subscription = .woken}.ncard = queue.woken.length := by
  have listed : {subscription | queue.attendance subscription = .woken} =
      ↑queue.woken.toFinset := by
    ext subscription
    simp [attended.attendance_eq_woken]
  rw [listed, Set.ncard_coe_finset,
    List.toFinset_card_of_nodup (List.nodup_append.mp attended.apart).2.1]

/-! ## One call -/

/-- A notification wakes the first that is blocked, or becomes the permit. -/
theorem notify_cases (queue : TargetQueue) :
    (queue.waiting = [] ∧ queue.notify = (none, { queue with permit := true })) ∨
      ∃ first rest, queue.waiting = first :: rest ∧ queue.notify = (some first,
        { queue with waiting := rest, woken := queue.woken ++ [first] }) := by
  unfold notify
  split
  · rename_i nobody
    exact .inl ⟨nobody, rfl⟩
  · rename_i first rest waits
    exact .inr ⟨first, rest, waits, rfl⟩

/-- A poll of a blocked subscription changes nothing; any other one takes an
identifier or is blocked from then on. -/
theorem poll_cases (queue : TargetQueue) (subscription : Subscription) :
    (subscription ∈ queue.waiting ∧ queue.poll subscription = (none, queue)) ∨
    (subscription ∉ queue.waiting ∧ ∃ id rest, queue.pending = id :: rest ∧
      queue.poll subscription = (some id, { queue with
        pending := rest
        queued := queue.queued.filter (· ≠ id)
        woken := queue.woken.filter (· ≠ subscription) })) ∨
    (subscription ∉ queue.waiting ∧ queue.pending = [] ∧
      queue.poll subscription = (none, { queue with
        permit := false
        waiting := queue.waiting ++ [subscription]
        woken := queue.woken.filter (· ≠ subscription) })) := by
  by_cases blocked : subscription ∈ queue.waiting
  · exact .inl ⟨blocked, by simp [poll, blocked]⟩
  · refine .inr ?_
    cases pending : queue.pending with
    | nil => exact .inr ⟨blocked, rfl, by simp [poll, pop, blocked, pending]⟩
    | cons id rest => exact .inl ⟨blocked, id, rest, rfl, by simp [poll, pop, blocked, pending]⟩

namespace Attended

/-- A notification on behalf of one more identifier, or of one woken subscription
less, restores the balance. -/
theorem notify (apart : (queue.waiting ++ queue.woken).Nodup)
    (matched : queue.waiting ≠ [] → queue.pending.length ≤ queue.woken.length + 1) :
    queue.notify.2.Attended := by
  rcases queue.notify_cases with ⟨nobody, notified⟩ | ⟨first, rest, waits, notified⟩
  · rw [notified]
    exact ⟨apart, fun blocked => absurd nobody blocked⟩
  · have someone : queue.waiting ≠ [] := by simp [waits]
    rw [notified]
    refine ⟨?_, fun _ => ?_⟩
    · rw [waits, List.cons_append] at apart
      show (rest ++ (queue.woken ++ [first])).Nodup
      rw [← List.append_assoc]
      exact (List.perm_append_singleton first _).nodup_iff.mpr apart
    · show queue.pending.length ≤ (queue.woken ++ [first]).length
      rw [List.length_append, List.length_singleton]
      exact matched someone

theorem publish (attended : queue.Attended) (id : JobId) : (queue.publish id).2.Attended := by
  unfold TargetQueue.publish
  split
  · exact attended
  · refine notify attended.apart fun blocked => ?_
    have matched := attended.matched blocked
    show (queue.pending ++ [id]).length ≤ queue.woken.length + 1
    rw [List.length_append, List.length_singleton]
    omega

theorem length_filter_ne (attended : queue.Attended) (subscription : Subscription) :
    queue.woken.length ≤ (queue.woken.filter (· ≠ subscription)).length + 1 := by
  have distinct := (List.nodup_append.mp attended.apart).2.1
  have erased : queue.woken.filter (· ≠ subscription) = queue.woken.erase subscription := by
    rw [distinct.erase_eq_filter]
    exact List.filter_congr fun other _ => by rw [bne, beq_eq_decide, decide_not]
  rw [erased, List.length_erase]
  split <;> omega

/-- Whoever takes an identifier, one fewer waits and one fewer is awake at most. -/
theorem poll (attended : queue.Attended) (subscription : Subscription) :
    (queue.poll subscription).2.Attended := by
  have others : (queue.waiting ++ queue.woken.filter (· ≠ subscription)).Nodup :=
    attended.apart.sublist ((List.Sublist.refl _).append List.filter_sublist)
  rcases queue.poll_cases subscription with
    ⟨_, polled⟩ | ⟨_, id, rest, waits, polled⟩ | ⟨awake, nothing, polled⟩
  · rw [polled]
    exact attended
  · rw [polled]
    refine ⟨others, fun blocked => ?_⟩
    have matched := attended.matched blocked
    have looked := attended.length_filter_ne subscription
    rw [waits, List.length_cons] at matched
    show rest.length ≤ (queue.woken.filter (· ≠ subscription)).length
    omega
  · rw [polled]
    refine ⟨?_, fun _ => by simp [nothing]⟩
    show (queue.waiting ++ [subscription] ++ queue.woken.filter (· ≠ subscription)).Nodup
    have asleep :
        (subscription :: (queue.waiting ++ queue.woken.filter (· ≠ subscription))).Nodup :=
      List.nodup_cons.mpr ⟨by simp [awake], others⟩
    rw [List.append_assoc]
    exact List.perm_middle.nodup_iff.mpr asleep

/-- What a woken subscription was to take is passed on when it is let go of. -/
theorem drop (attended : queue.Attended) (subscription : Subscription) :
    (queue.drop subscription).2.Attended := by
  have others : (queue.waiting.filter (· ≠ subscription) ++
      queue.woken.filter (· ≠ subscription)).Nodup :=
    attended.apart.sublist (List.filter_sublist.append List.filter_sublist)
  have blockedBefore : queue.waiting.filter (· ≠ subscription) ≠ [] → queue.waiting ≠ [] := by
    intro blocked nobody
    rw [nobody] at blocked
    exact blocked rfl
  unfold TargetQueue.drop
  dsimp only
  split
  · refine notify others fun blocked => ?_
    exact (attended.matched (blockedBefore blocked)).trans (attended.length_filter_ne subscription)
  · rename_i asleep
    have kept : queue.woken.filter (· ≠ subscription) = queue.woken := by
      refine List.filter_eq_self.mpr fun other member => decide_eq_true ?_
      rintro rfl
      exact asleep (List.contains_iff_mem.mpr member)
    refine ⟨others, fun blocked => ?_⟩
    show queue.pending.length ≤ (queue.woken.filter (· ≠ subscription)).length
    rw [kept]
    exact attended.matched (blockedBefore blocked)

theorem pop (attended : queue.Attended) : queue.pop.2.Attended := by
  rcases queue.pop_cases with ⟨_, same⟩ | ⟨id, rest, waits, taken⟩
  · rw [same]
    exact attended
  · rw [taken]
    refine ⟨attended.apart, fun blocked => ?_⟩
    have matched := attended.matched blocked
    rw [waits, List.length_cons] at matched
    show rest.length ≤ queue.woken.length
    omega

theorem perform (attended : queue.Attended) (call : QueueCall) :
    (queue.perform call).2.Attended := by
  cases call with
  | publish id => exact attended.publish id
  | pop => exact attended.pop
  | poll subscription => exact attended.poll subscription
  | drop subscription => exact attended.drop subscription

end Attended

end TargetQueue

/-! ## In every state of the queues -/

namespace Queue

variable {queue : Queue}

/-- What every call at a target keeps holds of every target. -/
theorem Reached.keeps {Holds : TargetQueue → Prop} (reached : queue.Reached)
    (start : Holds .empty) (kept : ∀ queue call, Holds queue → Holds (queue.perform call).2)
    (target : Target) : Holds (queue.ofTarget target) := by
  have called : ∀ (queue : Queue) (place : Target) (call : QueueCall),
      (∀ target, Holds (queue.ofTarget target)) →
        ∀ target, Holds ((queue.perform place call).2.ofTarget target) := by
    intro queue place call before target
    rw [ofTarget_perform]
    split
    · exact kept _ call (before place)
    · exact before target
  revert target
  induction reached with
  | empty => exact fun _ => start
  | publish _ place id before => exact called _ place (.publish id) before
  | pop _ place before => exact called _ place .pop before
  | subscribe _ before => exact before
  | poll _ place subscription before => exact called _ place (.poll subscription) before
  | drop _ place subscription before => exact called _ place (.drop subscription) before

theorem Reached.attended (reached : queue.Reached) (target : Target) :
    (queue.ofTarget target).Attended :=
  reached.keeps TargetQueue.attended_empty (fun _ call attended => attended.perform call) target

/-- As long as a subscription is blocked, the identifiers that wait are no more
than the subscriptions that were woken and have not looked yet. So if none was
woken while something waits, nobody is blocked. -/
theorem Reached.nobody_sleeps (reached : queue.Reached) (target : Target) :
    (∀ subscription, (queue.ofTarget target).attendance subscription = .blocked →
      (queue.pending target).length ≤
        {other | (queue.ofTarget target).attendance other = .woken}.ncard) ∧
    ((∀ subscription, (queue.ofTarget target).attendance subscription ≠ .woken) →
      queue.pending target ≠ [] →
      ∀ subscription, (queue.ofTarget target).attendance subscription ≠ .blocked) := by
  have attended := reached.attended target
  have matched : ∀ subscription, (queue.ofTarget target).attendance subscription = .blocked →
      (queue.pending target).length ≤
        {other | (queue.ofTarget target).attendance other = .woken}.ncard := by
    intro subscription blocked
    rw [attended.ncard_woken]
    exact attended.matched (List.ne_nil_of_mem (TargetQueue.attendance_eq_blocked.mp blocked))
  refine ⟨matched, fun asleep waits subscription blocked => waits ?_⟩
  have few := matched subscription blocked
  have none : {other | (queue.ofTarget target).attendance other = .woken} = ∅ :=
    Set.eq_empty_of_forall_notMem asleep
  rw [none, Set.ncard_empty] at few
  exact List.eq_nil_of_length_eq_zero (Nat.le_zero.mp few)

end Queue

/-! ## A sample

Four subscriptions wait. Two publications wake two of them, a third one repeats
an identifier and wakes nobody. The first identifier is taken by a subscription
that was never woken, and one of those woken is let go of, which wakes the third. -/

namespace Sample

def attended : List QueueCall := [
  .poll 0, .poll 1, .poll 2, .poll 3, .publish (.ofNat 1), .publish (.ofNat 2), .publish (.ofNat 2),
  .poll 4, .drop 0]

def attendedQueue : Queue := Queue.empty.afterCalls (attended.map (Prod.mk ⟨"amd64"⟩))

end Sample

namespace Queue

theorem Reached.afterCalls {queue : Queue} (reached : queue.Reached)
    (calls : List (Target × QueueCall)) : (queue.afterCalls calls).Reached := by
  induction calls generalizing queue with
  | nil => exact reached
  | cons head rest induction =>
      rcases head with ⟨target, call⟩
      refine induction ?_
      cases call with
      | publish id => exact reached.publish target id
      | pop => exact reached.pop target
      | poll subscription => exact reached.poll target subscription
      | drop subscription => exact reached.drop target subscription

/-- The last subscription is blocked while the second job waits, and two others
were woken. -/
theorem Reached.sample_nobody_sleeps :
    Sample.attendedQueue.Reached ∧
      (Sample.attendedQueue.ofTarget ⟨"amd64"⟩).attendance 3 = .blocked ∧
      Sample.attendedQueue.pending ⟨"amd64"⟩ = [JobId.ofNat 2] ∧
      (Sample.attendedQueue.pending ⟨"amd64"⟩).length ≤
        {other | (Sample.attendedQueue.ofTarget ⟨"amd64"⟩).attendance other = .woken}.ncard := by
  have reached : Sample.attendedQueue.Reached := Reached.empty.afterCalls _
  have blocked : (Sample.attendedQueue.ofTarget ⟨"amd64"⟩).attendance 3 = .blocked := by decide
  exact ⟨reached, blocked, by decide, (reached.nobody_sleeps ⟨"amd64"⟩).1 3 blocked⟩

end Queue

end BuildFleet
