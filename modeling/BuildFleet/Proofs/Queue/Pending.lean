import BuildFleet.Job.Basic
import BuildFleet.Queue.Basic

/-!
# What waits in the queues

A publication leaves its identifier waiting at its target and takes none away,
because the set that tells repeated publications never holds an identifier that
does not wait any more.
-/

namespace BuildFleet

theorem Ordered.lookup_put {κ β : Type} [LT κ] [DecidableEq κ] [DecidableLT κ] [BEq κ]
    [LawfulBEq κ] (key : κ) (value : β) (entries : List (κ × β)) (other : κ) :
    (put key value entries).lookup other =
      if other = key then some value else entries.lookup other := by
  have cons : ∀ (first : κ) (current : β) (rest : List (κ × β)),
      ((first, current) :: rest).lookup other =
        if other = first then some current else rest.lookup other := by
    intro first current rest
    by_cases equal : other = first
    · simp [equal]
    · rw [List.lookup_cons, beq_eq_false_iff_ne.mpr equal, if_neg equal]
  induction entries with
  | nil => exact cons _ _ _
  | cons head tail induction =>
      rcases head with ⟨first, current⟩
      by_cases same : key = first
      · subst same
        simp only [put, if_true, cons]
        split <;> rfl
      · by_cases before : key < first
        · simp only [put, if_neg same, if_pos before, cons]
        · simp only [put, if_neg same, if_neg before, cons, induction]
          by_cases equal : other = first
          · simp [equal, Ne.symm same]
          · simp [equal]

namespace TargetQueue

variable {queue : TargetQueue} {id : JobId}

/-- Whatever is held back as a repetition waits. -/
def Sound (queue : TargetQueue) : Prop := queue.queued ⊆ queue.pending

theorem sound_empty : empty.Sound := List.Subset.refl _

theorem pending_notify (queue : TargetQueue) :
    queue.notify.2.pending = queue.pending ∧ queue.notify.2.queued = queue.queued := by
  unfold notify
  split <;> exact ⟨rfl, rfl⟩

theorem publish_new (new : id ∉ queue.queued) :
    (queue.publish id).2.pending = queue.pending ++ [id] ∧
      (queue.publish id).2.queued = id :: queue.queued := by
  simp [publish, new, pending_notify]

theorem publish_repeated (repeated : id ∈ queue.queued) : (queue.publish id).2 = queue := by
  simp [publish, repeated]

theorem pending_subset_publish (queue : TargetQueue) (id : JobId) :
    queue.pending ⊆ (queue.publish id).2.pending := by
  by_cases repeated : id ∈ queue.queued
  · rw [publish_repeated repeated]
    exact List.Subset.refl _
  · rw [(publish_new repeated).1]
    exact List.subset_append_left _ _

namespace Sound

theorem publish (sound : queue.Sound) (id : JobId) : (queue.publish id).2.Sound := by
  by_cases repeated : id ∈ queue.queued
  · rw [publish_repeated repeated]
    exact sound
  · intro other member
    rw [(publish_new repeated).2] at member
    rw [(publish_new repeated).1]
    rcases List.mem_cons.mp member with rfl | before
    · exact List.mem_append_right _ (List.mem_singleton_self _)
    · exact List.mem_append_left _ (sound before)

theorem mem_publish (sound : queue.Sound) (id : JobId) : id ∈ (queue.publish id).2.pending := by
  by_cases repeated : id ∈ queue.queued
  · rw [publish_repeated repeated]
    exact sound repeated
  · rw [(publish_new repeated).1]
    exact List.mem_append_right _ (List.mem_singleton_self _)

/-- An identifier may be published again once it has been taken. -/
theorem pop (sound : queue.Sound) : queue.pop.2.Sound := by
  unfold TargetQueue.pop
  split
  · exact sound
  · rename_i first rest waiting
    intro other member
    rcases List.mem_filter.mp member with ⟨queued, different⟩
    have waits := sound queued
    rw [waiting] at waits
    exact (List.mem_cons.mp waits).resolve_left (of_decide_eq_true different)

theorem poll (sound : queue.Sound) (subscription : Subscription) :
    (queue.poll subscription).2.Sound := by
  unfold TargetQueue.poll
  split
  · exact sound
  · have looked : Sound { queue with woken := queue.woken.filter (· ≠ subscription) } := sound
    have taken := looked.pop
    split
    · rename_i popped
      rw [popped] at taken
      exact taken
    · rename_i popped
      rw [popped] at taken
      exact taken

theorem drop (sound : queue.Sound) (subscription : Subscription) :
    (queue.drop subscription).2.Sound := by
  unfold TargetQueue.drop
  dsimp only
  split
  · unfold Sound
    rw [(pending_notify _).1, (pending_notify _).2]
    exact sound
  · exact sound

end Sound

end TargetQueue

namespace Queue

variable {queue : Queue} {target other : Target} {id : JobId}

/-- The queues that publications and subscriptions lead to, in any order. -/
inductive Reached : Queue → Prop
  | empty : Reached empty
  | publish {queue : Queue} (reached : Reached queue) (target : Target) (id : JobId) :
      Reached (queue.publish target id).2
  | pop {queue : Queue} (reached : Reached queue) (target : Target) : Reached (queue.pop target).2
  | subscribe {queue : Queue} (reached : Reached queue) : Reached queue.subscribe.2
  | poll {queue : Queue} (reached : Reached queue) (target : Target)
      (subscription : Subscription) : Reached (queue.poll target subscription).2
  | drop {queue : Queue} (reached : Reached queue) (target : Target)
      (subscription : Subscription) : Reached (queue.drop target subscription).2

/-- The identifiers that wait at a target. -/
def pending (queue : Queue) (target : Target) : List JobId := (queue.ofTarget target).pending

def Sound (queue : Queue) : Prop := ∀ target, (queue.ofTarget target).Sound

theorem ofTarget_update (queue : Queue) (target : Target) (changed : TargetQueue)
    (other : Target) : (queue.update target changed).ofTarget other =
      if other = target then changed else queue.ofTarget other := by
  simp only [ofTarget, update, Ordered.lookup_put]
  split <;> rfl

theorem Sound.update (sound : queue.Sound) (target : Target) {changed : TargetQueue}
    (soundChange : changed.Sound) : (queue.update target changed).Sound := by
  intro other
  rw [ofTarget_update]
  split
  · exact soundChange
  · exact sound other

theorem Sound.publish (sound : queue.Sound) (target : Target) (id : JobId) :
    (queue.publish target id).2.Sound := sound.update target ((sound target).publish id)

theorem Reached.sound (reached : Reached queue) : queue.Sound := by
  induction reached with
  | empty => exact fun _ => TargetQueue.sound_empty
  | publish _ target id sound => exact sound.publish target id
  | pop _ target sound => exact sound.update target (sound target).pop
  | subscribe _ sound => exact sound
  | poll _ target subscription sound => exact sound.update target ((sound target).poll subscription)
  | drop _ target subscription sound => exact sound.update target ((sound target).drop subscription)

theorem pending_publish (queue : Queue) (target : Target) (id : JobId) (other : Target) :
    (queue.publish target id).2.pending other =
      if other = target then ((queue.ofTarget target).publish id).2.pending
      else queue.pending other := by
  simp only [publish, pending, ofTarget_update]
  split <;> rfl

theorem pending_subset_publish (queue : Queue) (target : Target) (id : JobId) (other : Target) :
    queue.pending other ⊆ (queue.publish target id).2.pending other := by
  rw [pending_publish]
  split
  · rename_i same
    subst same
    exact TargetQueue.pending_subset_publish _ id
  · exact List.Subset.refl _

/-- A published identifier waits, whether or not it did before. -/
theorem Sound.mem_publish (sound : queue.Sound) (target : Target) (id : JobId) :
    id ∈ (queue.publish target id).2.pending target := by
  rw [pending_publish, if_pos rfl]
  exact (sound target).mem_publish id

/-! ## Publishing several jobs -/

/-- Publish jobs at their targets, one after the other. -/
def publishEach (queue : Queue) (jobs : List Job) : Queue :=
  jobs.foldl (fun queue job => (queue.publish job.target job.id).2) queue

theorem Sound.publishEach (sound : queue.Sound) (jobs : List Job) :
    (queue.publishEach jobs).Sound := by
  induction jobs generalizing queue with
  | nil => exact sound
  | cons head tail induction => exact induction (sound.publish head.target head.id)

theorem pending_subset_publishEach (queue : Queue) (jobs : List Job) (target : Target) :
    queue.pending target ⊆ (queue.publishEach jobs).pending target := by
  induction jobs generalizing queue with
  | nil => exact List.Subset.refl _
  | cons head tail induction =>
      exact List.Subset.trans (queue.pending_subset_publish head.target head.id target)
        (induction _)

theorem Sound.mem_publishEach (sound : queue.Sound) {jobs : List Job} {job : Job}
    (member : job ∈ jobs) : job.id ∈ (queue.publishEach jobs).pending job.target := by
  induction jobs generalizing queue with
  | nil => cases member
  | cons head tail induction =>
      rcases List.mem_cons.mp member with rfl | later
      · exact pending_subset_publishEach _ tail job.target (sound.mem_publish job.target job.id)
      · exact induction (sound.publish head.target head.id) later

end Queue

end BuildFleet
