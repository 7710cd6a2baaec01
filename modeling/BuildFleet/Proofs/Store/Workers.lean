import BuildFleet.Proofs.Store.Course

/-!
# Recorded workers

A store knows each worker as it was last recorded, at the reading of that call, and keeps
the workers in ascending order of their identities. No other call adds or changes one.
-/

namespace BuildFleet

namespace WorkerId

theorem ext_text {left right : WorkerId} (same : left.text = right.text) : left = right := by
  cases left
  cases right
  exact congrArg mk same

theorem lt_trans {first second third : WorkerId} (before : first < second)
    (after : second < third) : first < third := String.lt_trans before after

theorem ne_of_lt {left right : WorkerId} (before : left < right) : left ≠ right := by
  rintro rfl
  exact String.lt_irrefl _ before

theorem lt_of_not_lt {left right : WorkerId} (different : left ≠ right)
    (notBefore : ¬ left < right) : right < left := by
  by_contra notAfter
  exact different (ext_text (Std.Trichotomous.trichotomous (r := (· < ·)) _ _ notBefore notAfter))

end WorkerId

/-! ## One more worker -/

namespace Store

variable {info other : WorkerInfo} {known : List WorkerInfo}

/-- Workers in ascending order of their identities, each once. -/
abbrev Ascending (known : List WorkerInfo) : Prop := known.Pairwise (·.id < ·.id)

theorem mem_insertWorker (ascending : Ascending known) : other ∈ insertWorker info known ↔
    other = info ∨ (other ∈ known ∧ other.id ≠ info.id) := by
  induction known with
  | nil => simp [insertWorker]
  | cons head tail induction =>
      rcases List.pairwise_cons.mp ascending with ⟨above, rest⟩
      rw [insertWorker]
      split
      · rename_i same
        have apart : ∀ member ∈ tail, member.id ≠ info.id := fun member there =>
          same ▸ (WorkerId.ne_of_lt (above member there)).symm
        simp only [List.mem_cons]
        constructor
        · rintro (isInfo | later)
          · exact .inl isInfo
          · exact .inr ⟨.inr later, apart other later⟩
        · rintro (isInfo | ⟨isHead | later, different⟩)
          · exact .inl isInfo
          · exact absurd (isHead ▸ same.symm) different
          · exact .inr later
      · rename_i different
        split
        · rename_i before
          have apart : ∀ member ∈ head :: tail, member.id ≠ info.id := by
            intro member there
            rcases List.mem_cons.mp there with rfl | later
            · exact fun same => different same.symm
            · exact (WorkerId.ne_of_lt (WorkerId.lt_trans before (above member later))).symm
          rw [List.mem_cons]
          exact or_congr_right ⟨fun there => ⟨there, apart other there⟩, And.left⟩
        · rw [List.mem_cons, induction rest, List.mem_cons]
          constructor
          · rintro (isHead | isInfo | ⟨later, apart⟩)
            · exact .inr ⟨.inl isHead, fun same => different (isHead ▸ same.symm)⟩
            · exact .inl isInfo
            · exact .inr ⟨.inr later, apart⟩
          · rintro (isInfo | ⟨isHead | later, apart⟩)
            · exact .inr (.inl isInfo)
            · exact .inl isHead
            · exact .inr (.inr ⟨later, apart⟩)

theorem ascending_insertWorker (info : WorkerInfo) (ascending : Ascending known) :
    Ascending (insertWorker info known) := by
  induction known with
  | nil => exact List.pairwise_singleton _ _
  | cons head tail induction =>
      rcases List.pairwise_cons.mp ascending with ⟨above, rest⟩
      rw [insertWorker]
      split
      · rename_i same
        exact List.pairwise_cons.mpr ⟨fun member there => same ▸ above member there, rest⟩
      · rename_i different
        split
        · rename_i before
          refine List.pairwise_cons.mpr ⟨fun member there => ?_, ascending⟩
          rcases List.mem_cons.mp there with rfl | later
          · exact before
          · exact WorkerId.lt_trans before (above member later)
        · rename_i notBefore
          refine List.pairwise_cons.mpr ⟨fun member there => ?_, induction rest⟩
          rcases (mem_insertWorker rest).mp there with rfl | ⟨later, _⟩
          · exact WorkerId.lt_of_not_lt different notBefore
          · exact above member later

/-! ## Calls that record no worker -/

variable {store : Store} {settings : StoreSettings} {id : JobId} {now : Instant}

theorem known_mutate {transition : Job → Outcome α × Job} :
    (store.mutate id transition now).2.known = store.known := by
  rcases store.mutate_cases id transition now with same | ⟨job, same | same⟩ <;> rw [same] <;> rfl

private theorem known_foldl_mark (marked : List Job) :
    (marked.foldl (fun store job => store.mark job.id now) store).known = store.known := by
  induction marked generalizing store with
  | nil => rfl
  | cons head tail induction => exact induction

theorem known_perform {call : StoreCall} (other : ∀ info, call ≠ .recordWorker info) :
    (store.perform settings now call).2.known = store.known := by
  cases addressed : call.addressed? with
  | some target =>
      rcases target with ⟨addressee, jobCall⟩
      rw [perform_addressed addressed]
      exact known_mutate
  | none =>
      cases call <;> simp only [StoreCall.addressed?, reduceCtorEq] at addressed
      case recordWorker info => exact absurd rfl (other info)
      case create id target payload =>
        simp only [perform, create]
        split <;> rfl
      case acknowledge number =>
        simp only [perform, acknowledge]
        split <;> rfl
      case staleQueued olderThan limit =>
        simp only [perform, staleQueued]
        split
        · rfl
        · exact known_foldl_mark _
      all_goals rfl

end Store

/-! ## Courses -/

/-- The worker that the operation records under this identity. -/
def Operation.recorded? (id : WorkerId) (operation : Operation) : Option WorkerInfo :=
  match operation.call with
  | .recordWorker info =>
    if info.id = id then some { info with lastSeen := operation.now } else none
  | _ => none

/-- The worker of this identity as it was last recorded. -/
def Store.lastRecord? (id : WorkerId) (history : List Operation) : Option WorkerInfo :=
  (history.filterMap (Operation.recorded? id)).getLast?

namespace Store

variable {settings : StoreSettings} {history : List Operation} {last : Store}

theorem lastRecord?_snoc (id : WorkerId) (history : List Operation) (operation : Operation) :
    lastRecord? id (history ++ [operation]) =
      (operation.recorded? id).or (lastRecord? id history) := by
  unfold lastRecord?
  rw [Operation.filterMap_snoc]
  cases operation.recorded? id <;> simp

theorem Course.ascending (course : Course settings .empty history last) :
    Ascending last.known := by
  induction course with
  | start => exact .nil
  | @step history operation course fresh induction =>
      rcases operation with ⟨before, now, call⟩
      by_cases records : ∃ info, call = .recordWorker info
      · rcases records with ⟨info, rfl⟩
        exact ascending_insertWorker _ induction
      · have same : (before.perform settings now call).2.known = before.known :=
          known_perform fun info isRecord => records ⟨info, isRecord⟩
        exact same ▸ induction

/-- The store knows the workers as they were last recorded. -/
theorem Course.mem_known_iff (course : Course settings .empty history last) (info : WorkerInfo) :
    info ∈ last.known ↔ lastRecord? info.id history = some info := by
  induction course with
  | start => exact ⟨nofun, nofun⟩
  | @step history operation course fresh induction =>
      rw [lastRecord?_snoc]
      have ascending := course.ascending
      rcases operation with ⟨before, now, call⟩
      by_cases records : ∃ info, call = .recordWorker info
      · rcases records with ⟨recorded, rfl⟩
        refine (mem_insertWorker ascending).trans ?_
        rw [induction]
        by_cases same : recorded.id = info.id
        · have noted : Operation.recorded? info.id ⟨before, now, .recordWorker recorded⟩ =
            some { recorded with lastSeen := now } := if_pos same
          rw [noted, Option.some_or, Option.some.injEq]
          exact ⟨fun known => (known.resolve_right fun earlier => earlier.2 same.symm).symm,
            fun isInfo => .inl isInfo.symm⟩
        · have passed : Operation.recorded? info.id ⟨before, now, .recordWorker recorded⟩ = none :=
            if_neg same
          rw [passed, Option.none_or]
          constructor
          · rintro (rfl | ⟨earlier, _⟩)
            · exact absurd rfl same
            · exact earlier
          · exact fun earlier => .inr ⟨earlier, fun isOther => same isOther.symm⟩
      · have unchanged : (before.perform settings now call).2.known = before.known :=
          known_perform fun info isRecord => records ⟨info, isRecord⟩
        have passed : Operation.recorded? info.id ⟨before, now, call⟩ = none := by
          cases call with
          | recordWorker recorded => exact absurd ⟨recorded, rfl⟩ records
          | _ => rfl
        rw [passed, Option.none_or, ← induction]
        exact iff_of_eq (congrArg (info ∈ ·) unchanged)

end Store

end BuildFleet
