import BuildFleet.Target.Registry
import Mathlib.Data.List.Perm.Subperm

/-!
# What names stand for

A registry is built from names of targets and from groups that are checked one by
one, so every member of a group is a target. What a list of names expands to is
therefore a set of targets of the registry.
-/

namespace BuildFleet

/-- What succeeds has succeeded part by part. -/
theorem parts_of_ok {ε α β : Type} {first : Except ε α} {next : α → Except ε β} {result : β}
    (done : (first >>= next) = .ok result) :
    ∃ value, first = .ok value ∧ next value = .ok result := by
  cases first with
  | error fault => cases done
  | ok value => exact ⟨value, rfl, done⟩

/-! ## Sorted lists -/

namespace Ordered

section Sets

variable {α : Type} [LT α] [DecidableEq α] [DecidableLT α] {value other : α}
  {values set : List α}

@[simp] theorem mem_insert : other ∈ insert value set ↔ other = value ∨ other ∈ set := by
  induction set with
  | nil => simp [insert]
  | cons head tail induction =>
      simp only [insert]
      split
      · rename_i same
        simp [same]
      · split <;> simp [induction, or_left_comm]

@[simp] theorem mem_foldl_insert :
    other ∈ values.foldl (fun set value => insert value set) set ↔
      other ∈ values ∨ other ∈ set := by
  induction values generalizing set with
  | nil => simp
  | cons head tail induction => simp [induction, or_assoc, or_left_comm]

@[simp] theorem mem_ofList : other ∈ ofList values ↔ other ∈ values := by
  simp [ofList]

variable [Trans (α := α) (· < ·) (· < ·) (· < ·)] [Std.Trichotomous (α := α) (· < ·)]

theorem pairwise_insert (value : α) (ascending : set.Pairwise (· < ·)) :
    (insert value set).Pairwise (· < ·) := by
  induction set with
  | nil => exact List.pairwise_singleton _ _
  | cons head tail induction =>
      rcases List.pairwise_cons.mp ascending with ⟨first, rest⟩
      simp only [insert]
      split
      · exact ascending
      · rename_i different
        split
        · rename_i before
          refine List.pairwise_cons.mpr ⟨fun later member => ?_, ascending⟩
          rcases List.mem_cons.mp member with rfl | inTail
          · exact before
          · exact Trans.trans before (first later inTail)
        · rename_i notBefore
          have after : head < value :=
            (Std.Trichotomous.rel_or_eq_or_rel_swap.resolve_left notBefore).resolve_left different
          refine List.pairwise_cons.mpr ⟨fun later member => ?_, induction rest⟩
          rcases mem_insert.mp member with rfl | inTail
          · exact after
          · exact first later inTail

theorem pairwise_foldl_insert (values : List α) (ascending : set.Pairwise (· < ·)) :
    (values.foldl (fun set value => insert value set) set).Pairwise (· < ·) := by
  induction values generalizing set with
  | nil => exact ascending
  | cons head tail induction => exact induction (pairwise_insert head ascending)

theorem pairwise_ofList (values : List α) : (ofList values).Pairwise (· < ·) :=
  pairwise_foldl_insert values .nil

end Sets

section Dictionaries

variable {κ β : Type} [LT κ] [DecidableEq κ] [DecidableLT κ]

/-- The keys of a dictionary are a set that grows by the key. -/
theorem map_fst_put (key : κ) (value : β) (entries : List (κ × β)) :
    (put key value entries).map (·.1) = insert key (entries.map (·.1)) := by
  induction entries with
  | nil => rfl
  | cons head tail induction =>
      simp only [put, insert, List.map_cons]
      split
      · rename_i same
        simp [same]
      · split <;> simp [induction]

theorem mem_put {key : κ} {value : β} {entries : List (κ × β)} {entry : κ × β}
    (member : entry ∈ put key value entries) : entry = (key, value) ∨ entry ∈ entries := by
  induction entries with
  | nil => exact .inl (List.mem_singleton.mp member)
  | cons head tail induction =>
      simp only [put] at member
      split at member
      · rcases List.mem_cons.mp member with equal | inTail
        · exact .inl equal
        · exact .inr (List.mem_cons_of_mem _ inTail)
      · split at member
        · exact List.mem_cons.mp member
        · rcases List.mem_cons.mp member with equal | inTail
          · exact .inr (equal ▸ List.mem_cons_self)
          · exact (induction inTail).imp_right (List.mem_cons_of_mem _)

/-- A new key leaves all other entries as they are. -/
theorem mem_put_new {key : κ} {value : β} {entries : List (κ × β)} {entry : κ × β}
    (new : ∀ entry ∈ entries, entry.1 ≠ key) :
    entry ∈ put key value entries ↔ entry = (key, value) ∨ entry ∈ entries := by
  induction entries with
  | nil => simp [put]
  | cons head tail induction =>
      rcases head with ⟨first, current⟩
      have other : key ≠ first := fun same => new _ List.mem_cons_self same.symm
      have rest := induction fun entry member => new entry (List.mem_cons_of_mem _ member)
      simp only [put, if_neg other]
      split <;> simp [rest, or_left_comm]

end Dictionaries

end Ordered

namespace Target

theorem ext_name {left right : Target} (same : left.name = right.name) : left = right := by
  cases left
  cases right
  exact congrArg mk same

instance : Trans (α := Target) (· < ·) (· < ·) (· < ·) := ⟨String.lt_trans⟩

instance : Std.Trichotomous (α := Target) (· < ·) where
  trichotomous _ _ notBefore notAfter :=
    ext_name (Std.Trichotomous.trichotomous (r := (· < ·)) _ _ notBefore notAfter)

theorem ne_of_lt {left right : Target} (before : left < right) : left ≠ right := by
  rintro rfl
  exact String.lt_irrefl _ before

end Target

/-! ## Registries -/

namespace TargetRegistry

variable {registry later : TargetRegistry} {name : String} {names : List String}
  {targets : List Target} {target : Target}

/-- The registries that there can be: names of targets, then groups that were checked. -/
inductive Built : TargetRegistry → Prop
  | ofNames (names : List String) : Built (ofNames names)
  | addGroup {registry later : TargetRegistry} {name : String} {members : List String}
      (built : Built registry) (added : registry.addGroup name members = .ok later) : Built later

theorem contains_iff : registry.contains target = true ↔ target ∈ registry.targets :=
  List.contains_iff_mem

@[simp] theorem mem_targets_ofNames :
    target ∈ (ofNames names).targets ↔ target.name ∈ names := by
  simp only [ofNames, Ordered.mem_ofList, List.mem_map]
  constructor
  · rintro ⟨name, member, rfl⟩
    exact member
  · exact fun member => ⟨target.name, member, rfl⟩

/-- A group that was added has targets of the registry as its members. -/
theorem of_addGroup {members : List String} (added : registry.addGroup name members = .ok later) :
    (∀ member ∈ members, ⟨member⟩ ∈ registry.targets) ∧
      later =
        { registry with groups := Ordered.put name (members.map Target.mk) registry.groups } := by
  unfold addGroup at added
  dsimp only at added
  split at added
  · cases added
  · rename_i known
    refine ⟨fun member there => ?_, (Except.ok.inj added).symm⟩
    have contained := List.find?_eq_none.mp known ⟨member⟩ (List.mem_map_of_mem there)
    exact contains_iff.mp (by simpa using contained)

namespace Built

theorem ascending (built : registry.Built) : registry.targets.Pairwise (· < ·) := by
  induction built with
  | ofNames names => exact Ordered.pairwise_ofList _
  | addGroup built added induction =>
      rw [(of_addGroup added).2]
      exact induction

/-- Every member of every group is a target. -/
theorem closed (built : registry.Built) :
    ∀ group ∈ registry.groups, ∀ member ∈ group.2, member ∈ registry.targets := by
  induction built with
  | ofNames names => exact fun group member => nomatch member
  | addGroup built added induction =>
      rcases of_addGroup added with ⟨known, rfl⟩
      intro group there member inGroup
      rcases Ordered.mem_put there with rfl | before
      · rcases List.mem_map.mp inGroup with ⟨name, named, rfl⟩
        exact known name named
      · exact induction group before member inGroup

theorem groups_ascending (built : registry.Built) :
    (registry.groups.map (·.1)).Pairwise (· < ·) := by
  induction built with
  | ofNames names => exact .nil
  | addGroup built added induction =>
      rw [(of_addGroup added).2, Ordered.map_fst_put]
      exact Ordered.pairwise_insert _ induction

theorem mem_of_members (built : registry.Built) (stands : registry.members name = .ok targets) :
    ∀ target ∈ targets, target ∈ registry.targets := by
  unfold members at stands
  split at stands
  · rename_i group found
    cases stands
    rcases List.lookup_eq_some_iff.mp found with ⟨before, after, whole, _⟩
    exact built.closed (name, targets) (by simp [whole])
  · unfold resolve at stands
    split at stands
    · rename_i contained
      cases stands
      exact fun target member => List.mem_singleton.mp member ▸ contains_iff.mp contained
    · cases stands

end Built

/-! ## Expansion -/

theorem ascending_of_expandInto (ascending : expanded.Pairwise (· < ·))
    (done : registry.expandInto expanded names = .ok targets) : targets.Pairwise (· < ·) := by
  induction names generalizing expanded with
  | nil =>
      cases done
      exact ascending
  | cons name rest induction =>
      rcases parts_of_ok done with ⟨members, _, continued⟩
      exact induction (Ordered.pairwise_foldl_insert members ascending) continued

theorem expand_eq_ok_iff : registry.expand names = .ok targets ↔
    registry.expandInto [] names = .ok targets ∧ targets ≠ [] := by
  unfold expand
  constructor
  · intro done
    rcases parts_of_ok done with ⟨expanded, expands, checked⟩
    split at checked
    · cases checked
    · rename_i some
      cases checked
      exact ⟨expands, by simpa using some⟩
  · rintro ⟨expands, some⟩
    rw [expands]
    have filled : ¬ targets.isEmpty = true := by simpa using some
    exact if_neg filled

/-- Whatever the registry is like, an expansion is in ascending order. -/
theorem ascending_of_expand (done : registry.expand names = .ok targets) :
    targets.Pairwise (· < ·) := ascending_of_expandInto .nil (expand_eq_ok_iff.mp done).1

theorem Built.subset_of_expandInto (built : registry.Built) {expanded : List Target}
    (known : expanded ⊆ registry.targets)
    (done : registry.expandInto expanded names = .ok targets) : targets ⊆ registry.targets := by
  induction names generalizing expanded with
  | nil =>
      cases done
      exact known
  | cons name rest induction =>
      rcases parts_of_ok done with ⟨members, stands, continued⟩
      refine induction ?_ continued
      intro target member
      exact (Ordered.mem_foldl_insert.mp member).elim (built.mem_of_members stands target)
        (fun before => known before)

/-- Names expand to a set of targets that the registry contains. -/
theorem Built.expand (built : registry.Built) (done : registry.expand names = .ok targets) :
    targets.Pairwise (· < ·) ∧ targets ⊆ registry.targets :=
  ⟨ascending_of_expand done,
    built.subset_of_expandInto (List.nil_subset _) (expand_eq_ok_iff.mp done).1⟩

/-- A set of targets of the registry is no longer than all of them. -/
theorem length_le (ascending : targets.Pairwise (· < ·)) (known : targets ⊆ registry.targets) :
    targets.length ≤ registry.targets.length := by
  have distinct : targets.Nodup := ascending.imp fun before same => Target.ne_of_lt before same
  exact (List.subperm_of_subset distinct known).length_le

end TargetRegistry

end BuildFleet
