import BuildFleet.Proofs.Target.Registry
import Mathlib.Data.List.Sort

/-!
# Expansion is a union

Where a name tells one thing, what a list of names expands to is decided by the set of
targets that the names stand for: it is the list of that set, in ascending order, and
there is none if a name is unknown or the set is empty. The order of the names, their
repetition, and groups in the place of their members leave that set as it is.
-/

namespace BuildFleet

namespace Target

instance : Std.Irrefl (α := Target) (· < ·) := ⟨fun target => String.lt_irrefl target.name⟩

instance : Std.Antisymm (α := Target) (· < ·) where
  antisymm _ _ before after := absurd (String.lt_trans before after) (String.lt_irrefl _)

end Target

namespace TargetRegistry

variable {registry : TargetRegistry} {name : String} {names others : List String}
  {targets expanded : List Target} {target : Target}

/-! ## What names stand for -/

/-- The name is that of a target or of a group. -/
def Knows (registry : TargetRegistry) (name : String) : Prop :=
  ⟨name⟩ ∈ registry.targets ∨ ∃ members, (name, members) ∈ registry.groups

/-- The name is that of the target, or of a group that has it as a member. -/
def StandsFor (registry : TargetRegistry) (name : String) (target : Target) : Prop :=
  (target ∈ registry.targets ∧ target.name = name) ∨
    ∃ members, (name, members) ∈ registry.groups ∧ target ∈ members

/-- The union of what the names stand for has this target. -/
def Covers (registry : TargetRegistry) (names : List String) (target : Target) : Prop :=
  ∃ name ∈ names, registry.StandsFor name target

/-- Every name tells one thing, and the members of groups are targets. -/
structure Unambiguous (registry : TargetRegistry) : Prop where
  distinct : (registry.groups.map (·.1)).Nodup
  apart : ∀ group ∈ registry.groups, ⟨group.1⟩ ∉ registry.targets
  closed : ∀ group ∈ registry.groups, ∀ member ∈ group.2, member ∈ registry.targets

theorem lookup_eq_some_iff_mem (distinct : (registry.groups.map (·.1)).Nodup) :
    registry.groups.lookup name = some targets ↔ (name, targets) ∈ registry.groups := by
  generalize registry.groups = groups at distinct
  induction groups with
  | nil => simp
  | cons group rest induction =>
      rcases group with ⟨first, members⟩
      rcases List.nodup_cons.mp distinct with ⟨new, distinctRest⟩
      by_cases same : name = first
      · subst same
        have absent : (name, targets) ∉ rest := fun member =>
          new (List.mem_map_of_mem (f := (·.1)) member)
        simp [absent, eq_comm]
      · rw [List.lookup_cons, beq_eq_false_iff_ne.mpr same, induction distinctRest]
        simp [same]

theorem lookup_eq_none_iff_absent : registry.groups.lookup name = none ↔
    ∀ members, (name, members) ∉ registry.groups := by
  rw [List.lookup_eq_none_iff]
  constructor
  · exact fun absent members member => absurd (absent _ member) (by simp)
  · rintro absent ⟨other, members⟩ member
    rw [bne_iff_ne]
    rintro rfl
    exact absent members member

theorem resolve_eq_ok (known : target ∈ registry.targets) :
    registry.resolve target.name = .ok target := if_pos (contains_iff.mpr known)

theorem resolve_eq_error (unknown : ⟨name⟩ ∉ registry.targets) :
    registry.resolve name = .error (.invalidTarget name) := if_neg (mt contains_iff.mp unknown)

namespace Unambiguous

/-- What a name stands for is found exactly if the name is known. -/
theorem members_cases (clear : registry.Unambiguous) (name : String) :
    (registry.Knows name ∧ ∃ members, registry.members name = .ok members ∧
        ∀ target, target ∈ members ↔ registry.StandsFor name target) ∨
      ¬ registry.Knows name ∧ registry.members name = .error (.invalidTarget name) := by
  unfold members Knows StandsFor
  cases found : registry.groups.lookup name with
  | some members =>
      have grouped := (lookup_eq_some_iff_mem clear.distinct).mp found
      refine .inl ⟨.inr ⟨members, grouped⟩, members, rfl, fun target => ?_⟩
      constructor
      · exact fun member => .inr ⟨members, grouped, member⟩
      · rintro (⟨known, rfl⟩ | ⟨same, sameGroup, member⟩)
        · exact absurd known (clear.apart _ grouped)
        · have unique := (lookup_eq_some_iff_mem clear.distinct).mpr sameGroup
          cases found.symm.trans unique
          exact member
  | none =>
      have noGroup := lookup_eq_none_iff_absent.mp found
      by_cases known : ⟨name⟩ ∈ registry.targets
      · refine .inl ⟨.inl known, [⟨name⟩], ?_, fun target => ?_⟩
        · rw [show registry.resolve name = .ok ⟨name⟩ from resolve_eq_ok known]
          rfl
        · constructor
          · intro same
            cases List.mem_singleton.mp same
            exact .inl ⟨known, rfl⟩
          · rintro (⟨_, rfl⟩ | ⟨members, grouped, _⟩)
            · exact List.mem_singleton_self _
            · exact absurd grouped (noGroup members)
      · refine .inr ⟨?_, by rw [resolve_eq_error known]; rfl⟩
        rintro (isTarget | ⟨members, grouped⟩)
        · exact known isTarget
        · exact noGroup members grouped

theorem knows_of_members (clear : registry.Unambiguous)
    (found : registry.members name = .ok targets) : registry.Knows name ∧
      ∀ target, target ∈ targets ↔ registry.StandsFor name target := by
  rcases clear.members_cases name with ⟨known, members, same, stands⟩ | ⟨_, fails⟩
  · cases found.symm.trans same
    exact ⟨known, stands⟩
  · cases found.symm.trans fails

end Unambiguous

/-! ## Expansion -/

namespace Unambiguous

theorem of_expandInto (clear : registry.Unambiguous)
    (done : registry.expandInto expanded names = .ok targets) :
    (∀ name ∈ names, registry.Knows name) ∧
      ∀ target, target ∈ targets ↔ target ∈ expanded ∨ registry.Covers names target := by
  induction names generalizing expanded with
  | nil =>
      cases done
      simp [Covers]
  | cons name rest induction =>
      rcases parts_of_ok done with ⟨members, found, continued⟩
      rcases clear.knows_of_members found with ⟨known, stands⟩
      rcases induction continued with ⟨knownRest, union⟩
      refine ⟨List.forall_mem_cons.mpr ⟨known, knownRest⟩, fun target => ?_⟩
      rw [union, Ordered.mem_foldl_insert, stands]
      simp only [Covers, List.mem_cons, exists_eq_or_imp]
      tauto

theorem expandInto_of_known (clear : registry.Unambiguous)
    (known : ∀ name ∈ names, registry.Knows name) (expanded : List Target) :
    ∃ targets, registry.expandInto expanded names = .ok targets := by
  induction names generalizing expanded with
  | nil => exact ⟨expanded, rfl⟩
  | cons name rest induction =>
      rcases List.forall_mem_cons.mp known with ⟨knownFirst, knownRest⟩
      rcases clear.members_cases name with ⟨_, members, found, _⟩ | ⟨unknown, _⟩
      · rw [expandInto, found]
        exact induction knownRest _
      · exact absurd knownFirst unknown

/-- Names that are known expand to the targets that they stand for, if there are any. -/
theorem expand_iff (clear : registry.Unambiguous) : registry.expand names = .ok targets ↔
    (∀ name ∈ names, registry.Knows name) ∧ targets ≠ [] ∧ targets.Pairwise (· < ·) ∧
      ∀ target, target ∈ targets ↔ registry.Covers names target := by
  rw [expand_eq_ok_iff]
  constructor
  · rintro ⟨expands, some⟩
    rcases clear.of_expandInto expands with ⟨known, union⟩
    exact ⟨known, some, ascending_of_expandInto .nil expands, by simpa using union⟩
  · rintro ⟨known, some, ascending, union⟩
    rcases clear.expandInto_of_known known [] with ⟨listed, expands⟩
    have listedUnion := (clear.of_expandInto expands).2
    have same : listed = targets := by
      refine (ascending_of_expandInto .nil expands).eq_of_mem_iff ascending fun target => ?_
      rw [listedUnion, union]
      simp
    exact ⟨same ▸ expands, some⟩

/-- There is an expansion unless a name is unknown or the names stand for no target. -/
theorem expands_iff (clear : registry.Unambiguous) :
    (∃ targets, registry.expand names = .ok targets) ↔
      (∀ name ∈ names, registry.Knows name) ∧ ∃ target, registry.Covers names target := by
  constructor
  · rintro ⟨targets, expands⟩
    rcases clear.expand_iff.mp expands with ⟨known, some, _, union⟩
    rcases List.exists_mem_of_ne_nil targets some with ⟨target, member⟩
    exact ⟨known, target, (union target).mp member⟩
  · rintro ⟨known, target, covered⟩
    rcases clear.expandInto_of_known known [] with ⟨targets, expands⟩
    have member := ((clear.of_expandInto expands).2 target).mpr (.inr covered)
    exact ⟨targets, expand_eq_ok_iff.mpr ⟨expands, List.ne_nil_of_mem member⟩⟩

/-- The expansion depends on what the names stand for alone. -/
theorem expand_congr (clear : registry.Unambiguous)
    (known : (∀ name ∈ names, registry.Knows name) ↔ ∀ name ∈ others, registry.Knows name)
    (union : ∀ target, registry.Covers names target ↔ registry.Covers others target) :
    (registry.expand names).toOption = (registry.expand others).toOption := by
  have same : ∀ targets, registry.expand names = .ok targets ↔
      registry.expand others = .ok targets := by
    intro targets
    rw [clear.expand_iff, clear.expand_iff, known]
    simp only [union]
  cases first : registry.expand names with
  | ok targets => rw [(same targets).mp first]
  | error failure =>
      cases second : registry.expand others with
      | ok targets => cases first.symm.trans ((same targets).mpr second)
      | error _ => rfl

theorem expand_congr_mem (clear : registry.Unambiguous)
    (same : ∀ name, name ∈ names ↔ name ∈ others) :
    (registry.expand names).toOption = (registry.expand others).toOption :=
  clear.expand_congr (by simp only [same]) fun target => by simp only [Covers, same]

/-- The name of a target stands for that target alone. -/
theorem standsFor_name (clear : registry.Unambiguous) {member : Target}
    (known : member ∈ registry.targets) :
    registry.StandsFor member.name target ↔ target = member := by
  constructor
  · rintro (⟨_, sameName⟩ | ⟨members, grouped, _⟩)
    · exact Target.ext_name sameName
    · exact absurd known (clear.apart _ grouped)
  · rintro rfl
    exact .inl ⟨known, rfl⟩

theorem covers_map_name (clear : registry.Unambiguous) (known : targets ⊆ registry.targets) :
    registry.Covers (targets.map (·.name)) target ↔ target ∈ targets := by
  unfold Covers
  constructor
  · rintro ⟨_, named, stands⟩
    rcases List.mem_map.mp named with ⟨member, there, rfl⟩
    exact (clear.standsFor_name (known there)).mp stands ▸ there
  · exact fun member =>
      ⟨target.name, List.mem_map_of_mem member, .inl ⟨known member, rfl⟩⟩

theorem standsFor_group (clear : registry.Unambiguous) {members : List Target}
    (grouped : (name, members) ∈ registry.groups) :
    registry.StandsFor name target ↔ target ∈ members := by
  have found : registry.members name = .ok members := by
    rw [TargetRegistry.members, (lookup_eq_some_iff_mem clear.distinct).mpr grouped]
  exact ((clear.knows_of_members found).2 target).symm

/-- Every target that is covered is one of the registry. -/
theorem mem_of_covers (clear : registry.Unambiguous) (covered : registry.Covers names target) :
    target ∈ registry.targets := by
  rcases covered with ⟨name, _, ⟨known, _⟩ | ⟨members, grouped, member⟩⟩
  · exact known
  · exact clear.closed _ grouped target member

/-- A group may stand in the place of its members. -/
theorem expand_replace (clear : registry.Unambiguous) {members : List Target}
    (grouped : (name, members) ∈ registry.groups) (before after : List String) :
    (registry.expand (before ++ name :: after)).toOption =
      (registry.expand (before ++ members.map (·.name) ++ after)).toOption := by
  have memberKnown : ∀ member ∈ members, registry.Knows member.name := fun member there =>
    .inl (clear.closed _ grouped member there)
  have nameKnown : registry.Knows name := .inr ⟨members, grouped⟩
  have stands : ∀ target, registry.StandsFor name target ↔
      registry.Covers (members.map (·.name)) target := fun target =>
    (clear.standsFor_group grouped).trans (clear.covers_map_name (clear.closed _ grouped)).symm
  apply clear.expand_congr
  · simp only [List.forall_mem_append, List.forall_mem_cons, List.forall_mem_map]
    exact ⟨fun ⟨first, _, last⟩ => ⟨⟨first, memberKnown⟩, last⟩,
      fun ⟨⟨first, _⟩, last⟩ => ⟨first, nameKnown, last⟩⟩
  · intro target
    have split : ∀ left right, registry.Covers (left ++ right) target ↔
        registry.Covers left target ∨ registry.Covers right target := fun left right => by
      simp only [Covers, List.mem_append, or_and_right, exists_or]
    rw [split, split, split, ← stands, or_assoc]
    simp [Covers]

/-- What has been expanded expands to itself. -/
theorem expand_idempotent (clear : registry.Unambiguous)
    (expands : registry.expand names = .ok targets) :
    registry.expand (targets.map (·.name)) = .ok targets := by
  rcases clear.expand_iff.mp expands with ⟨_, some, ascending, union⟩
  have known : targets ⊆ registry.targets := fun target member =>
    clear.mem_of_covers ((union target).mp member)
  refine clear.expand_iff.mpr ⟨?_, some, ascending, fun target => ?_⟩
  · exact List.forall_mem_map.mpr fun target member => .inl (known member)
  · exact (clear.covers_map_name known).symm

end Unambiguous

end TargetRegistry

end BuildFleet
