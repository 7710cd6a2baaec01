import BuildFleet.Proofs.Settings.Soundness
import BuildFleet.Proofs.Target.Expansion
import BuildFleet.Store.Basic

/-!
# Names in accepted settings

The settings that are accepted give no group the name of a target or of another group,
and every member of a group is a target. So names expand to the union of what they stand
for, and the store makes jobs for all of it.
-/

namespace BuildFleet

namespace Settings

variable {text : String} {settings : Settings}

theorem Sound.unambiguous {document : Kdl.Document} (sound : settings.Sound document) :
    settings.targets.Unambiguous where
  distinct := by
    refine sound.groupsAscending.imp ?_
    rintro name _ before rfl
    exact String.lt_irrefl name before
  apart := by
    intro entry member known
    rcases (sound.groups entry).mp member with ⟨group, declared, rfl⟩
    exact sound.groupsApart group declared ((sound.targets _).mp known)
  closed := by
    intro entry member target inGroup
    rcases (sound.groups entry).mp member with ⟨group, declared, rfl⟩
    rcases List.mem_map.mp inGroup with ⟨name, named, rfl⟩
    exact (sound.targets _).mpr (sound.groupMembers group declared name named)

theorem unambiguous_of_accepted (accepted : ofText text = .ok settings) :
    settings.targets.Unambiguous := by
  rcases sound_of_ofText accepted with ⟨document, sound⟩
  exact sound.unambiguous

theorem create_accepts {registry : TargetRegistry} {target : Target}
    (known : target ∈ registry.targets) (attempts : Nat) (store : Store) (id : JobId)
    (payload : Json) (now : Instant) :
    (Store.create ⟨registry, attempts⟩ store id target payload now).1 = .done id := by
  have accepted : registry.contains target = true := TargetRegistry.contains_iff.mpr known
  simp only [Store.create, accepted, if_true]

/-- With settings that are accepted, names expand to the union of what they stand for, in
ascending order. There is no expansion if one of the names is neither a target's nor a
group's, or if they stand for no target. Each target of the expansion can be resolved and has
jobs made for it, and the expansion expands to itself. Which names there are counts, not in
which order or how often, and a group, with or without members, is as good as its members. -/
theorem expansion_is_union (accepted : ofText text = .ok settings) (names : List String) :
    let registry := settings.targets
    ((∃ failure, registry.expand names = .error failure) ↔
      (∃ name ∈ names, ¬ registry.Knows name) ∨ ∀ target, ¬ registry.Covers names target) ∧
    (∀ targets, registry.expand names = .ok targets →
      targets.Pairwise (· < ·) ∧ (∀ target, target ∈ targets ↔ registry.Covers names target) ∧
      (∀ target ∈ targets, registry.resolve target.name = .ok target ∧
        ∀ attempts store id payload now,
          (Store.create ⟨registry, attempts⟩ store id target payload now).1 = .done id) ∧
      registry.expand (targets.map (·.name)) = .ok targets) ∧
    (∀ others : List String, (∀ name, name ∈ others ↔ name ∈ names) →
      (registry.expand others).toOption = (registry.expand names).toOption) ∧
    ∀ before group members after, (group, members) ∈ registry.groups →
      names = before ++ group :: after →
      (registry.expand (before ++ members.map (·.name) ++ after)).toOption =
        (registry.expand names).toOption := by
  intro registry
  have clear : registry.Unambiguous := unambiguous_of_accepted accepted
  refine ⟨?_, ?_, fun others same => clear.expand_congr_mem same, ?_⟩
  · have fails : (∃ failure, registry.expand names = .error failure) ↔
        ¬ ∃ targets, registry.expand names = .ok targets := by
      cases registry.expand names <;> simp
    rw [fails, clear.expands_iff, not_and_or, not_exists]
    simp only [not_forall, exists_prop]
  · intro targets expands
    rcases clear.expand_iff.mp expands with ⟨_, _, ascending, union⟩
    refine ⟨ascending, union, fun target member => ?_, clear.expand_idempotent expands⟩
    have known := clear.mem_of_covers ((union target).mp member)
    exact ⟨TargetRegistry.resolve_eq_ok known, create_accepts known⟩
  · rintro before group members after grouped rfl
    exact (clear.expand_replace grouped before after).symm

end Settings

theorem Settings.sample_expansion :
    let registry := Sample.acceptedSettings.targets
    ofText Sample.settingsText = .ok Sample.acceptedSettings ∧
      registry.expand ["arm64", "all"] = .ok [⟨"amd64"⟩, ⟨"arm64"⟩] ∧
      registry.expand ["amd64", "arm64"] = .ok [⟨"amd64"⟩, ⟨"arm64"⟩] ∧
      (registry.expand ["all", "arm64", "all"]).toOption =
        (registry.expand ["arm64", "all"]).toOption ∧
      ∃ failure, registry.expand ["arm64", "mips"] = .error failure := by
  intro registry
  have expands : registry.expand ["arm64", "all"] = .ok [⟨"amd64"⟩, ⟨"arm64"⟩] := by rfl
  rcases expansion_is_union Sample.settingsText_accepted ["arm64", "all"] with
    ⟨_, listed, sameNames, _⟩
  rcases expansion_is_union Sample.settingsText_accepted ["arm64", "mips"] with ⟨fails, _⟩
  exact ⟨Sample.settingsText_accepted, expands, (listed _ expands).2.2.2,
    sameNames ["all", "arm64", "all"] (by simp),
    fails.mpr (.inl ⟨"mips", by simp, by simp [TargetRegistry.Knows, Sample.acceptedSettings]⟩)⟩

end BuildFleet
