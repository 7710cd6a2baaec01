import BuildFleet.Proofs.Settings.Nodes
import BuildFleet.Proofs.Time.Spans

/-!
# Settings that are accepted

Whatever nodes a document has, in whatever order and however often: if it is accepted,
leases are renewed before they end, names of targets and groups tell one thing each,
and the worker has a target to serve and something to run.
-/

namespace BuildFleet

/-- A heartbeat comes before the lease ends, and jobs are attempted and looked after. -/
structure LeaseSettings.Sound (lease : LeaseSettings) : Prop where
  heartbeat : .zero < lease.heartbeat
  shorter : lease.heartbeat < lease.duration
  attempts : 1 ≤ lease.maxAttempts
  scanInterval : .zero < lease.scanInterval

/-- There is something to run: a command, or an image that the node names. -/
def EnvironmentSettings.GivenBy (node : Kdl.Node) : EnvironmentSettings → Prop
  | process command _ => command ≠ []
  | docker image _ => ∃ child ∈ Settings.childrenOf node "image",
      Settings.firstString? child = some image

namespace Settings

open Kdl (Node)

variable {node : Node} {targets : List String} {groups : List (String × List String)}
  {registry : TargetRegistry}

/-! ## Leases -/

theorem sound_of_checkLease {lease : LeaseSettings} (passes : checkLease lease = .ok ()) :
    lease.Sound := by
  unfold checkLease at passes
  split at passes
  · cases passes
  · split at passes
    · cases passes
    · rename_i renewed
      rcases not_or.mp renewed with ⟨beats, notLonger⟩
      split at passes
      · cases passes
      · rename_i attempted
        split at passes
        · cases passes
        · rename_i scans
          exact ⟨Span.zero_lt_iff.mpr beats, Nat.lt_of_not_le notLonger,
            Nat.one_le_iff_ne_zero.mpr attempted, Span.zero_lt_iff.mpr scans⟩

/-! ## Names of targets -/

/-- A lower-case letter or a digit. -/
def StartsName (character : Char) : Prop :=
  ('a' ≤ character ∧ character ≤ 'z') ∨ ('0' ≤ character ∧ character ≤ '9')

/-- Lower-case letters, digits, underscores and hyphens, the first one a letter or a digit. -/
def NameForm (name : String) : Prop :=
  ∃ first rest, name.toList = first :: rest ∧ StartsName first ∧
    ∀ character ∈ rest, StartsName character ∨ character = '_' ∨ character = '-'

theorem isNameStart_iff {character : Char} :
    isNameStart character = true ↔ StartsName character := by
  have lower : character.isLower = true ↔ 'a' ≤ character ∧ character ≤ 'z' :=
    Bool.and_eq_true_iff.trans (and_congr decide_eq_true_iff decide_eq_true_iff)
  have digit : character.isDigit = true ↔ '0' ≤ character ∧ character ≤ '9' :=
    Bool.and_eq_true_iff.trans (and_congr decide_eq_true_iff decide_eq_true_iff)
  rw [isNameStart, Bool.or_eq_true, lower, digit, StartsName]

theorem isTargetName_iff {name : String} : isTargetName name = true ↔ NameForm name := by
  unfold isTargetName NameForm
  cases name.toList with
  | nil => simp
  | cons first rest =>
      simp [isNameCharacter, isNameStart_iff, or_assoc]

/-! ## The registry -/

section Groups

variable {name : String} {members seen : List String} {rest : List (String × List String)}
  {last : TargetRegistry}

theorem of_addGroups_cons
    (done : addGroups targets seen registry ((name, members) :: rest) = .ok last) :
    name ∉ seen ∧ name ∉ targets ∧ ∃ next, registry.addGroup name members = .ok next ∧
      addGroups targets (name :: seen) next rest = .ok last := by
  rw [addGroups] at done
  split at done
  · cases done
  · rename_i unused
    simp only [Bool.or_eq_true, List.contains_iff_mem, not_or] at unused
    split at done
    · rename_i next added
      exact ⟨unused.1, unused.2, next, added, done⟩
    · cases done

theorem names_of_addGroups (done : addGroups targets seen registry groups = .ok last) :
    (groups.map (·.1)).Nodup ∧ ∀ group ∈ groups, group.1 ∉ seen ∧ group.1 ∉ targets := by
  induction groups generalizing seen registry with
  | nil => exact ⟨.nil, nofun⟩
  | cons group rest induction =>
      rcases of_addGroups_cons done with ⟨new, noTarget, next, _, others⟩
      rcases induction others with ⟨distinct, apart⟩
      constructor
      · apply List.nodup_cons.mpr
        refine ⟨fun repeated => ?_, distinct⟩
        rcases List.mem_map.mp repeated with ⟨other, member, same⟩
        exact (apart other member).1 (same ▸ List.mem_cons_self)
      · intro other member
        rcases List.mem_cons.mp member with rfl | later
        · exact ⟨new, noTarget⟩
        · exact ⟨fun before => (apart other later).1 (List.mem_cons_of_mem _ before),
            (apart other later).2⟩

theorem built_of_addGroups (done : addGroups targets seen registry groups = .ok last)
    (built : registry.Built) : last.Built ∧ last.targets = registry.targets ∧
      ∀ group ∈ groups, ∀ member ∈ group.2, ⟨member⟩ ∈ registry.targets := by
  induction groups generalizing seen registry with
  | nil =>
      cases done
      exact ⟨built, rfl, nofun⟩
  | cons group rest induction =>
      rcases of_addGroups_cons done with ⟨_, _, next, added, others⟩
      rcases induction others (built.addGroup added) with ⟨builtLast, sameTargets, known⟩
      rcases TargetRegistry.of_addGroup added with ⟨knownFirst, rfl⟩
      refine ⟨builtLast, sameTargets, fun other member => ?_⟩
      rcases List.mem_cons.mp member with rfl | later
      · exact knownFirst
      · exact known other later

/-- The names seen so far are those of the groups in the registry, so every group that is
added is a new entry. -/
theorem mem_groups_of_addGroups (done : addGroups targets seen registry groups = .ok last)
    (noted : ∀ entry ∈ registry.groups, entry.1 ∈ seen) (entry : String × List Target) :
    entry ∈ last.groups ↔ entry ∈ registry.groups ∨
      ∃ group ∈ groups, entry = (group.1, group.2.map Target.mk) := by
  induction groups generalizing seen registry with
  | nil =>
      cases done
      simp
  | cons group rest induction =>
      rcases of_addGroups_cons done with ⟨new, _, next, added, others⟩
      rcases TargetRegistry.of_addGroup added with ⟨_, rfl⟩
      have newKey : ∀ entry ∈ registry.groups, entry.1 ≠ group.1 := fun entry member same =>
        new (same ▸ noted entry member)
      have stillNoted : ∀ entry ∈ Ordered.put group.1 (group.2.map Target.mk) registry.groups,
          entry.1 ∈ group.1 :: seen := by
        intro entry member
        rcases (Ordered.mem_put_new newKey).mp member with rfl | before
        · exact List.mem_cons_self
        · exact List.mem_cons_of_mem _ (noted entry before)
      rw [induction others stillNoted, Ordered.mem_put_new newKey]
      simp [or_assoc, or_left_comm]

end Groups

theorem of_buildRegistry (built : buildRegistry targets groups = .ok registry) :
    targets ≠ [] ∧ (∀ name ∈ targets, NameForm name) ∧
      addGroups targets [] (.ofNames targets) groups = .ok registry := by
  unfold buildRegistry at built
  split at built
  · cases built
  · rename_i some
    split at built
    · cases built
    · rename_i valid
      refine ⟨fun none => some (by simp [none]), fun name member => ?_, built⟩
      have accepted := List.find?_eq_none.mp valid name member
      exact isTargetName_iff.mp (by simpa using accepted)

/-! ## The worker -/

theorem eq_some_of_require {α : Type} {value : Option α} {result : α} {setting : String}
    (there : require value setting = .ok result) : value = some result := by
  cases value with
  | none => cases there
  | some value => exact congrArg some (Except.ok.inj there)

theorem mem_of_mapM_ok {ε α β : Type} {read : α → Except ε β} {values : List α}
    {results : List β} (done : values.mapM read = .ok results) {result : β}
    (member : result ∈ results) : ∃ value ∈ values, read value = .ok result := by
  induction values generalizing results with
  | nil =>
      cases done
      cases member
  | cons first rest induction =>
      rw [List.mapM_cons] at done
      rcases parts_of_ok done with ⟨head, readFirst, others⟩
      rcases parts_of_ok others with ⟨tail, readRest, made⟩
      cases made
      rcases List.mem_cons.mp member with rfl | later
      · exact ⟨first, List.mem_cons_self, readFirst⟩
      · rcases induction readRest later with ⟨value, inRest, read⟩
        exact ⟨value, List.mem_cons_of_mem _ inRest, read⟩

theorem givenBy_of_readEnvironment {environment : EnvironmentSettings}
    (read : readEnvironment node = .ok environment) : environment.GivenBy node := by
  unfold readEnvironment at read
  dsimp only at read
  split at read
  · split at read
    · cases read
    · rename_i some
      cases read
      exact fun none => some (by simp [none])
  · rcases parts_of_ok read with ⟨image, there, made⟩
    cases made
    rcases Option.bind_eq_some_iff.mp (eq_some_of_require there) with ⟨child, last, named⟩
    exact ⟨child, List.mem_of_getLast? last, named⟩
  · cases read

theorem givenBy_of_readWorker {worker : WorkerSettings} (read : readWorker node = .ok worker) :
    ∃ environment ∈ childrenOf node "environment", worker.environment.GivenBy environment := by
  rcases parts_of_ok read with ⟨target, _, rest⟩
  rcases parts_of_ok rest with ⟨environments, readEach, rest⟩
  rcases parts_of_ok rest with ⟨environment, last, made⟩
  cases made
  rcases mem_of_mapM_ok readEach (List.mem_of_getLast? (eq_some_of_require last)) with
    ⟨child, member, readOne⟩
  exact ⟨child, member, givenBy_of_readEnvironment readOne⟩

theorem mem_of_checkWorker {worker : WorkerSettings}
    (passes : checkWorker targets (some worker) = .ok ()) : worker.target ∈ targets := by
  rw [checkWorker] at passes
  split at passes
  · rename_i serves
    exact List.contains_iff_mem.mp serves
  · cases passes

/-! ## Whole settings -/

/-- What holds of the settings that a document with these nodes amounts to. -/
structure Sound (settings : Settings) (document : Kdl.Document) : Prop where
  lease : settings.lease.Sound
  someTarget : declaredTargets document ≠ []
  targetsDistinct : (declaredTargets document).Nodup
  targetNames : ∀ name ∈ declaredTargets document, NameForm name
  targets : ∀ target, target ∈ settings.targets.targets ↔
    target.name ∈ declaredTargets document
  targetsAscending : settings.targets.targets.Pairwise (· < ·)
  groupsDistinct : ((declaredGroups document).map (·.1)).Nodup
  groupsApart : ∀ group ∈ declaredGroups document, group.1 ∉ declaredTargets document
  groupMembers : ∀ group ∈ declaredGroups document, ∀ member ∈ group.2,
    member ∈ declaredTargets document
  groups : ∀ entry, entry ∈ settings.targets.groups ↔
    ∃ group ∈ declaredGroups document, entry = (group.1, group.2.map Target.mk)
  groupsAscending : (settings.targets.groups.map (·.1)).Pairwise (· < ·)
  worker : ∀ worker, settings.worker = some worker → worker.target ∈ declaredTargets document ∧
    ∃ node ∈ document, node.name = "worker" ∧
      ∃ environment ∈ childrenOf node "environment", worker.environment.GivenBy environment

theorem sound_of_ofDraft {draft : Draft} {document : Kdl.Document} {settings : Settings}
    (follows : draft.Follows document) (checked : ofDraft draft = .ok settings) :
    settings.Sound document := by
  rcases parts_of_ok checked with ⟨_, lease, rest⟩
  rcases parts_of_ok rest with ⟨registry, built, rest⟩
  rcases parts_of_ok rest with ⟨_, serves, made⟩
  cases made
  rcases of_buildRegistry built with ⟨someTarget, names, grouped⟩
  rcases names_of_addGroups grouped with ⟨distinct, apart⟩
  rcases built_of_addGroups grouped (.ofNames _) with ⟨isBuilt, targets, known⟩
  have entries := mem_groups_of_addGroups grouped nofun
  rw [follows.targets] at someTarget names targets apart known serves
  rw [follows.groups] at distinct apart known entries
  have contains : ∀ target, target ∈ registry.targets ↔
      target.name ∈ declaredTargets document := by
    intro target
    rw [targets, TargetRegistry.mem_targets_ofNames]
  refine ⟨sound_of_checkLease lease, someTarget, follows.targets ▸ follows.distinct, names,
    contains, isBuilt.ascending, distinct, fun group member => (apart group member).2, ?_, ?_,
    isBuilt.groups_ascending, ?_⟩
  · intro group there member inGroup
    exact TargetRegistry.mem_targets_ofNames.mp (known group there member inGroup)
  · intro entry
    simpa [TargetRegistry.ofNames] using entries entry
  · intro worker described
    rcases follows.worker worker described with ⟨node, member, named, read⟩
    replace described : draft.worker = some worker := described
    rw [described] at serves
    exact ⟨mem_of_checkWorker serves, node, member, named, givenBy_of_readWorker read⟩

theorem sound_of_ofDocument {document : Kdl.Document} {settings : Settings}
    (accepted : ofDocument document = .ok settings) : settings.Sound document := by
  rcases parts_of_ok accepted with ⟨draft, read, checked⟩
  exact sound_of_ofDraft (Draft.Follows.empty.run read) checked

/-- Settings can be compared, faults cannot. -/
theorem ofText_eq_ok {text : String} {settings : Settings}
    (same : (ofText text).toOption = some settings) : ofText text = .ok settings := by
  generalize ofText text = read at same
  cases read with
  | error fault => cases same
  | ok settings => exact congrArg Except.ok (Option.some.inj same)

theorem sound_of_ofText {text : String} {settings : Settings}
    (accepted : ofText text = .ok settings) : ∃ document, settings.Sound document := by
  unfold ofText at accepted
  split at accepted
  · exact ⟨_, sound_of_ofDocument accepted⟩
  · cases accepted

/-- Settings that are accepted are sound, whatever nodes the document has, in whatever
order and however often. -/
theorem accepted_sound {text : String} {settings : Settings}
    (accepted : ofText text = .ok settings) :
    ∃ document, Kdl.Document.ofText? text = some document ∧ settings.Sound document := by
  unfold ofText at accepted
  split at accepted
  · rename_i document isDocument
    rcases parts_of_ok accepted with ⟨draft, read, checked⟩
    exact ⟨document, isDocument, sound_of_ofDraft (Draft.Follows.empty.run read) checked⟩
  · cases accepted

end Settings

/-! ## A sample configuration -/

namespace Sample

/-- The worker and the group come before the targets that they refer to. -/
def settingsText : String :=
  "lease duration=\"60s\"\n" ++
  "worker target=\"arm64\" \x7b environment process \x7b command make \x7d \x7d\n" ++
  "group all amd64 arm64\n" ++
  "targets arm64 amd64"

def acceptedSettings : Settings :=
  { storeUrl := none
    lease := ⟨.ofSeconds 60, .ofSeconds 20, 3, .ofSeconds 15⟩
    buildTimeout := .ofSeconds 86400
    targets := ⟨[⟨"amd64"⟩, ⟨"arm64"⟩], [("all", [⟨"amd64"⟩, ⟨"arm64"⟩])]⟩
    worker := some ⟨"arm64", none, .process ["make"] none⟩
    notify := .standard
    api := .standard }

theorem settingsText_accepted : Settings.ofText settingsText = .ok acceptedSettings :=
  Settings.ofText_eq_ok (by decide +kernel)

end Sample

theorem Settings.sample_accepted_sound :
    ofText Sample.settingsText = .ok Sample.acceptedSettings ∧
      ∃ document, Kdl.Document.ofText? Sample.settingsText = some document ∧
        Sample.acceptedSettings.Sound document :=
  ⟨Sample.settingsText_accepted, accepted_sound Sample.settingsText_accepted⟩

end BuildFleet
