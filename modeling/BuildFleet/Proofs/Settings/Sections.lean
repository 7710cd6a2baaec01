import BuildFleet.Proofs.Settings.Nodes

/-!
# Sections of a document

The nodes of one name are a section of a document. A draft has a part for each section, and
no node reads or changes another part than that of its own section. So a document reads as
its sections do, each by itself, in whatever way they are mixed.
-/

namespace BuildFleet

namespace Settings

open Kdl (Node)

variable {draft last : Draft} {node : Node} {document other : Kdl.Document}

/-- The sections that settings are read from. -/
inductive Section where
  | store | lease | build | targets | group | worker | notify | api
deriving DecidableEq

namespace Section

/-- The name of the nodes of a section. -/
def name : Section → String
  | store => "store"
  | lease => "lease"
  | build => "build"
  | targets => "targets"
  | group => "group"
  | worker => "worker"
  | notify => "notify"
  | api => "api"

/-- What a section amounts to. -/
def Value : Section → Type
  | store => Option String
  | lease => LeaseSettings
  | build => Span
  | targets => List String
  | group => List (String × List String)
  | worker => Option WorkerSettings
  | notify => NotifySettings
  | api => ApiSettings

/-- The part of a draft that belongs to a section. -/
def value : (part : Section) → Draft → part.Value
  | store, draft => draft.storeUrl
  | lease, draft => draft.lease
  | build, draft => draft.buildTimeout
  | targets, draft => draft.targets
  | group, draft => draft.groups
  | worker, draft => draft.worker
  | notify, draft => draft.notify
  | api, draft => draft.api

/-- The draft with another value for a section. -/
def put : (part : Section) → Draft → part.Value → Draft
  | store, draft, given => { draft with storeUrl := given }
  | lease, draft, given => { draft with lease := given }
  | build, draft, given => { draft with buildTimeout := given }
  | targets, draft, given => { draft with targets := given }
  | group, draft, given => { draft with groups := given }
  | worker, draft, given => { draft with worker := given }
  | notify, draft, given => { draft with notify := given }
  | api, draft, given => { draft with api := given }

/-- What one more node makes of the value of its section. -/
def read : (part : Section) → part.Value → Node → Except SettingsError part.Value
  | store, _, node => (require (firstString? node) "store url").map some
  | lease, before, node => readLease before node
  | build, before, node => (durationProperty node "timeout").map (·.getD before)
  | targets, before, node => addTargets before (allStrings node)
  | group, before, node => (readGroup node).map fun declared => List.append before [declared]
  | worker, before, node =>
    if Option.isSome before then .error (.duplicate "worker") else (readWorker node).map some
  | notify, _, node => readNotify node
  | api, before, node => readApi before node

variable {part another : Section}

theorem name_injective : Function.Injective name := by
  intro part another same
  cases part <;> cases another <;> first | rfl | exact absurd same (by decide)

@[simp] theorem value_put (part : Section) (draft : Draft) (value : part.Value) :
    part.value (part.put draft value) = value := by
  cases part <;> rfl

theorem value_put_of_ne (different : another ≠ part) (draft : Draft) (value : part.Value) :
    another.value (part.put draft value) = another.value draft := by
  cases part <;> cases another <;> first | rfl | exact absurd rfl different

/-- A draft is its parts. -/
theorem draft_ext (same : ∀ part : Section, part.value draft = part.value last) :
    draft = last := by
  cases draft
  cases last
  exact congr (congr (congr (congr (congr (congr (congr (congrArg Draft.mk (same store))
    (same lease)) (same build)) (same targets)) (same group)) (same worker)) (same notify))
    (same api)

private theorem bind_eq_map {ε α β : Type} (first : Except ε α) (next : α → β) :
    (first >>= fun result => .ok (next result)) = first.map next := by
  cases first <;> rfl

private theorem bind_eq_map_map {ε α β γ : Type} (first : Except ε α) (middle : α → β)
    (next : β → γ) :
    (first >>= fun result => .ok (next (middle result))) = (first.map middle).map next := by
  cases first <;> rfl

/-- A node acts on the part of its section. -/
theorem readNode_eq (named : node.name = part.name) (draft : Draft) :
    readNode draft node = (part.read (part.value draft) node).map (part.put draft) := by
  unfold readNode
  rw [named]
  cases part with
  | store =>
      simp only [name]
      exact bind_eq_map_map _ some (store.put draft)
  | lease =>
      simp only [name]
      exact bind_eq_map _ (lease.put draft)
  | build =>
      simp only [name]
      exact bind_eq_map_map _ _ (build.put draft)
  | targets =>
      simp only [name]
      exact bind_eq_map _ (targets.put draft)
  | group =>
      simp only [name]
      exact bind_eq_map_map _ _ (group.put draft)
  | worker =>
      cases former : draft.worker with
      | none =>
          simp only [name, read, value, former]
          exact bind_eq_map_map _ some (worker.put draft)
      | some earlier =>
          simp only [name, read, value, former]
          rfl
  | notify =>
      simp only [name]
      exact bind_eq_map _ (notify.put draft)
  | api =>
      simp only [name]
      exact bind_eq_map _ (api.put draft)

/-- A node of no section says nothing. -/
theorem readNode_strange (strange : ∀ part : Section, node.name ≠ part.name) (draft : Draft) :
    readNode draft node = .ok draft := by
  unfold readNode
  split
  · rename_i named
    exact absurd named (strange store)
  · rename_i named
    exact absurd named (strange lease)
  · rename_i named
    exact absurd named (strange build)
  · rename_i named
    exact absurd named (strange targets)
  · rename_i named
    exact absurd named (strange group)
  · rename_i named
    exact absurd named (strange worker)
  · rename_i named
    exact absurd named (strange notify)
  · rename_i named
    exact absurd named (strange api)
  · rfl

/-! ## Whole documents -/

/-- The nodes of a section, in the order of the document. -/
def nodes (part : Section) (document : Kdl.Document) : List Node :=
  document.filter (·.name == part.name)

theorem nodes_cons_same (named : node.name = part.name) (rest : List Node) :
    part.nodes (node :: rest) = node :: part.nodes rest :=
  List.filter_cons_of_pos (by simp [named])

theorem nodes_cons_other (named : node.name ≠ part.name) (rest : List Node) :
    part.nodes (node :: rest) = part.nodes rest :=
  List.filter_cons_of_neg (by simp [named])

/-- A document reads as each of its sections reads by itself. -/
theorem foldlM_readNode_iff : document.foldlM readNode draft = .ok last ↔
    ∀ part : Section,
      (part.nodes document).foldlM part.read (part.value draft) = .ok (part.value last) := by
  induction document generalizing draft with
  | nil =>
      constructor
      · intro read part
        cases read
        rfl
      · intro reads
        exact congrArg Except.ok (draft_ext fun part => Except.ok.inj (reads part))
  | cons node rest induction =>
      rw [List.foldlM_cons]
      by_cases known : ∃ part : Section, node.name = part.name
      · rcases known with ⟨owner, named⟩
        have others : ∀ part : Section, part ≠ owner → node.name ≠ part.name :=
          fun part different same => different (name_injective (same.symm.trans named))
        rw [readNode_eq named]
        -- The draft changes in the part of the owner alone: all others read on as before.
        constructor
        · intro read
          rcases parts_of_ok read with ⟨middle, first, continued⟩
          cases given : owner.read (owner.value draft) node with
          | error fault =>
              rw [given] at first
              cases first
          | ok value =>
              rw [given] at first
              cases first
              intro part
              have reads := induction.mp continued part
              by_cases same : part = owner
              · subst same
                rw [nodes_cons_same named, List.foldlM_cons, given]
                rwa [value_put] at reads
              · rw [nodes_cons_other (others part same)]
                rwa [value_put_of_ne same] at reads
        · intro reads
          have own := reads owner
          rw [nodes_cons_same named, List.foldlM_cons] at own
          rcases parts_of_ok own with ⟨value, given, continued⟩
          rw [given]
          refine induction.mpr fun part => ?_
          by_cases same : part = owner
          · subst same
            rwa [value_put]
          · rw [value_put_of_ne same, ← nodes_cons_other (others part same)]
            exact reads part
      · have strange : ∀ part : Section, node.name ≠ part.name :=
          fun part named => known ⟨part, named⟩
        rw [readNode_strange strange]
        refine induction.trans (forall_congr' fun part => ?_)
        rw [nodes_cons_other (strange part)]

end Section

/-! ## Accepted settings -/

variable {settings : Settings}

theorem ofDocument_eq_ok_iff : ofDocument document = .ok settings ↔
    ∃ draft, document.foldlM readNode .empty = .ok draft ∧ ofDraft draft = .ok settings := by
  constructor
  · exact parts_of_ok
  · rintro ⟨draft, read, checked⟩
    unfold ofDocument
    rw [read]
    exact checked

theorem ofText_eq_ofDocument {text : String}
    (isDocument : Kdl.Document.ofText? text = some document) :
    ofText text = ofDocument document := by
  simp only [ofText, isDocument]

/-- What is taken from a draft as it stands. -/
theorem of_ofDraft (checked : ofDraft draft = .ok settings) :
    settings.lease = draft.lease ∧ settings.worker = draft.worker ∧
      settings.notify = draft.notify ∧ settings.api = draft.api := by
  rcases parts_of_ok checked with ⟨_, _, checked⟩
  rcases parts_of_ok checked with ⟨registry, _, checked⟩
  rcases parts_of_ok checked with ⟨_, _, made⟩
  cases made
  exact ⟨rfl, rfl, rfl, rfl⟩

/-- The sections of an accepted document, each read by itself. -/
theorem sections_of_accepted (accepted : ofDocument document = .ok settings) :
    ∃ draft, ofDraft draft = .ok settings ∧ ∀ part : Section,
      (part.nodes document).foldlM part.read (part.value .empty) = .ok (part.value draft) := by
  rcases ofDocument_eq_ok_iff.mp accepted with ⟨draft, read, checked⟩
  exact ⟨draft, checked, Section.foldlM_readNode_iff.mp read⟩

end Settings

end BuildFleet
