import Mathlib.Data.List.Nodup
import BuildFleet.Settings.Reading
import BuildFleet.Proofs.Target.Registry

/-!
# What the nodes of a document say

`Settings.NodeRead` lists what reading one node makes of a draft. By it a draft
follows the document as far as that has been read: its targets and groups are those
that the nodes declare, in the order of the text, and its worker is the one that some
node describes.
-/

namespace BuildFleet

namespace Settings

open Kdl (Node)

variable {draft after : Draft} {node : Node} {nodes : List Node} {names : List String}

/-! ## One node -/

/-- The draft after a node. -/
inductive NodeRead (draft : Draft) (node : Node) : Draft → Prop
  | store {url : String} (named : node.name = "store")
      (read : require (firstString? node) "store url" = .ok url) :
      NodeRead draft node { draft with storeUrl := some url }
  | lease {lease : LeaseSettings} (named : node.name = "lease")
      (read : readLease draft.lease node = .ok lease) : NodeRead draft node { draft with lease }
  | build {timeout : Option Span} (named : node.name = "build")
      (read : durationProperty node "timeout" = .ok timeout) :
      NodeRead draft node { draft with buildTimeout := timeout.getD draft.buildTimeout }
  | targets {targets : List String} (named : node.name = "targets")
      (added : addTargets draft.targets (allStrings node) = .ok targets) :
      NodeRead draft node { draft with targets }
  | group {group : String × List String} (named : node.name = "group")
      (read : readGroup node = .ok group) :
      NodeRead draft node { draft with groups := draft.groups ++ [group] }
  | worker {worker : WorkerSettings} (named : node.name = "worker") (first : draft.worker = none)
      (read : readWorker node = .ok worker) :
      NodeRead draft node { draft with worker := some worker }
  | notify {notify : NotifySettings} (named : node.name = "notify")
      (read : readNotify node = .ok notify) : NodeRead draft node { draft with notify }
  | api {api : ApiSettings} (named : node.name = "api") (read : readApi draft.api node = .ok api) :
      NodeRead draft node { draft with api }
  | unknown (strange : node.name ∉
      ["store", "lease", "build", "targets", "group", "worker", "notify", "api"]) :
      NodeRead draft node draft

theorem nodeRead_of_ok (done : readNode draft node = .ok after) : NodeRead draft node after := by
  unfold readNode at done
  split at done
  · rename_i named
    rcases parts_of_ok done with ⟨url, read, made⟩
    cases made
    exact .store named read
  · rename_i named
    rcases parts_of_ok done with ⟨lease, read, made⟩
    cases made
    exact .lease named read
  · rename_i named
    rcases parts_of_ok done with ⟨timeout, read, made⟩
    cases made
    exact .build named read
  · rename_i named
    rcases parts_of_ok done with ⟨targets, added, made⟩
    cases made
    exact .targets named added
  · rename_i named
    rcases parts_of_ok done with ⟨group, read, made⟩
    cases made
    exact .group named read
  · rename_i named
    split at done
    · cases done
    · rename_i first
      rcases parts_of_ok done with ⟨worker, read, made⟩
      cases made
      exact .worker named (by simpa using first) read
  · rename_i named
    rcases parts_of_ok done with ⟨notify, read, made⟩
    cases made
    exact .notify named read
  · rename_i named
    rcases parts_of_ok done with ⟨api, read, made⟩
    cases made
    exact .api named read
  · cases done
    exact .unknown (by simp_all)

/-! ## Declarations -/

/-- The names of targets that the nodes declare. -/
def declaredTargets (nodes : List Node) : List String :=
  (nodes.filter (·.name == "targets")).flatMap allStrings

/-- The group that a node declares, by name and members. -/
def group? (node : Node) : Option (String × List String) :=
  match allStrings node with
  | [] => none
  | name :: members => some (name, members)

/-- The groups that the nodes declare. -/
def declaredGroups (nodes : List Node) : List (String × List String) :=
  (nodes.filter (·.name == "group")).filterMap group?

theorem declaredTargets_snoc (nodes : List Node) (node : Node) :
    declaredTargets (nodes ++ [node]) = declaredTargets nodes ++
      if node.name = "targets" then allStrings node else [] := by
  by_cases named : node.name = "targets" <;> simp [declaredTargets, List.filter_append, named]

theorem declaredGroups_snoc (nodes : List Node) (node : Node) :
    declaredGroups (nodes ++ [node]) = declaredGroups nodes ++
      if node.name = "group" then (group? node).toList else [] := by
  by_cases named : node.name = "group"
  · cases declares : group? node <;>
      simp [declaredGroups, List.filter_append, named, declares]
  · simp [declaredGroups, List.filter_append, named]

theorem group?_of_readGroup {group : String × List String} (read : readGroup node = .ok group) :
    group? node = some group := by
  cases declares : allStrings node with
  | nil => simp [readGroup, declares] at read
  | cons name members =>
      simp only [readGroup, declares] at read
      cases read
      simp only [group?, declares]

theorem of_addTargets {targets all : List String} (added : addTargets targets names = .ok all)
    (distinct : targets.Nodup) : all = targets ++ names ∧ all.Nodup := by
  induction names generalizing targets with
  | nil =>
      cases added
      exact ⟨(List.append_nil _).symm, distinct⟩
  | cons name rest induction =>
      rw [addTargets] at added
      split at added
      · cases added
      · rename_i new
        have absent : name ∉ targets := by simpa using new
        have distinctNext : (targets ++ [name]).Nodup := by
          rw [← List.concat_eq_append]
          exact List.Nodup.concat absent distinct
        rcases induction added distinctNext with ⟨same, stillDistinct⟩
        exact ⟨by rw [same, List.append_assoc]; rfl, stillDistinct⟩

/-! ## Whole documents -/

/-- The draft is what these nodes say of targets, groups and the worker. -/
structure Draft.Follows (draft : Draft) (nodes : List Node) : Prop where
  targets : draft.targets = declaredTargets nodes
  distinct : draft.targets.Nodup
  groups : draft.groups = declaredGroups nodes
  worker : ∀ worker, draft.worker = some worker →
    ∃ node ∈ nodes, node.name = "worker" ∧ readWorker node = .ok worker

namespace Draft.Follows

theorem empty : Draft.empty.Follows [] where
  targets := rfl
  distinct := .nil
  groups := rfl
  worker := nofun

/-- A node that declares nothing and describes no worker. -/
private theorem pass (follows : draft.Follows nodes) (noTargets : node.name ≠ "targets")
    (noGroup : node.name ≠ "group") (targets : after.targets = draft.targets)
    (groups : after.groups = draft.groups) (worker : after.worker = draft.worker) :
    after.Follows (nodes ++ [node]) where
  targets := by
    rw [targets, follows.targets, declaredTargets_snoc, if_neg noTargets, List.append_nil]
  distinct := targets ▸ follows.distinct
  groups := by rw [groups, follows.groups, declaredGroups_snoc, if_neg noGroup, List.append_nil]
  worker := by
    intro described same
    rcases follows.worker described (worker ▸ same) with ⟨earlier, member, read⟩
    exact ⟨earlier, List.mem_append_left _ member, read⟩

theorem step (follows : draft.Follows nodes) (read : NodeRead draft node after) :
    after.Follows (nodes ++ [node]) := by
  cases read with
  | store named => exact follows.pass (by simp [named]) (by simp [named]) rfl rfl rfl
  | lease named => exact follows.pass (by simp [named]) (by simp [named]) rfl rfl rfl
  | build named => exact follows.pass (by simp [named]) (by simp [named]) rfl rfl rfl
  | notify named => exact follows.pass (by simp [named]) (by simp [named]) rfl rfl rfl
  | api named => exact follows.pass (by simp [named]) (by simp [named]) rfl rfl rfl
  | unknown strange =>
      simp only [List.mem_cons, not_or] at strange
      exact follows.pass strange.2.2.2.1 strange.2.2.2.2.1 rfl rfl rfl
  | targets named added =>
      rcases of_addTargets added follows.distinct with ⟨same, distinct⟩
      refine ⟨?_, distinct, ?_, ?_⟩
      · rw [same, follows.targets, declaredTargets_snoc, if_pos named]
      · rw [follows.groups, declaredGroups_snoc, if_neg (by simp [named]), List.append_nil]
      · intro worker described
        rcases follows.worker worker described with ⟨earlier, member, read⟩
        exact ⟨earlier, List.mem_append_left _ member, read⟩
  | group named read =>
      refine ⟨?_, follows.distinct, ?_, ?_⟩
      · rw [follows.targets, declaredTargets_snoc, if_neg (by simp [named]), List.append_nil]
      · rw [follows.groups, declaredGroups_snoc, if_pos named, group?_of_readGroup read]
        rfl
      · intro worker described
        rcases follows.worker worker described with ⟨earlier, member, read⟩
        exact ⟨earlier, List.mem_append_left _ member, read⟩
  | worker named first read =>
      refine ⟨?_, follows.distinct, ?_, ?_⟩
      · rw [follows.targets, declaredTargets_snoc, if_neg (by simp [named]), List.append_nil]
      · rw [follows.groups, declaredGroups_snoc, if_neg (by simp [named]), List.append_nil]
      · intro worker described
        cases described
        exact ⟨node, by simp, named, read⟩

theorem run {document : Kdl.Document} {last : Draft} (follows : draft.Follows nodes)
    (read : document.foldlM readNode draft = .ok last) : last.Follows (nodes ++ document) := by
  induction document generalizing draft nodes with
  | nil =>
      cases read
      rw [List.append_nil]
      exact follows
  | cons node rest induction =>
      rw [List.foldlM_cons] at read
      rcases parts_of_ok read with ⟨middle, first, others⟩
      have followed := induction (follows.step (nodeRead_of_ok first)) others
      rwa [List.append_assoc] at followed

end Draft.Follows

end Settings

end BuildFleet
