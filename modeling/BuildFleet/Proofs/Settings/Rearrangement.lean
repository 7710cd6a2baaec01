import BuildFleet.Proofs.Settings.Sections
import BuildFleet.Proofs.Settings.Soundness

/-!
# The order of nodes

Only nodes of one name have an order that counts. A document whose sections are mixed in
another way is accepted if and only if the first one is, and holds the same settings: groups
and the worker may precede the targets that they refer to.
-/

namespace BuildFleet

namespace Settings

open Kdl (Node)

variable {document other : Kdl.Document} {settings : Settings}

/-- The same nodes in another order, those of one name in the same order. -/
structure Rearranged (document other : Kdl.Document) : Prop where
  nodes : document.Perm other
  order : ∀ name : String, document.filter (·.name == name) = other.filter (·.name == name)

/-- A node may change places with nodes of other names behind it. -/
theorem Rearranged.move (before : List Node) (node : Node) (between after : List Node)
    (different : ∀ passed ∈ between, passed.name ≠ node.name) :
    Rearranged (before ++ node :: between ++ after) (before ++ between ++ node :: after) where
  nodes := by
    simp only [List.append_assoc]
    exact List.Perm.append_left before List.perm_middle.symm
  order := by
    intro name
    simp only [List.filter_append, List.append_assoc, List.cons_append]
    congr 1
    by_cases named : node.name = name
    · have none : between.filter (·.name == name) = [] := by
        apply List.filter_eq_nil_iff.mpr
        intro passed member
        have apart := different passed member
        simpa [named] using apart
      simp [List.filter_append, named, none]
    · simp [List.filter_append, named]

/-- Documents that differ in the order of nodes of different names are accepted alike and
hold the same settings. -/
theorem order_across_names_immaterial (rearranged : Rearranged document other) :
    (∀ settings, ofDocument document = .ok settings ↔ ofDocument other = .ok settings) ∧
      ∀ text otherText, Kdl.Document.ofText? text = some document →
        Kdl.Document.ofText? otherText = some other →
        ∀ settings, ofText text = .ok settings ↔ ofText otherText = .ok settings := by
  have sections : ∀ part : Section, part.nodes document = part.nodes other :=
    fun part => rearranged.order part.name
  have reads : ∀ draft, document.foldlM readNode .empty = .ok draft ↔
      other.foldlM readNode .empty = .ok draft := by
    intro draft
    simp only [Section.foldlM_readNode_iff, sections]
  have same : ∀ settings, ofDocument document = .ok settings ↔ ofDocument other = .ok settings := by
    intro settings
    simp only [ofDocument_eq_ok_iff, reads]
  refine ⟨same, fun text otherText isDocument isOther settings => ?_⟩
  rw [ofText_eq_ofDocument isDocument, ofText_eq_ofDocument isOther]
  exact same settings

end Settings

/-! ## A sample configuration -/

namespace Sample

/-- The sample configuration with the targets in front. -/
def rearrangedText : String :=
  "targets arm64 amd64\n" ++
  "lease duration=\"60s\"\n" ++
  "worker target=\"arm64\" \x7b environment process \x7b command make \x7d \x7d\n" ++
  "group all amd64 arm64\n"

def words (texts : List String) : List Kdl.Entry := texts.map fun text => ⟨none, .string text⟩

def targetsNode : Kdl.Node := .mk "targets" (words ["arm64", "amd64"]) []

/-- The nodes of the sample configuration before the one with the targets. -/
def referringNodes : List Kdl.Node := [
  .mk "lease" [⟨some "duration", .string "60s"⟩] [],
  .mk "worker" [⟨some "target", .string "arm64"⟩]
    [.mk "environment" (words ["process"]) [.mk "command" (words ["make"]) []]],
  .mk "group" (words ["all", "amd64", "arm64"]) []]

theorem settingsText_document :
    Kdl.Document.ofText? settingsText = some (referringNodes ++ [targetsNode]) := by
  decide +kernel

theorem rearrangedText_document :
    Kdl.Document.ofText? rearrangedText = some (targetsNode :: referringNodes) := by
  decide +kernel

end Sample

/-- The targets may stand in front of all that refers to them. -/
theorem Settings.sample_order_across_names :
    Rearranged (Sample.targetsNode :: Sample.referringNodes)
        (Sample.referringNodes ++ [Sample.targetsNode]) ∧
      ofText Sample.settingsText = .ok Sample.acceptedSettings ∧
      ofText Sample.rearrangedText = .ok Sample.acceptedSettings := by
  have rearranged : Rearranged (Sample.targetsNode :: Sample.referringNodes)
      (Sample.referringNodes ++ [Sample.targetsNode]) := by
    simpa using Rearranged.move [] Sample.targetsNode Sample.referringNodes [] (by decide)
  rcases order_across_names_immaterial rearranged with ⟨_, sameTexts⟩
  exact ⟨rearranged, Sample.settingsText_accepted,
    (sameTexts _ _ Sample.rearrangedText_document Sample.settingsText_document _).mpr
      Sample.settingsText_accepted⟩

end BuildFleet
