import BuildFleet.Identity.Basic
import BuildFleet.Proofs.Settings.Soundness
import BuildFleet.Proofs.Text.Blanks

/-!
# Identifiers tell workers apart

An identifier of a worker is taken apart from its end. A process is written in digits, and a
name that a registry of targets accepts has no slash, so the last two slashes stand between the
parts, whatever the name of the host holds.
-/

namespace BuildFleet

namespace Text

/-- What stands before and after the last one of a separator is determined. -/
theorem parts_of_last {separator : Char} {front back front' back' : List Char}
    (last : separator ∉ back) (last' : separator ∉ back')
    (same : front ++ separator :: back = front' ++ separator :: back') :
    front = front' ∧ back = back' := by
  rcases List.append_eq_append_iff.mp same with ⟨more, longer, rest⟩ | ⟨more, longer, rest⟩
  · cases more with
    | nil => simp_all
    | cons head tail =>
        rw [List.cons_append, List.cons.injEq] at rest
        exact absurd (by simp [rest.2]) last
  · cases more with
    | nil => simp_all
    | cons head tail =>
        rw [List.cons_append, List.cons.injEq] at rest
        exact absurd (by simp [rest.2]) last'

end Text

namespace Settings

/-- A registry can be built with a target of this name. -/
def AcceptsTarget (name : String) : Prop :=
  ∃ names groups registry, buildRegistry names groups = .ok registry ∧ name ∈ names

theorem acceptsTarget_iff {name : String} : AcceptsTarget name ↔ NameForm name := by
  constructor
  · rintro ⟨names, groups, registry, built, member⟩
    exact (of_buildRegistry built).2.1 name member
  · intro form
    have named : isTargetName name = true := isTargetName_iff.mpr form
    have built : buildRegistry [name] [] = .ok (.ofNames [name]) := by
      simp [buildRegistry, named, addGroups]
    exact ⟨[name], [], _, built, List.mem_singleton_self name⟩

theorem slash_notMem_of_nameForm {name : String} (form : NameForm name) : '/' ∉ name.toList := by
  rcases form with ⟨first, rest, parts, starts, others⟩
  rw [parts]
  intro member
  rcases List.mem_cons.mp member with rfl | later
  · exact absurd starts (by simp [StartsName])
  · exact absurd (others '/' later) (by simp [StartsName])

end Settings

namespace WorkerId

theorem slash_notMem_toDigits (process : Nat) : '/' ∉ Nat.toDigits 10 process := by
  intro member
  exact absurd (Text.isDigit_toDigits '/' member) (by decide)

theorem toList_forHost (hostname target : String) (process : Nat) :
    (forHost hostname target process).text.toList =
      (hostname.toList ++ '/' :: target.toList) ++ '/' :: Nat.toDigits 10 process := by
  simp [forHost, Nat.toList_repr]

/-- Workers of different hosts, targets or processes have different identifiers. -/
theorem forHost_inj {target target' : String} (accepted : Settings.AcceptsTarget target)
    (accepted' : Settings.AcceptsTarget target') (hostname hostname' : String)
    (process process' : Nat) :
    forHost hostname target process = forHost hostname' target' process' ↔
      hostname = hostname' ∧ target = target' ∧ process = process' := by
  constructor
  · intro same
    have texts := congrArg (fun id => id.text.toList) same
    simp only [toList_forHost] at texts
    have ⟨fronts, digits⟩ :=
      Text.parts_of_last (slash_notMem_toDigits process) (slash_notMem_toDigits process') texts
    have plain := Settings.slash_notMem_of_nameForm (Settings.acceptsTarget_iff.mp accepted)
    have plain' := Settings.slash_notMem_of_nameForm (Settings.acceptsTarget_iff.mp accepted')
    have ⟨hosts, targets⟩ := Text.parts_of_last plain plain' fronts
    exact ⟨String.toList_injective hosts, String.toList_injective targets,
      Text.eq_of_toDigits digits⟩
  · rintro ⟨rfl, rfl, rfl⟩
    rfl

/-- A slash in the name of a target would be taken for one of the host's. -/
example : forHost "farm" "amd64/riscv64" 7 = forHost "farm/amd64" "riscv64" 7 := by decide

theorem sample_slash_in_hostname :
    Settings.AcceptsTarget "amd64" ∧ Settings.AcceptsTarget "arm64" ∧
      forHost "farm/amd64" "arm64" 7 ≠ forHost "farm" "amd64" 7 := by
  have amd64 : Settings.AcceptsTarget "amd64" := ⟨["amd64"], [], _, rfl, by decide⟩
  have arm64 : Settings.AcceptsTarget "arm64" := ⟨["arm64"], [], _, rfl, by decide⟩
  refine ⟨amd64, arm64, ?_⟩
  rw [Ne, forHost_inj arm64 amd64]
  decide

end WorkerId

end BuildFleet
