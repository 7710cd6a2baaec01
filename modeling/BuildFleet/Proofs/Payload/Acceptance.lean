import BuildFleet.Payload.Schema
import BuildFleet.Proofs.Json.Records

/-!
# What the request schema accepts

Requests are documented as objects: packages and a version with something to see
in each of them, and perhaps a pull request. Records are read from arrays as well,
so the schema also accepts the array of these members in the order of their
declaration, and nothing else.
-/

namespace BuildFleet

open Json (Context Sorted)
open Json.RecordReader (Lawful)

theorem Text.allBlank_iff {text : String} :
    Text.allBlank text = false ↔ ∃ character ∈ text.toList, Text.isBlank character = false := by
  simp [Text.allBlank]


/-! ## What is documented -/

/-- Members as a request is documented to have them; others do not matter. -/
structure BuildRequest.Documented (members : List (String × Json)) : Prop where
  packages : ∃ items, members.lookup "packages" = some (.array items) ∧ items ≠ [] ∧
    ∀ item ∈ items, ∃ text, item = .string text ∧
      ∃ character ∈ text.toList, Text.isBlank character = false
  gitRef : ∃ text, members.lookup "git_ref" = some (.string text) ∧
    ∃ character ∈ text.toList, Text.isBlank character = false
  pullRequest : members.lookup "github_pr" = none ∨ members.lookup "github_pr" = some .null ∨
    ∃ number : Nat, number ≤ 18446744073709551615 ∧
      members.lookup "github_pr" = some (.integer number)

namespace Json

/-- An object that is documented as a request. -/
def IsRequest (payload : Json) : Prop :=
  ∃ members, payload = .object members ∧ BuildRequest.Documented members

/-- An array of the members of a request, in the order of their declaration. -/
def ListsRequest (payload : Json) : Prop :=
  ∃ items, payload = .array items ∧ items.length ≤ 4 ∧
    BuildRequest.Documented (["packages", "git_ref", "github_pr", "reply_to"].zip items)

theorem IsRequest.not_listed {payload : Json} (isRequest : payload.IsRequest) :
    ¬ payload.ListsRequest := by
  rcases isRequest with ⟨members, rfl, _⟩
  rintro ⟨items, listed, _⟩
  cases listed

end Json

/-! ## Reading a request -/

namespace BuildRequest

variable {request : BuildRequest} {context : Context} {members : List (String × Json)}

/-- How the members of a request are read. -/
def record : Json.RecordReader BuildRequest :=
  BuildRequest.mk <$>
    .required "packages" (Json.readList Json.readString) <*>
    .required "git_ref" Json.readString <*>
    .defaulted "github_pr" Json.readNat64 <*>
    .defaulted "reply_to" Json.readValue

theorem lawful : record.Lawful :=
  ((((Json.RecordReader.lawful_required _ _).map _).seq
    (Json.RecordReader.lawful_required _ _)).seq
    (Json.RecordReader.lawful_defaulted _ _)).seq (Json.RecordReader.lawful_defaulted _ _)

/-- A request has something to see in its version and in each of its packages. -/
structure Sound (request : BuildRequest) : Prop where
  gitRef : Text.allBlank request.gitRef = false
  packages : request.packages ≠ []
  named : ∀ package ∈ request.packages, Text.allBlank package = false

/-- The members that a request is made of. -/
structure MadeOf (request : BuildRequest) (members : List (String × Json)) : Prop where
  packages : members.lookup "packages" = some (.array (request.packages.map .string))
  gitRef : members.lookup "git_ref" = some (.string request.gitRef)
  pullRequest : Json.Optional (members.lookup "github_pr")
    (fun found (number : Nat) => found = .integer number ∧ number ≤ 18446744073709551615)
    request.githubPullRequest
  replyTo : Json.Optional (members.lookup "reply_to")
    (fun found value => found.sorted = value) request.replyTo

theorem build_iff (enters : ∃ inner, context.enter = .ok inner)
    (admits : ∀ value, members.lookup "reply_to" = some value → context.Admits value.nesting) :
    record.build context (Json.sources members) = .ok request ↔ request.MadeOf members := by
  rcases enters with ⟨inner, entered⟩
  constructor
  · intro built
    rcases Json.RecordReader.seq_build_iff.mp built with ⟨_, replyTo, three, fourth, rfl⟩
    rcases Json.RecordReader.seq_build_iff.mp three with ⟨_, pullRequest, two, third, rfl⟩
    rcases Json.RecordReader.seq_build_iff.mp two with ⟨_, gitRef, one, second, rfl⟩
    rcases Json.map_eq_ok.mp one with ⟨packages, first, rfl⟩
    rcases Json.RecordReader.required_sources_iff.mp first with ⟨found, looked, read⟩
    rcases Json.RecordReader.required_sources_iff.mp second with
      ⟨version, lookedVersion, readVersion⟩
    rw [Json.readStrings_source_iff entered] at read
    rw [Json.readString_source_iff] at readVersion
    subst read readVersion
    refine ⟨looked, lookedVersion, ?_, ?_⟩
    · apply (Json.RecordReader.optional_sources_iff.mp third).imp
      exact fun found number _ read => Json.readNat64_source_iff.mp read
    · apply (Json.RecordReader.optional_sources_iff.mp fourth).imp
      intro found value looked read
      rw [Json.readValue_source found (admits found looked)] at read
      exact Except.ok.inj read
  · rintro ⟨packages, gitRef, pullRequest, replyTo⟩
    refine Json.RecordReader.seq_builds (Json.RecordReader.seq_builds (Json.RecordReader.seq_builds
      (Json.RecordReader.map_builds ?_) ?_) ?_) ?_
    · exact Json.RecordReader.required_sources_iff.mpr
        ⟨_, packages, (Json.readStrings_source_iff entered).mpr rfl⟩
    · exact Json.RecordReader.required_sources_iff.mpr
        ⟨_, gitRef, Json.readString_source_iff.mpr rfl⟩
    · apply Json.RecordReader.optional_sources_iff.mpr
      exact pullRequest.imp fun found number _ read => Json.readNat64_source_iff.mpr read
    · apply Json.RecordReader.optional_sources_iff.mpr
      apply replyTo.imp
      rintro found value looked rfl
      exact Json.readValue_source found (admits found looked)

/-- Members are documented if a sound request is made of them. -/
theorem documented_iff : Documented members ↔
    ∃ request : BuildRequest, request.MadeOf members ∧ request.Sound := by
  constructor
  · rintro ⟨⟨items, packages, nonempty, texts⟩, ⟨version, gitRef, visible⟩, pullRequest⟩
    have strings : ∃ names : List String, items = names.map .string ∧
        ∀ name ∈ names, ∃ character ∈ name.toList, Text.isBlank character = false := by
      clear packages nonempty
      induction items with
      | nil => exact ⟨[], rfl, fun _ member => by cases member⟩
      | cons head tail induction =>
          rcases List.forall_mem_cons.mp texts with ⟨⟨name, rfl, first⟩, rest⟩
          rcases induction rest with ⟨names, rfl, others⟩
          exact ⟨name :: names, rfl, List.forall_mem_cons.mpr ⟨first, others⟩⟩
    rcases strings with ⟨names, rfl, shown⟩
    have number : ∃ number?, Json.Optional (members.lookup "github_pr")
        (fun found (number : Nat) => found = .integer number ∧ number ≤ 18446744073709551615)
        number? := by
      apply Json.exists_optional
      intro found looked given
      rcases pullRequest with absent | null | ⟨number, few, there⟩
      · cases absent.symm.trans looked
      · cases null.symm.trans looked
        exact absurd rfl given
      · cases there.symm.trans looked
        exact ⟨number, rfl, few⟩
    rcases number with ⟨number?, pullRequest⟩
    obtain ⟨reply?, replyTo⟩ : ∃ reply?, Json.Optional (members.lookup "reply_to")
        (fun found value => found.sorted = value) reply? :=
      Json.exists_optional fun found _ _ => ⟨found.sorted, rfl⟩
    have one : names ≠ [] := fun none => nonempty (congrArg (List.map Json.string) none)
    exact ⟨⟨names, version, number?, reply?⟩, ⟨packages, gitRef, pullRequest, replyTo⟩,
      Text.allBlank_iff.mpr visible, one,
      fun name member => Text.allBlank_iff.mpr (shown name member)⟩
  · rintro ⟨request, ⟨packages, gitRef, pullRequest, _⟩, sound⟩
    refine ⟨⟨_, packages, fun empty => sound.packages (List.map_eq_nil_iff.mp empty), ?_⟩,
      ⟨_, gitRef, Text.allBlank_iff.mp sound.gitRef⟩, ?_⟩
    · intro item member
      rcases List.mem_map.mp member with ⟨text, package, rfl⟩
      exact ⟨text, rfl, Text.allBlank_iff.mp (sound.named text package)⟩
    · rcases pullRequest with ⟨absent | null, _⟩ | ⟨found, number, looked, _, ⟨rfl, few⟩, _⟩
      · exact .inl absent
      · exact .inr (.inl null)
      · exact .inr (.inr ⟨number, few, looked⟩)

/-- The members of an object at hand are read as a request if they make it up. -/
theorem read_object_iff {members : List (String × Json)} (distinct : (members.map Prod.fst).Nodup) :
    Json.readAs reader (.object members) = .ok request ↔ request.MadeOf members := by
  have wellFormed : ∀ member ∈ Json.sources members, Json.skip member.2 = .ok () := by
    intro member there
    rcases List.mem_map.mp there with ⟨pair, _, rfl⟩
    exact Json.skip_source pair.2
  rw [← Json.map_fst_sources] at distinct
  show record.read "BuildRequest" .value (.object (Json.sourceMembers members) true) = _ ↔ _
  rw [Json.sourceMembers_eq, lawful.read_object_iff distinct wellFormed]
  constructor
  · rintro ⟨inner, entered, built⟩
    cases entered
    exact (build_iff ⟨_, rfl⟩ fun _ _ => Context.admits_value _).mp built
  · intro madeOf
    exact ⟨.value, rfl, (build_iff ⟨_, rfl⟩ fun _ _ => Context.admits_value _).mpr madeOf⟩

/-- An array that ends before the version is no request: nothing stands in for it. -/
theorem read_array_iff {items : List Json} :
    Json.readAs reader (.array items) = .ok request ↔
      items.length ≤ 4 ∧
        request.MadeOf (["packages", "git_ref", "github_pr", "reply_to"].zip items) := by
  have zipped : ["packages", "git_ref", "github_pr", "reply_to"].zip (items.map Json.source) =
      Json.sources (["packages", "git_ref", "github_pr", "reply_to"].zip items) := by
    rw [List.zip_map_right]
    rfl
  have build : record.build .value
      (["packages", "git_ref", "github_pr", "reply_to"].zip (items.map Json.source)) =
        .ok request ↔
      request.MadeOf (["packages", "git_ref", "github_pr", "reply_to"].zip items) := by
    rw [zipped]
    exact build_iff ⟨_, rfl⟩ fun _ _ => Context.admits_value _
  show record.read "BuildRequest" .value (.array (Json.sourceItems items) true) = _ ↔ _
  rw [Json.sourceItems_eq_map, lawful.read_array_iff (by decide)]
  constructor
  · rintro ⟨inner, entered, few, _, built⟩
    cases entered
    rw [List.length_map] at few
    exact ⟨few, build.mp built⟩
  · rintro ⟨few, madeOf⟩
    have last : (record.fields.drop 2).all Json.Field.mayEndBefore = true := rfl
    have two : 2 ≤ items.length := by
      cases items with
      | nil => cases madeOf.packages
      | cons first items =>
          cases items with
          | nil => cases madeOf.gitRef
          | cons second items => simp
    refine ⟨.value, rfl, by rw [List.length_map]; exact few, ?_, build.mpr madeOf⟩
    intro field member
    rw [List.length_map] at member
    exact List.all_eq_true.mp last field (List.drop_subset_drop_left _ two member)

end BuildRequest

/-! ## What the schema accepts -/

namespace PayloadSchema

variable {payload : Json}

theorem validate_iff : validate .buildRequest payload = .ok () ↔
    ∃ request, Json.readAs BuildRequest.reader payload = .ok request ∧ request.Sound := by
  simp only [validate]
  split
  · rename_i read
    simp [read]
  · rename_i read
    simp [read]
  · rename_i request read
    have sound : request.Sound ↔ Text.allBlank request.gitRef = false ∧
        request.packages.isEmpty = false ∧ request.packages.any Text.allBlank = false := by
      rw [List.any_eq_false, List.isEmpty_eq_false_iff]
      simp only [Bool.not_eq_true]
      exact ⟨fun ⟨gitRef, packages, named⟩ => ⟨gitRef, packages, named⟩,
        fun ⟨gitRef, packages, named⟩ => ⟨gitRef, packages, named⟩⟩
    simp only [read, Except.ok.injEq, exists_eq_left', sound]
    repeat' split
    all_goals simp_all

/-- A refusal always blames the payload. -/
theorem validate_refuses {failure : Failure}
    (refused : validate .buildRequest payload = .error failure) :
    ∃ message, failure = .invalidPayload message := by
  simp only [validate] at refused
  repeat' split at refused
  all_goals cases refused
  all_goals exact ⟨_, rfl⟩

/-- A sorted object has no name twice, so nothing hides behind the member that is read. -/
theorem accepts_iff (sorted : payload.Sorted) :
    validate .buildRequest payload = .ok () ↔ payload.IsRequest ∨ payload.ListsRequest := by
  rw [validate_iff]
  cases payload with
  | object members =>
      have listed : ¬ (Json.object members).ListsRequest := by
        rintro ⟨items, same, _⟩
        cases same
      simp only [BuildRequest.read_object_iff sorted.distinct, listed, or_false]
      rw [← BuildRequest.documented_iff]
      constructor
      · exact fun documented => ⟨members, rfl, documented⟩
      · rintro ⟨others, same, documented⟩
        cases same
        exact documented
  | array items =>
      have isArray : ¬ (Json.array items).IsRequest := by
        rintro ⟨members, same, _⟩
        cases same
      simp only [BuildRequest.read_array_iff, isArray, false_or, and_assoc, exists_and_left]
      rw [← BuildRequest.documented_iff]
      constructor
      · exact fun ⟨few, documented⟩ => ⟨items, rfl, few, documented⟩
      · rintro ⟨others, same, documented⟩
        cases same
        exact documented
  | _ =>
      simp [BuildRequest.reader, Json.readAs, Json.source, Json.RecordReader.read,
        Json.RecordReader.readWith, Json.wrongKind_ne_ok, Json.IsRequest, Json.ListsRequest]

/-- A payload is judged as documented: requests are accepted, and all else is refused
as an invalid payload. -/
def Judges (payload : Json) : Prop :=
  (payload.IsRequest → validate .buildRequest payload = .ok ()) ∧
    (¬ payload.IsRequest →
      ∃ message, validate .buildRequest payload = .error (.invalidPayload message))

/-- The schema accepts the documented requests and their members in an array. As the
latter are not documented, they are the payloads that it misjudges. -/
theorem judges_iff_not_listed (payload : Json) (sorted : payload.Sorted) :
    (Judges payload ↔ ¬ payload.ListsRequest) ∧
      (validate .buildRequest payload = .ok () ↔ payload.IsRequest ∨ payload.ListsRequest) := by
  have accepts := accepts_iff sorted
  refine ⟨?_, accepts⟩
  constructor
  · rintro ⟨_, refuses⟩ listed
    have documented : ¬ payload.IsRequest := fun isRequest => isRequest.not_listed listed
    rcases refuses documented with ⟨message, refused⟩
    rw [accepts.mpr (.inr listed)] at refused
    cases refused
  · intro unlisted
    constructor
    · exact fun isRequest => accepts.mpr (.inl isRequest)
    · intro undocumented
      cases judged : validate .buildRequest payload with
      | ok =>
          rcases accepts.mp judged with isRequest | listed
          · exact absurd isRequest undocumented
          · exact absurd listed unlisted
      | error failure =>
          rcases validate_refuses judged with ⟨message, rfl⟩
          exact ⟨message, rfl⟩

/-- A request for one package. -/
def sampleRequest : Json :=
  .object [("git_ref", .string "stable"), ("packages", .array [.string "bash"])]

theorem sample_request_judged : sampleRequest.Sorted ∧
    (Judges sampleRequest ↔ ¬ sampleRequest.ListsRequest) ∧
      (validate .buildRequest sampleRequest = .ok () ↔
        sampleRequest.IsRequest ∨ sampleRequest.ListsRequest) := by
  have ascending : ["git_ref", "packages"].Pairwise (· < ·) := by decide
  have sorted : sampleRequest.Sorted := ⟨ascending, trivial, ⟨trivial, trivial⟩, trivial⟩
  exact ⟨sorted, judges_iff_not_listed _ sorted⟩

/-- The array of a request's packages and version is no object, but it is accepted. -/
theorem sample_list_misjudged : ¬ Judges (.array [.array [.string "bash"], .string "stable"]) := by
  rintro ⟨_, refuses⟩
  have undocumented : ¬ (Json.array [.array [.string "bash"], .string "stable"]).IsRequest := by
    rintro ⟨members, same, _⟩
    cases same
  have accepted : validate .buildRequest (.array [.array [.string "bash"], .string "stable"]) =
      .ok () := by
    decide
  rcases refuses undocumented with ⟨message, refused⟩
  cases accepted.symm.trans refused

end PayloadSchema

end BuildFleet
