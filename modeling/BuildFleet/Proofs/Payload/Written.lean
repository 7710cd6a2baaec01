import BuildFleet.Proofs.Json.Copies
import BuildFleet.Proofs.Json.Found
import BuildFleet.Proofs.Payload.Acceptance

/-!
# Requests survive writing and reading

A request leaves out what it lacks, and reads null as if it were left out. So null is
never kept for a reply, and what is written for a request that was read is read as the
same request.
-/

namespace BuildFleet.BuildRequest

open Json (Context Copies Echoes Source)
open Json.RecordReader (seq_builds map_builds seq_build_iff nullable_build mem_of_lookup
  required_build_iff optional_build_iff)

variable {request : BuildRequest}

/-- The number has the width of its member, and there is something in the reply. -/
structure Fits (request : BuildRequest) : Prop where
  pullRequest : ∀ number ∈ request.githubPullRequest, number ≤ 18446744073709551615
  replyTo : ∀ reply ∈ request.replyTo, reply.Sorted ∧ reply ≠ .null

theorem Fits.echoes (fits : request.Fits) : Echoes toJson reader request := by
  rcases request with ⟨packages, gitRef, pullRequest, replyTo⟩
  have builds : ∀ {members : List (String × Json)},
      members.lookup "packages" = some (.array (packages.map .string)) →
      members.lookup "git_ref" = some (.string gitRef) →
      members.lookup "github_pr" = pullRequest.map (fun number => .integer number) →
      members.lookup "reply_to" = replyTo →
      ∀ {inner others}, Copies members others → inner.Admits (Json.nestingOfMembers members) →
        record.build inner (Json.sources others) =
          .ok ⟨packages, gitRef, pullRequest, replyTo⟩ := by
    intro members first second third fourth inner others copies admits
    refine seq_builds (seq_builds (seq_builds (map_builds ?_) ?_) ?_) ?_
    · exact copies.required first (Json.echoes_strings packages) admits
    · exact copies.required second (Json.echoes_string gitRef) admits
    · cases pullRequest with
      | none => exact copies.missing _ (.inl third)
      | some number =>
          exact copies.given (Json.echoes_nat64 (fits.pullRequest _ rfl)) third Json.noConfusion
            admits
    · cases replyTo with
      | none => exact copies.missing _ (.inl fourth)
      | some reply =>
          exact copies.given (Json.echoes_value (fits.replyTo _ rfl).1) fourth
            (fits.replyTo _ rfl).2 admits
  refine lawful.echoes rfl ?_ (builds ?_ ?_ ?_ ?_) "BuildRequest"
  · cases pullRequest <;> cases replyTo <;> simp
  · rfl
  · rfl
  · cases pullRequest <;> cases replyTo <;> rfl
  · cases pullRequest <;> cases replyTo <;> rfl

theorem Fits.spelled (fits : request.Fits) (reply : ∀ reply ∈ request.replyTo, reply.Spelled 126) :
    request.toJson.Spelled 127 := by
  apply Json.spelled_object
  simp only [List.forall_mem_append, List.forall_mem_cons, List.not_mem_nil, false_implies,
    implies_true, and_true]
  refine ⟨⟨⟨Json.spelled_strings _, Json.spelled_string _⟩, ?_⟩, ?_⟩
  · cases given : request.githubPullRequest with
    | none => simp
    | some number => simp [Json.spelled_natural (fits.pullRequest number given)]
  · cases given : request.replyTo with
    | none => simp
    | some value => simp [reply value given]

theorem fits_of_read {context : Context} {found : Source} (plain : found.Plain)
    (read : reader context found = .ok request) :
    request.Fits ∧ ∀ reply ∈ request.replyTo, context.Admits (reply.nesting + 1) := by
  rcases Json.RecordReader.read_builds plain read with ⟨inner, members, entered, built, parts⟩
  rcases seq_build_iff.mp built with ⟨_, replyTo, three, replyRead, rfl⟩
  rcases seq_build_iff.mp three with ⟨_, pullRequest, two, pullRead, rfl⟩
  rcases seq_build_iff.mp two with ⟨_, gitRef, one, _, rfl⟩
  rcases Json.map_eq_ok.mp one with ⟨packages, _, rfl⟩
  have settled : ∀ reply ∈ replyTo, Json.Settled inner reply ∧ reply ≠ .null := by
    rintro reply rfl
    rcases optional_build_iff.mp replyRead with
      ⟨_, none⟩ | ⟨found, value, there, given, answer, same⟩
    · cases none
    · cases same
      have part := parts _ (mem_of_lookup there)
      refine ⟨Json.readValue_settled found part answer, ?_⟩
      rintro rfl
      exact given (Json.readValue_null part answer)
  refine ⟨⟨?_, fun reply given => ⟨(settled reply given).1.sorted, (settled reply given).2⟩⟩,
    fun reply given => .leave entered (settled reply given).1.admitted⟩
  intro number given
  rcases nullable_build pullRead number given with ⟨_, _, answer⟩
  exact Int.ofNat_le.mp (Json.readNatural_bound answer)

end BuildFleet.BuildRequest
