import BuildFleet.CommandLine.Session
import BuildFleet.Proofs.Http.Token

/-!
# Requests with the token

A token without control characters can be sent in a header, and commands send it so. The
interface reads no header but one of visible ASCII characters: it lets the token through exactly
if all of its characters are ASCII, and says of any other one that it is missing.
-/

namespace BuildFleet

namespace Text

/-- No character of the text is one of the control characters of Unicode. -/
def NoControls (text : String) : Prop := ∀ character ∈ text.toList,
  ¬ (character.toNat < 32 ∨ (127 ≤ character.toNat ∧ character.toNat < 160))

instance (text : String) : Decidable (NoControls text) := List.decidableBAll _ _

def IsAscii (text : String) : Prop := ∀ character ∈ text.toList, character.toNat < 128

instance (text : String) : Decidable (IsAscii text) := List.decidableBAll _ _

end Text

/-- The first authorization header of the request is the scheme with the token behind it. -/
def HttpRequest.Presents (request : HttpRequest) (token : String) : Prop :=
  request.header? "authorization" = some ("Bearer " ++ token)

variable {api : Api} {request : HttpRequest} {token : String}

/-- A header can hold any token without control characters. -/
theorem ClientRequest.isHeaderValue_bearer (plain : Text.NoControls token) :
    isHeaderValue ("Bearer " ++ token) = true := by
  simp [isHeaderValue]
  intro character member
  have visible := plain character member
  omega

/-- The header is read only if the token is ASCII. -/
theorem HttpRequest.textHeader?_of_presents (plain : Text.NoControls token)
    (presents : request.Presents token) :
    request.textHeader? "authorization" =
      if Text.IsAscii token then some ("Bearer " ++ token) else none := by
  have legible : ("Bearer " ++ token).toList.all (fun character =>
      (32 ≤ character.toNat && character.toNat < 127) || character == '\t') =
      decide (Text.IsAscii token) := by
    rw [Bool.eq_iff_iff, String.toList_append, List.all_append, Bool.and_eq_true,
      and_iff_right (by decide), List.all_eq_true, decide_eq_true_iff, Text.IsAscii]
    apply forall₂_congr
    intro character member
    have visible := plain character member
    by_cases tab : character = '\t'
    · subst tab
      exact absurd (.inl (by decide)) visible
    · simp [tab]
      omega
  rw [textHeader?, presents, Option.filter_some, legible]
  by_cases ascii : Text.IsAscii token <;> simp [ascii]

namespace Api

theorem presentedToken?_of_presents (plain : Text.NoControls token)
    (presents : request.Presents token) :
    presentedToken? request = if Text.IsAscii token then some token else none := by
  have scheme : "Bearer ".toList.isPrefixOf ("Bearer " ++ token).toList = true := by
    rw [String.toList_append]
    exact List.isPrefixOf_iff_prefix.mpr (List.prefix_append _ _)
  have rest : ("Bearer " ++ token).toList.drop "Bearer ".toList.length = token.toList := by
    rw [String.toList_append, List.drop_left]
  rw [presentedToken?, HttpRequest.textHeader?_of_presents plain presents]
  by_cases ascii : Text.IsAscii token
  · simp only [if_pos ascii, Option.bind_some, if_pos scheme, rest, String.ofList_toList]
  · simp only [if_neg ascii, Option.bind_none]

theorem refusal?_of_presents (configured : api.token = some token) (plain : Text.NoControls token)
    (presents : request.Presents token) :
    api.refusal? request =
      if Text.IsAscii token then none else some (.error 401 "missing bearer token") := by
  simp only [refusal?, configured, presentedToken?_of_presents plain presents]
  by_cases ascii : Text.IsAscii token <;> simp [ascii, tokenMatches]

/-- The right token is let through exactly if it is ASCII. A request that presents it is then
served as if no token were asked for; otherwise it is turned away wherever one is needed, although
the token could be sent. -/
theorem admits_iff_ascii (configured : api.token = some token) (plain : Text.NoControls token)
    (presents : request.Presents token) :
    ClientRequest.isHeaderValue ("Bearer " ++ token) = true ∧
      (api.refusal? request = none ↔ Text.IsAscii token) ∧
      ∀ endpoint, Endpoint.ofSegments? request.segments = some endpoint →
        (Text.IsAscii token → endpoint.takes request.method = true →
          api.respondTo request = api.serve request endpoint) ∧
        (¬ Text.IsAscii token → endpoint.needsToken = true →
          api.respondTo request = pure (.error 401 "missing bearer token")) := by
  have refusal := refusal?_of_presents configured plain presents
  refine ⟨ClientRequest.isHeaderValue_bearer plain, by simp [refusal], ?_⟩
  intro endpoint leads
  constructor
  · intro ascii takes
    simp [respondTo, leads, gate, refusal, ascii, takes]
  · intro foreign guarded
    simp [respondTo, leads, gate, refusal, foreign, guarded]

end Api

/-! ## Tokens that commands send -/

/-- The header that commands add presents the token that they are given. -/
theorem CommandLine.Session.presents_authorization {invocation : Invocation}
    {others : List (String × String)} (given : invocation.token = some token)
    (apart : ∀ header ∈ others, header.1.map Char.toLower ≠ "authorization")
    (headers : request.headers = others ++ authorization invocation) :
    request.Presents token := by
  have named : "authorization".map Char.toLower = "authorization" := by decide +kernel
  have none : others.find? (fun header => header.1.map Char.toLower = "authorization") = none := by
    simpa using apart
  simp [HttpRequest.Presents, HttpRequest.header?, headers, authorization, given,
    List.find?_append, none, named]

namespace Sample

def callWithToken (token : String) : CommandLine.Invocation :=
  ⟨"http://localhost:3000", some token, "buildit.kdl", false, .cancel "0"⟩

/-- A cancellation as it arrives from the command. -/
def requestWithToken (token : String) : HttpRequest :=
  ⟨"POST", "/api/v1/jobs/0/cancel", CommandLine.Session.authorization (callWithToken token), ""⟩

def apiWithToken (token : String) : Api := { guardedApi with token := some token }

theorem requestWithToken_presents (token : String) : (requestWithToken token).Presents token := by
  have headers : (requestWithToken token).headers =
      [] ++ CommandLine.Session.authorization (callWithToken token) := rfl
  exact CommandLine.Session.presents_authorization rfl (by simp) headers

end Sample

/-- Blanks belong to a token. -/
theorem Api.sample_token_with_blanks :
    Text.NoControls " a token " ∧ (Sample.requestWithToken " a token ").Presents " a token " ∧
      (Sample.apiWithToken " a token ").refusal? (Sample.requestWithToken " a token ") = none := by
  have plain : Text.NoControls " a token " := by decide
  have presents := Sample.requestWithToken_presents " a token "
  have configured : (Sample.apiWithToken " a token ").token = some " a token " := rfl
  have admits := Api.admits_iff_ascii configured plain presents
  exact ⟨plain, presents, admits.2.1.mpr (by decide)⟩

/-- The command sends the token that is configured, and the interface does not see it. -/
theorem Api.sample_token_unseen :
    Text.NoControls "schlüssel" ∧ (Sample.requestWithToken "schlüssel").Presents "schlüssel" ∧
      ClientRequest.isHeaderValue "Bearer schlüssel" = true ∧
      (Sample.apiWithToken "schlüssel").refusal? (Sample.requestWithToken "schlüssel") =
        some (.error 401 "missing bearer token") := by
  have plain : Text.NoControls "schlüssel" := by decide
  have presents := Sample.requestWithToken_presents "schlüssel"
  have configured : (Sample.apiWithToken "schlüssel").token = some "schlüssel" := rfl
  have refusal := Api.refusal?_of_presents configured plain presents
  rw [if_neg (by decide)] at refusal
  exact ⟨plain, presents, by decide, refusal⟩

end BuildFleet
