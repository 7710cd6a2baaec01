import BuildFleet.Http.Api
import BuildFleet.Proofs.Services.Inspection
import BuildFleet.Proofs.Store.Run

/-!
# Requests without the token

The token is asked for at every path under which something changes, before the
method and the content of the request are looked at. All that is served without it
only looks at the store.
-/

namespace BuildFleet

namespace Endpoint

/-- The token is asked for wherever a request can change something. -/
theorem needsToken_iff {endpoint : Endpoint} : endpoint.needsToken = true ↔
    endpoint = .submission ∨ endpoint = .batch ∨ ∃ id, endpoint = .cancellation id := by
  cases endpoint <;> simp [needsToken]

end Endpoint

namespace Api

variable {api : Api} {request : HttpRequest} {endpoint : Endpoint} {actor : Actor}
  {services : Services}

/-! ## What is served without the token -/

theorem respond_inspects {action : Action HttpResponse} (inspects : action.Inspects) :
    (respond action).Inspects := by
  refine .bind (.attempt inspects) fun answer => ?_
  cases answer <;> exact .pure _

theorem withRead_inspects {α : Type} {content : Except HttpResponse α}
    {go : α → Action HttpResponse} (inspects : ∀ value, (go value).Inspects) :
    (withRead content go).Inspects := by
  cases content with
  | ok value => exact respond_inspects (inspects value)
  | error response => exact .pure _

theorem serve_inspects (isOpen : endpoint.needsToken = false) :
    (api.serve request endpoint).Inspects := by
  have asks := api.dispatcher.status_inspects
  cases endpoint with
  | health => exact .pure _
  | readiness => exact respond_inspects (.bind asks fun _ => .pure _)
  | fleetStatus => exact respond_inspects (.bind asks fun _ => .pure _)
  | job encodedId =>
      exact withRead_inspects fun id => .bind (Dispatcher.query_inspects id) fun _ => .pure _
  | submission => cases isOpen
  | batch => cases isOpen
  | cancellation encodedId => cases isOpen

/-! ## Who is turned away -/

/-- A token is presented by a header that consists of the scheme and the token. -/
theorem mem_of_presentedToken? {presented : String}
    (presents : presentedToken? request = some presented) :
    ∃ header ∈ request.headers,
      header.1.map Char.toLower = "authorization" ∧ header.2 = "Bearer " ++ presented := by
  rcases Option.bind_eq_some_iff.mp presents with ⟨value, isText, stripped⟩
  rcases Option.map_eq_some_iff.mp (Option.filter_eq_some_iff.mp isText).1 with
    ⟨header, found, rfl⟩
  rcases Option.ite_none_right_eq_some.mp stripped with ⟨isScheme, rest⟩
  rcases List.isPrefixOf_iff_prefix.mp isScheme with ⟨token, whole⟩
  refine ⟨header, List.mem_of_find?_eq_some found, by simpa using List.find?_some found, ?_⟩
  apply String.toList_injective
  cases rest
  simp [← whole]

/-- No header of the request presents a token that matches. -/
def LacksToken (token : String) (request : HttpRequest) : Prop :=
  ∀ header ∈ request.headers, header.1.map Char.toLower = "authorization" →
    ∀ presented, header.2 = "Bearer " ++ presented → tokenMatches presented token = false

theorem LacksToken.refused {token : String} (lacks : LacksToken token request)
    (configured : api.token = some token) :
    ∃ message, api.refusal? request = some (.error 401 message) := by
  unfold refusal?
  rw [configured]
  cases presents : presentedToken? request with
  | none => exact ⟨_, rfl⟩
  | some presented =>
      rcases mem_of_presentedToken? presents with ⟨header, member, isAuthorization, isBearer⟩
      have mismatch := lacks header member isAuthorization presented isBearer
      refine ⟨"invalid token", ?_⟩
      simp [mismatch]

theorem respondTo_inspects {token : String} (lacks : LacksToken token request)
    (configured : api.token = some token) : (api.respondTo request).Inspects := by
  rcases lacks.refused configured with ⟨message, refused⟩
  unfold respondTo
  split
  · exact .pure _
  · rename_i endpoint _
    cases guarded : endpoint.needsToken with
    | true =>
        simp only [gate, guarded, if_true, refused]
        exact .pure _
    | false =>
        simp only [gate, guarded, Bool.false_eq_true, if_false]
        split
        · exact serve_inspects guarded
        · exact .pure _

/-- A request without the token changes nothing, and where it could change something it is
turned away, whatever its content and whatever job it names. -/
theorem nothing_changes_without_token {token : String} (configured : api.token = some token)
    (lacks : LacksToken token request) (actor : Actor) (services : Services) :
    (api.handle request actor services).2.store = services.store ∧
      (api.handle request actor services).2.queue = services.queue ∧
      ∀ endpoint, Endpoint.ofSegments? request.segments = some endpoint →
        endpoint = .submission ∨ endpoint = .batch ∨ (∃ id, endpoint = .cancellation id) →
        ∃ response, (api.handle request actor services).1 = .done response ∧
          response.status = 401 := by
  have inspects : (api.handle request).Inspects :=
    .bind (respondTo_inspects lacks configured) fun _ => .pure _
  refine ⟨(inspects actor services).1, (inspects actor services).2, ?_⟩
  intro endpoint leads changes
  rcases lacks.refused configured with ⟨message, refused⟩
  have guarded : api.gate request endpoint = some (.error 401 message) := by
    rw [gate, Endpoint.needsToken_iff.mpr changes, if_pos rfl, refused]
  have turnedAway : api.respondTo request = pure (.error 401 message) := by
    simp only [respondTo, leads, guarded]
  rw [handle, turnedAway, Action.bind_apply]
  refine ⟨_, rfl, ?_⟩
  split <;> rfl

end Api

namespace Sample

def guardedApi : Api := ⟨⟨settings.targets, .any, .ofSeconds 600⟩, some "s3cret"⟩

/-- A cancellation with a token that differs in one letter. -/
def forgedRequest : HttpRequest :=
  ⟨"POST", "/api/v1/jobs/0/cancel", [("Authorization", "Bearer s3creT")], "no JSON"⟩

theorem forgedRequest_lacksToken : Api.LacksToken "s3cret" forgedRequest := by
  intro header member _ presented isBearer
  rw [Api.tokenMatches, beq_eq_false_iff_ne]
  rintro rfl
  rw [List.mem_singleton.mp member] at isBearer
  exact absurd isBearer (by decide)

end Sample

theorem Api.sample_nothing_changes_without_token :
    let handled := Sample.guardedApi.handle Sample.forgedRequest .main
      (.start Sample.settings (Sample.moment 0))
    Sample.guardedApi.token = some "s3cret" ∧ LacksToken "s3cret" Sample.forgedRequest ∧
      handled.2.store = .empty ∧
      ∃ response, handled.1 = .done response ∧ response.status = 401 := by
  intro handled
  have configured : Sample.guardedApi.token = some "s3cret" := rfl
  have lacks := Sample.forgedRequest_lacksToken
  rcases nothing_changes_without_token configured lacks .main
    (.start Sample.settings (Sample.moment 0)) with ⟨store, _, turnedAway⟩
  have leads : Endpoint.ofSegments? Sample.forgedRequest.segments = some (.cancellation "0") := by
    decide +kernel
  exact ⟨configured, lacks, store, turnedAway _ leads (.inr (.inr ⟨"0", rfl⟩))⟩

end BuildFleet
