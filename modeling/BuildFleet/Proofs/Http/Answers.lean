import BuildFleet.Http.Client
import BuildFleet.Proofs.Dispatcher.Submission
import BuildFleet.Proofs.Http.Token
import BuildFleet.Proofs.Store.Course

/-!
# Answers tell what was done

`Api.Served` lists all that can come of a request while no call of the dispatcher is
made to fail. What the status of an answer says about the store and the queues is a
case analysis of it.
-/

namespace BuildFleet

theorem HttpResponse.ofFailure_unsuccessful (failure : Failure) :
    Http.isSuccess (ofFailure failure).status = false := by
  cases failure <;> rfl

/-! ## What is done -/

namespace Services

/-- Each part of the submission has become a queued job under an identifier of its own,
which waits at its target. Nothing else has changed in the store. -/
structure Submits (payload : Json) (submitted : List Submitted) (before after : Services) :
    Prop where
  store : after.store = { before.store with
    jobs := before.store.jobs ++ submitted.map (Submitted.job payload before.now) }
  unused : ∀ part ∈ submitted, before.store.job? part.jobId = none
  distinct : (submitted.map (·.jobId)).Nodup
  pending : ∀ part ∈ submitted, part.jobId ∈ after.queue.pending part.target

/-- The job was stored and had not ended, and now it is cancelled and there is one event
more. All other jobs and the queues are as they were. -/
structure Cancels (job : Job) (before after : Services) : Prop where
  stored : before.store.job? job.id = some job
  unfinished : job.status.isTerminal = false
  cancelled : after.store.job? job.id = some (job.cancelledAt before.now)
  others : ∀ id, id ≠ job.id → after.store.job? id = before.store.job? id
  sameIds : after.store.jobs.map (·.id) = before.store.jobs.map (·.id)
  announced : ∃ event, after.store.outbox = before.store.outbox ++ [⟨event, false⟩] ∧
    event.jobId = job.id ∧ event.status = .cancelled
  queue : after.queue = before.queue

end Services

namespace Api

variable {api : Api} {request : HttpRequest} {actor : Actor} {services : Services}
  {endpoint : Endpoint}

/-- The store and the queue are as calls have left them, the store takes the targets of the
registry, no call of the dispatcher is going to fail, and the next identifiers are new. -/
structure Ready (api : Api) (services : Services) : Prop where
  built : api.dispatcher.targets.Built
  accepts : ∀ target, services.settings.targets.contains target =
    api.dispatcher.targets.contains target
  course : ∃ history, Store.Course services.settings .empty history services.store
  reached : services.queue.Reached
  unplanned : services.Unplanned Dispatcher.MayCall
  unused : ∀ id ∈ freshIds services.made api.dispatcher.targets.targets.length,
    services.store.job? id = none
  distinct : (freshIds services.made api.dispatcher.targets.targets.length).Nodup

namespace Ready

theorem known (ready : api.Ready services) : ∀ target ∈ api.dispatcher.targets.targets,
    services.settings.targets.contains target = true := fun target member =>
  (ready.accepts target).trans (TargetRegistry.contains_iff.mpr member)

theorem distinct_ids (ready : api.Ready services) :
    (services.store.jobs.map (·.id)).Nodup := by
  rcases ready.course with ⟨history, course⟩
  exact course.distinct_from_empty

theorem submits (ready : api.Ready services) {targets : List Target}
    (fit : targets.length ≤ api.dispatcher.targets.targets.length) (payload : Json)
    (awakened : List Subscription) (journal : List Entry) :
    services.Submits payload (Submitted.numbered services.made targets)
      (services.queueing ((Submitted.numbered services.made targets).map
        (Submitted.job payload services.now)) awakened journal) where
  store := rfl
  unused := Submitted.unused_numbered ready.unused fit
  distinct := by
    rw [Submitted.map_jobId_numbered]
    exact ready.distinct.sublist (freshIds_sublist _ fit)
  pending := fun _ member =>
    ready.reached.sound.mem_publishEach (List.mem_map_of_mem member)

end Ready

/-- A cancellation in the store is one of the services. -/
theorem cancels_of_found {job : Job} {journal : List Entry} {id : JobId}
    (found : services.store.job? id = some job) (unfinished : job.status.isTerminal = false) :
    services.Cancels job { services with
      store := (services.store.replace (job.cancelledAt services.now)).announce
        (job.cancelledAt services.now) services.now
      journal } where
  stored := (Store.job?_id found).symm ▸ found
  unfinished := unfinished
  cancelled := by
    rw [Store.job?_announce, Store.job?_id found]
    exact Store.job?_replace_self found rfl
  others := by
    intro other different
    rw [Store.job?_announce, Store.job?_replace]
    cases there : services.store.job? other with
    | none => rfl
    | some bystander =>
        rw [Option.map_some, if_neg]
        exact fun same => different ((Store.job?_id there).symm.trans same)
  sameIds := Store.map_id_replace _
  announced := ⟨_, rfl, rfl, rfl⟩
  queue := rfl

/-! ## All that can come of a request -/

inductive Served (api : Api) (request : HttpRequest) (before : Services) :
    Outcome HttpResponse × Services → Prop
  | inspected {outcome : Outcome HttpResponse} {after : Services} {endpoint : Endpoint}
      (leads : Endpoint.ofSegments? request.segments = some endpoint)
      (isOpen : endpoint.needsToken = false)
      (same : after.store = before.store ∧ after.queue = before.queue) :
      Served api request before (outcome, after)
  | declined {response : HttpResponse} {after : Services}
      (unsuccessful : Http.isSuccess response.status = false)
      (same : after.store = before.store ∧ after.queue = before.queue) :
      Served api request before (.done response, after)
  | submitted {submission : Submission} {id : JobId} {after : Services}
      (leads : Endpoint.ofSegments? request.segments = some .submission)
      (posts : request.method = "POST")
      (read : readContent Submission.reader request = .ok submission)
      (submits : before.Submits submission.payload [⟨⟨submission.target⟩, id⟩] after) :
      Served api request before (.done (.json 201 (.object [("job_id", id.toJson)])), after)
  | submittedEach {batch : BatchSubmission} {targets : List Target}
      {submitted : List Submitted} {after : Services}
      (leads : Endpoint.ofSegments? request.segments = some .batch)
      (posts : request.method = "POST")
      (read : readContent BatchSubmission.reader request = .ok batch)
      (expands : api.dispatcher.targets.expand batch.names = .ok targets)
      (ascending : targets.Pairwise (· < ·)) (covers : submitted.map (·.target) = targets)
      (submits : before.Submits batch.payload submitted after) :
      Served api request before
        (.done (.json 201 (.object [("jobs", .array (submitted.map Submitted.toJson))])), after)
  | cancelled {encodedId : String} {id : JobId} {job : Job} {after : Services}
      (leads : Endpoint.ofSegments? request.segments = some (.cancellation encodedId))
      (posts : request.method = "POST") (named : readId encodedId = .ok id)
      (sameId : job.id = id) (cancels : before.Cancels job after) :
      Served api request before (.done (.bare 204), after)

/-! ## Answers that decline -/

theorem readContent_unsuccessful {α : Type} {read : Json.Reader α} {response : HttpResponse}
    (declines : readContent read request = .error response) :
    Http.isSuccess response.status = false := by
  unfold readContent at declines
  split at declines
  · cases declines
    rfl
  · split at declines
    · cases declines
      rfl
    · split at declines <;> cases declines <;> rfl

theorem readId_unsuccessful {encodedId : String} {response : HttpResponse}
    (declines : readId encodedId = .error response) :
    Http.isSuccess response.status = false := by
  unfold readId at declines
  split at declines
  · cases declines
    rfl
  · split at declines <;> cases declines
    rfl

theorem gate_unsuccessful {response : HttpResponse}
    (declines : api.gate request endpoint = some response) :
    Http.isSuccess response.status = false := by
  unfold gate refusal? at declines
  split at declines
  · split at declines
    · cases declines
    · split at declines
      · cases declines
        rfl
      · split at declines <;> cases declines
        rfl
  · cases declines

/-! ## Endpoints that change jobs -/

section Responses

variable {α : Type} {action : Action α} {after : Services}

theorem respond_done {value : α} (done : action actor services = (.done value, after))
    (answer : α → HttpResponse) :
    respond (action >>= fun value => pure (answer value)) actor services =
      (.done (answer value), after) := by
  rw [respond, Action.bind_apply, Action.attempt, Action.bind_apply, done]
  rfl

theorem respond_failed {failure : Failure}
    (failed : action actor services = (.failed failure, after)) (next : α → Action HttpResponse) :
    respond (action >>= next) actor services = (.done (.ofFailure failure), after) := by
  rw [respond, Action.bind_apply, Action.attempt, Action.bind_apply, failed]
  rfl

end Responses

theorem serve_submission (ready : api.Ready services) (actor : Actor)
    (leads : Endpoint.ofSegments? request.segments = some .submission)
    (posts : request.method = "POST") :
    api.Served request services (api.serve request .submission actor services) := by
  rw [serve]
  cases read : readContent Submission.reader request with
  | error response => exact .declined (readContent_unsuccessful read) ⟨rfl, rfl⟩
  | ok submission =>
      rw [withRead]
      rcases Dispatcher.submit_cases submission.target submission.payload ready.known
        ready.unplanned actor with ⟨failure, fails⟩ | ⟨member, awakened, journal, makes⟩
      · rw [respond_failed fails]
        exact .declined (HttpResponse.ofFailure_unsuccessful _) ⟨rfl, rfl⟩
      · rw [respond_done makes]
        have fit : [Target.mk submission.target].length ≤
            api.dispatcher.targets.targets.length := List.length_pos_of_mem member
        exact .submitted leads posts read (ready.submits fit _ _ _)

theorem serve_batch (ready : api.Ready services) (actor : Actor)
    (leads : Endpoint.ofSegments? request.segments = some .batch)
    (posts : request.method = "POST") :
    api.Served request services (api.serve request .batch actor services) := by
  rw [serve]
  cases read : readContent BatchSubmission.reader request with
  | error response => exact .declined (readContent_unsuccessful read) ⟨rfl, rfl⟩
  | ok batch =>
      rw [withRead]
      rcases Dispatcher.submitAll_cases batch.names batch.payload ready.built ready.known
        ready.unplanned actor with
        ⟨failure, fails⟩ | ⟨targets, expands, awakened, journal, makes⟩
      · rw [respond_failed fails]
        exact .declined (HttpResponse.ofFailure_unsuccessful _) ⟨rfl, rfl⟩
      · rw [respond_done makes]
        rcases ready.built.expand expands with ⟨ascending, known⟩
        exact .submittedEach leads posts read expands ascending
          (Submitted.map_target_numbered _ _)
          (ready.submits (TargetRegistry.length_le ascending known) _ _ _)

theorem serve_named {encodedId : String} {id : JobId} (named : readId encodedId = .ok id) :
    api.serve request (.cancellation encodedId) =
      respond (Dispatcher.cancel id >>= fun _ => pure (.bare 204)) := by
  rw [serve, named]
  rfl

theorem serve_cancellation (ready : api.Ready services) (actor : Actor) {encodedId : String}
    (leads : Endpoint.ofSegments? request.segments = some (.cancellation encodedId))
    (posts : request.method = "POST") :
    api.Served request services (api.serve request (.cancellation encodedId) actor services) := by
  cases named : readId encodedId with
  | error response =>
      rw [serve, named]
      exact .declined (readId_unsuccessful named) ⟨rfl, rfl⟩
  | ok id =>
      rw [serve_named named]
      have outcome := Dispatcher.cancel_outcome ready.distinct_ids ready.unplanned id actor
      generalize cancels : Dispatcher.cancel id actor services = result at outcome
      cases outcome with
      | missing absent =>
          rw [respond_failed cancels]
          exact .declined (HttpResponse.ofFailure_unsuccessful _) ⟨rfl, rfl⟩
      | ended found ended =>
          rw [respond_failed cancels]
          exact .declined (HttpResponse.ofFailure_unsuccessful _) ⟨rfl, rfl⟩
      | cancelled found unfinished =>
          rw [respond_done cancels]
          exact .cancelled leads posts named (Store.job?_id found)
            (cancels_of_found found unfinished)

/-! ## Any request -/

theorem respondTo_served (ready : api.Ready services) (request : HttpRequest) (actor : Actor) :
    api.Served request services (api.respondTo request actor services) := by
  unfold respondTo
  cases leads : Endpoint.ofSegments? request.segments with
  | none => exact .declined rfl ⟨rfl, rfl⟩
  | some endpoint =>
      dsimp only
      cases guarded : api.gate request endpoint with
      | some refusal => exact .declined (gate_unsuccessful guarded) ⟨rfl, rfl⟩
      | none =>
          dsimp only
          split
          · rename_i takes
            cases changes : endpoint.needsToken with
            | false => exact .inspected leads changes (serve_inspects changes actor services)
            | true =>
                have posts : request.method = "POST" := by
                  simpa [Endpoint.takes, changes] using takes
                rcases Endpoint.needsToken_iff.mp changes with rfl | rfl | ⟨encodedId, rfl⟩
                · exact serve_submission ready actor leads posts
                · exact serve_batch ready actor leads posts
                · exact serve_cancellation ready actor leads posts
          · exact .declined rfl ⟨rfl, rfl⟩

theorem handle_of_posts (posts : request.method = "POST") (actor : Actor) (services : Services) :
    api.handle request actor services = api.respondTo request actor services := by
  have whole : request.method ≠ "HEAD" := by simp [posts]
  simp only [handle, if_neg whole]
  rw [Action.bind_apply]
  generalize api.respondTo request actor services = result
  rcases result with ⟨_ | _ | _, after⟩ <;> rfl

theorem handle_served (ready : api.Ready services) (request : HttpRequest) (actor : Actor) :
    api.Served request services (api.handle request actor services) := by
  have served := respondTo_served ready request actor
  by_cases posts : request.method = "POST"
  · rw [handle_of_posts posts]
    exact served
  · rw [handle, Action.bind_apply]
    generalize api.respondTo request actor services = result at served
    cases served with
    | @inspected outcome after endpoint leads isOpen same =>
        cases outcome <;> exact .inspected leads isOpen same
    | declined unsuccessful same =>
        refine .declined ?_ same
        split <;> exact unsuccessful
    | submitted leads posted => exact absurd posted posts
    | submittedEach leads posted => exact absurd posted posts
    | cancelled leads posted => exact absurd posted posts

/-! ## What the status says -/

/-- What a success means at an endpoint that changes jobs. -/
def Fulfils (api : Api) (request : HttpRequest) (before after : Services)
    (response : HttpResponse) : Endpoint → Prop
  | .submission => ∃ submission id,
      readContent Submission.reader request = .ok submission ∧
      response = .json 201 (.object [("job_id", id.toJson)]) ∧
      before.Submits submission.payload [⟨⟨submission.target⟩, id⟩] after
  | .batch => ∃ batch targets submitted,
      readContent BatchSubmission.reader request = .ok batch ∧
      api.dispatcher.targets.expand batch.names = .ok targets ∧
      targets.Pairwise (· < ·) ∧ submitted.map Submitted.target = targets ∧
      response = .json 201 (.object [("jobs", .array (submitted.map Submitted.toJson))]) ∧
      before.Submits batch.payload submitted after
  | .cancellation encodedId => ∃ job : Job,
      readId encodedId = .ok job.id ∧ before.Cancels job after
  | .health | .readiness | .fleetStatus | .job _ => True

namespace Served

variable {handled : Outcome HttpResponse × Services} {response : HttpResponse}

theorem of_reading (served : api.Served request services handled)
    (reads : request.method = "GET") :
    handled.2.store = services.store ∧ handled.2.queue = services.queue := by
  have notPosted : request.method ≠ "POST" := by simp [reads]
  cases served with
  | inspected _ _ same => exact same
  | declined _ same => exact same
  | submitted _ posts => exact absurd posts notPosted
  | submittedEach _ posts => exact absurd posts notPosted
  | cancelled _ posts => exact absurd posts notPosted

theorem of_unsuccessful (served : api.Served request services handled)
    (answered : handled.1 = .done response)
    (unsuccessful : Http.isSuccess response.status = false) :
    handled.2.store = services.store ∧ handled.2.queue = services.queue := by
  cases served with
  | inspected _ _ same => exact same
  | declined _ same => exact same
  | submitted => cases answered; cases unsuccessful
  | submittedEach => cases answered; cases unsuccessful
  | cancelled => cases answered; cases unsuccessful

theorem fulfils (served : api.Served request services handled)
    (answered : handled.1 = .done response)
    (success : Http.isSuccess response.status = true)
    (leads : Endpoint.ofSegments? request.segments = some endpoint) :
    api.Fulfils request services handled.2 response endpoint := by
  cases served with
  | inspected leadsHere isOpen _ =>
      cases leads.symm.trans leadsHere
      -- An endpoint that only looks promises nothing, and no other one is open.
      cases endpoint with
      | submission | batch | cancellation => cases isOpen
      | health | readiness | fleetStatus | job => trivial
  | declined unsuccessful _ =>
      cases answered
      exact absurd success (Bool.eq_false_iff.mp unsuccessful)
  | submitted leadsHere _ read submits =>
      cases leads.symm.trans leadsHere
      cases answered
      exact ⟨_, _, read, rfl, submits⟩
  | submittedEach leadsHere _ read expands ascending covers submits =>
      cases leads.symm.trans leadsHere
      cases answered
      exact ⟨_, _, _, read, expands, ascending, covers, rfl, submits⟩
  | cancelled leadsHere _ named sameId cancels =>
      cases leads.symm.trans leadsHere
      exact ⟨_, sameId ▸ named, cancels⟩

end Served

/-- A cancellation that may pass is answered, and says why if it was in vain. -/
theorem handle_cancellation (ready : api.Ready services) (actor : Actor) {encodedId : String}
    {id : JobId} (leads : Endpoint.ofSegments? request.segments = some (.cancellation encodedId))
    (posts : request.method = "POST") (passes : api.refusal? request = none)
    (named : readId encodedId = .ok id) :
    ∃ response, (api.handle request actor services).1 = .done response ∧
      (services.store.job? id = none → response.status = 404) ∧
      ∀ job, services.store.job? id = some job → job.status.isTerminal = true →
        response.status = 409 := by
  have reaches : api.respondTo request = api.serve request (.cancellation encodedId) := by
    simp [respondTo, leads, gate, passes, Endpoint.takes, Endpoint.needsToken, posts]
  rw [handle_of_posts posts, reaches, serve_named named]
  have outcome := Dispatcher.cancel_outcome ready.distinct_ids ready.unplanned id actor
  generalize cancels : Dispatcher.cancel id actor services = result at outcome
  cases outcome with
  | missing absent =>
      rw [respond_failed cancels]
      exact ⟨_, rfl, fun _ => rfl, fun job found => by simp [absent] at found⟩
  | ended found ended =>
      rw [respond_failed cancels]
      exact ⟨_, rfl, fun absent => by simp [found] at absent, fun _ _ _ => rfl⟩
  | cancelled found unfinished =>
      rw [respond_done cancels]
      refine ⟨_, rfl, fun absent => by simp [found] at absent, fun job same ended => ?_⟩
      cases found.symm.trans same
      exact absurd ended (Bool.eq_false_iff.mp unfinished)

/-- The status of an answer says what was done. A request that reads and an answer that
is no success change nothing; a success at the endpoint of submissions means that the
jobs it lists have been made, and one at that of cancellations that the job it names has
been cancelled; a cancellation in vain tells a job that has ended from one that is not
there. -/
theorem answers_tell_truth (ready : api.Ready services) (request : HttpRequest) (actor : Actor) :
    let handled := api.handle request actor services
    (request.method = "GET" →
      handled.2.store = services.store ∧ handled.2.queue = services.queue) ∧
    (∀ response, handled.1 = .done response →
      (Http.isSuccess response.status = false →
        handled.2.store = services.store ∧ handled.2.queue = services.queue) ∧
      (Endpoint.ofSegments? request.segments = some .submission → response.status = 201 →
        ∃ submission id, readContent Submission.reader request = .ok submission ∧
          response = .json 201 (.object [("job_id", id.toJson)]) ∧
          services.Submits submission.payload [⟨⟨submission.target⟩, id⟩] handled.2) ∧
      (Endpoint.ofSegments? request.segments = some .batch → response.status = 201 →
        ∃ batch targets submitted, readContent BatchSubmission.reader request = .ok batch ∧
          api.dispatcher.targets.expand batch.names = .ok targets ∧
          targets.Pairwise (· < ·) ∧ submitted.map Submitted.target = targets ∧
          response = .json 201 (.object [("jobs", .array (submitted.map Submitted.toJson))]) ∧
          services.Submits batch.payload submitted handled.2) ∧
      ∀ encodedId, Endpoint.ofSegments? request.segments = some (.cancellation encodedId) →
        response.status = 204 →
        ∃ job : Job, readId encodedId = .ok job.id ∧ services.Cancels job handled.2) ∧
    ∀ encodedId id, Endpoint.ofSegments? request.segments = some (.cancellation encodedId) →
      request.method = "POST" → api.refusal? request = none → readId encodedId = .ok id →
      ∃ response, handled.1 = .done response ∧
        (services.store.job? id = none → response.status = 404) ∧
        ∀ job, services.store.job? id = some job → job.status.isTerminal = true →
          response.status = 409 := by
  intro handled
  have served : api.Served request services handled := handle_served ready request actor
  refine ⟨served.of_reading, ?_, fun encodedId id leads posts passes named =>
    handle_cancellation ready actor leads posts passes named⟩
  intro response answered
  have fulfils : ∀ {endpoint}, Endpoint.ofSegments? request.segments = some endpoint →
      Http.isSuccess response.status = true →
      api.Fulfils request services handled.2 response endpoint :=
    fun leads success => served.fulfils answered success leads
  refine ⟨served.of_unsuccessful answered, ?_, ?_, ?_⟩
  · exact fun leads created => fulfils leads (by rw [created]; rfl)
  · exact fun leads created => fulfils leads (by rw [created]; rfl)
  · exact fun encodedId leads done => fulfils leads (by rw [done]; rfl)

end Api

/-! ## A sample job that is withdrawn -/

namespace Sample

/-- One job waits. -/
def waitingServices : Services :=
  { Services.start settings (moment 1) with
    store := Store.empty.afterCalls settings [(moment 0, .create (freshId 0) ⟨"amd64"⟩ .null)]
    queue := (Queue.empty.publish ⟨"amd64"⟩ (freshId 0)).2
    made := 1 }

def withdrawal : HttpRequest :=
  ⟨"POST", "/api/v1/jobs/" ++ (freshId 0).text ++ "/cancel",
    [("Authorization", "Bearer s3cret")], ""⟩

theorem waitingServices_ready : guardedApi.Ready waitingServices where
  built := .ofNames ["amd64"]
  accepts := fun _ => rfl
  course := ⟨_, (Store.Run.of_calls (by decide)).course⟩
  reached := Queue.Reached.empty.publish ⟨"amd64"⟩ (freshId 0)
  unplanned := fun plan member => nomatch member
  unused := by decide +kernel
  distinct := by decide +kernel

theorem withdrawal_answered :
    (guardedApi.handle withdrawal .main waitingServices).1 = .done (.bare 204) := by
  decide +kernel

theorem withdrawal_leads : Endpoint.ofSegments? withdrawal.segments =
    some (.cancellation (freshId 0).text) := by
  decide +kernel

end Sample

theorem Api.sample_answers_tell_truth :
    let handled := Sample.guardedApi.handle Sample.withdrawal .main Sample.waitingServices
    Sample.guardedApi.Ready Sample.waitingServices ∧ handled.1 = .done (.bare 204) ∧
      ∃ job : Job, Api.readId (freshId 0).text = .ok job.id ∧
        Sample.waitingServices.Cancels job handled.2 := by
  intro handled
  rcases answers_tell_truth Sample.waitingServices_ready Sample.withdrawal .main with
    ⟨_, answers, _⟩
  rcases answers _ Sample.withdrawal_answered with ⟨_, _, _, withdrawn⟩
  exact ⟨Sample.waitingServices_ready, Sample.withdrawal_answered,
    withdrawn _ Sample.withdrawal_leads rfl⟩

end BuildFleet
