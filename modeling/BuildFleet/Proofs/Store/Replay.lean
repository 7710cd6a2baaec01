import BuildFleet.Proofs.Store.Course

/-!
# One job by itself

What the store answers about a job, and what it makes of the job, can be told
without the store. The job as it was made, asked the same at the same readings
of the clock, answers the same and comes to the same end. Whatever else the store
was asked in between has no part in it, be it about other jobs, events or
workers.
-/

namespace BuildFleet

/-- What can be asked of one job: its record, or to do what a call says. -/
inductive JobRequest where
  | record
  | act (call : JobCall)

/-- A call to the store and what came of it. -/
structure Reply where
  call : StoreCall
  outcome : Outcome call.Answer

def JobRequest.on (id : JobId) : JobRequest → StoreCall
  | record => .get id
  | act call => call.on id

/-- What a call asks of the job with this identifier. -/
def StoreCall.asks? (id : JobId) : StoreCall → Option JobRequest
  | get other => if other = id then some .record else none
  | claim other worker lease => if other = id then some (.act (.claim worker lease)) else none
  | heartbeat other worker => if other = id then some (.act (.heartbeat worker)) else none
  | complete other worker result =>
    if other = id then some (.act (.complete worker result)) else none
  | cancel other => if other = id then some (.act .cancel) else none
  | expireLease other => if other = id then some (.act .expire) else none
  | create _ _ _ | expiredLeases _ | staleQueued _ _ | pendingEvents _ | acknowledge _
  | recordWorker _ | workers _ | summary => none

theorem StoreCall.eq_of_asks {call : StoreCall} {id : JobId} {request : JobRequest}
    (asks : call.asks? id = some request) : call = request.on id := by
  cases call <;> simp only [asks?, Option.ite_none_right_eq_some, reduceCtorEq] at asks
  all_goals
    rcases asks with ⟨rfl, same⟩
    cases same
    rfl

theorem JobCall.asks?_on (id : JobId) (call : JobCall) :
    (call.on id).asks? id = some (.act call) := by
  cases call <;> simp [on, StoreCall.asks?]

namespace Job

/-- What a job answers by itself, and what becomes of it. -/
def reply (limit : Nat) (now : Instant) (job : Job) : JobRequest → Reply × Job
  | .record => (⟨.get job.id, .done job⟩, job)
  | .act call =>
    let (outcome, after) := job.perform limit now call
    (⟨call.on job.id, call.report job.id outcome⟩, after)

/-- The replies of a job by itself to requests at these readings, and the job after them. -/
def replay (limit : Nat) : Job → List (Instant × JobRequest) → List Reply × Job
  | job, [] => ([], job)
  | job, (now, request) :: rest =>
    let (reply, after) := job.reply limit now request
    let (replies, last) := after.replay limit rest
    (reply :: replies, last)

theorem replay_append (limit : Nat) (job : Job) (first second : List (Instant × JobRequest)) :
    job.replay limit (first ++ second) =
      ((job.replay limit first).1 ++ ((job.replay limit first).2.replay limit second).1,
        ((job.replay limit first).2.replay limit second).2) := by
  induction first generalizing job with
  | nil => rfl
  | cons head tail induction => simp [replay, induction]

end Job

namespace Operation

variable {settings : StoreSettings} {id : JobId} {operation : Operation}

/-- What an operation asks of the job with this identifier, and at which reading. -/
def request? (id : JobId) (operation : Operation) : Option (Instant × JobRequest) :=
  (operation.call.asks? id).map (Prod.mk operation.now)

def reply (settings : StoreSettings) (operation : Operation) : Reply :=
  ⟨operation.call, operation.outcome settings⟩

/-- The reply to an operation that asks something of the job with this identifier. -/
def reply? (settings : StoreSettings) (id : JobId) (operation : Operation) : Option Reply :=
  (operation.call.asks? id).map fun _ => operation.reply settings

theorem reply_eq {call : StoreCall} (same : operation.call = call) :
    operation.reply settings =
      ⟨call, (operation.before.perform settings operation.now call).1⟩ := by
  subst same
  rfl

private theorem onJob?_of_asks {job : Job} {call : JobCall}
    (found : operation.before.job? id = some job)
    (asks : operation.call.asks? id = some (.act call)) :
    operation.onJob? id = some ⟨job, operation.now, call⟩ := by
  have isOn := StoreCall.eq_of_asks asks
  simp [onJob?, found, isOn, JobRequest.on]

private theorem onJob?_of_silent (silent : operation.call.asks? id = none) :
    operation.onJob? id = none := by
  apply Option.eq_none_iff_forall_ne_some.mpr
  intro seen isSeen
  rcases onJob?_eq_some isSeen with ⟨_, addressed, _⟩
  rw [StoreCall.eq_on_of_addressed addressed, JobCall.asks?_on] at silent
  cases silent

/-- An operation does to a job what the job does by itself if it is asked the same. -/
theorem replays (settings : StoreSettings) {job : Job}
    (found : operation.before.job? id = some job) :
    ∃ later, (operation.after settings).job? id = some later ∧
      job.replay settings.maxAttempts (operation.request? id).toList =
        ((operation.reply? settings id).toList, later) := by
  have sameId := Store.job?_id found
  subst sameId
  cases asks : operation.call.asks? job.id with
  | none =>
      refine ⟨job, job?_after_unseen found (onJob?_of_silent asks), ?_⟩
      simp [request?, reply?, asks, Job.replay]
  | some request =>
      have same := StoreCall.eq_of_asks asks
      cases request with
      | record =>
          refine ⟨job, ?_, ?_⟩
          · rw [after, same]
            exact found
          · simp [request?, reply?, asks, Job.replay, Job.reply, reply_eq same, JobRequest.on,
              Store.perform, Store.get, found]
      | act call =>
          refine ⟨_, job?_after_seen (onJob?_of_asks found asks), ?_⟩
          have answered : operation.reply settings =
              ⟨call.on job.id, call.report job.id
                (job.perform settings.maxAttempts operation.now call).1⟩ :=
            (reply_eq same).trans (congrArg (Reply.mk _) (Store.perform_on found call))
          simp [request?, reply?, asks, Job.replay, Job.reply, answered, JobOperation.after]

/-- Nothing is found under an identifier that no job has. -/
theorem missing_of_reply? {reply : Reply} (absent : operation.before.job? id = none)
    (replied : operation.reply? settings id = some reply) :
    reply.outcome = .failed (Store.missing id) := by
  rcases Option.map_eq_some_iff.mp replied with ⟨request, asks, rfl⟩
  rw [reply_eq (StoreCall.eq_of_asks asks)]
  cases request with
  | record => simp [JobRequest.on, Store.perform, Store.get, absent]
  | act call => exact Store.perform_on_missing absent call

/-- A job that appears was made as it is. -/
theorem made_of_appeared {job : Job} (absent : operation.before.job? id = none)
    (appeared : (operation.after settings).job? id = some job) :
    ∃ target payload, operation.reply settings = ⟨.create id target payload, .done id⟩ ∧
      job = Job.new id target payload operation.now := by
  have created := operation.created_of_appeared absent appeared
  rcases StoreCall.created?_eq_some created with ⟨newId, target, payload, same, accepted, rfl⟩
  have sameId : newId = id := Store.job?_id appeared
  subst sameId
  refine ⟨target, payload, ?_, rfl⟩
  simp [reply_eq same, Store.perform, Store.create, accepted]

end Operation

namespace Store.Course

variable {settings : StoreSettings} {store : Store} {history : List Operation}

/-- An identifier is unknown for good, or it is unknown until a job is made under it. From then
on the store replies as that job does by itself, and holds what becomes of it. -/
theorem replies_alone (course : Course settings .empty history store) (id : JobId) :
    (store.job? id = none ∧
      ∀ reply ∈ history.filterMap (·.reply? settings id), reply.outcome = .failed (missing id)) ∨
    ∃ past creation future target payload last,
      history = past ++ creation :: future ∧
      (∀ reply ∈ past.filterMap (·.reply? settings id), reply.outcome = .failed (missing id)) ∧
      creation.reply settings = ⟨.create id target payload, .done id⟩ ∧
      store.job? id = some last ∧
      (Job.new id target payload creation.now).replay settings.maxAttempts
          (future.filterMap (·.request? id)) =
        (future.filterMap (·.reply? settings id), last) := by
  induction course with
  | start => exact .inl ⟨rfl, by simp⟩
  | @step history operation course fresh induction =>
      rcases induction with ⟨absent, unknown⟩ | ⟨past, creation, future, target, payload, last,
        rfl, unknown, made, found, replayed⟩
      · cases appeared : (operation.after settings).job? id with
        | none =>
            refine .inl ⟨rfl, ?_⟩
            rw [Operation.filterMap_snoc]
            intro reply member
            rcases List.mem_append.mp member with earlier | newest
            · exact unknown reply earlier
            · exact Operation.missing_of_reply? absent (Option.mem_toList.mp newest)
        | some job =>
            rcases Operation.made_of_appeared absent appeared with ⟨target, payload, made, rfl⟩
            exact .inr ⟨history, operation, [], target, payload, _, rfl, unknown, made, rfl, rfl⟩
      · rcases operation.replays settings found with ⟨later, there, newest⟩
        refine .inr ⟨past, creation, future ++ [operation], target, payload, later, by simp,
          unknown, made, there, ?_⟩
        rw [Operation.filterMap_snoc, Operation.filterMap_snoc, Job.replay_append, replayed, newest]

/-- The job that went from one worker to another, by itself. -/
theorem sample_replies_alone :
    Store.Course Sample.settings .empty Sample.history Sample.store ∧
      ∃ past creation future target payload last,
        Sample.history = past ++ creation :: future ∧
        (Job.new Sample.firstJob target payload creation.now).replay 2
            (future.filterMap (·.request? Sample.firstJob)) =
          (future.filterMap (·.reply? Sample.settings Sample.firstJob), last) ∧
        Sample.store.job? Sample.firstJob = some last ∧ last.status = .succeeded := by
  have course := Sample.run.course
  have ended : (Sample.store.job? Sample.firstJob).any (·.status == .succeeded) = true := by decide
  rcases replies_alone course Sample.firstJob with ⟨absent, _⟩ |
    ⟨past, creation, future, target, payload, last, whole, _, _, found, replayed⟩
  · rw [absent] at ended
    cases ended
  · rw [found] at ended
    exact ⟨course, past, creation, future, target, payload, last, whole, replayed, found,
      beq_iff_eq.mp ended⟩

end Store.Course

end BuildFleet
