import ResearchTool.Labels
import ResearchTool.Scope

/-!
# Recovery

Whatever has happened to a job, as long as the broker may hand out its message
once more, a delivery that meets no fault completes the job.  The pipeline is
run alone, on replies that an outside party without faults gives, and its run
is a run of the service.
-/

namespace ResearchTool

open Process

/-! ## Calls without faults -/

/-- The outside parties at their best: the clock shows `now`, GitHub returns
the given context, the language model the given insights, and the broker
honours every handle. -/
structure Benefactor where
  now : DateTime
  jobId : JobId
  rawContext : RepositoryRawContext
  insights : StructuredAIResponse

namespace Benefactor

variable (benefactor : Benefactor)

/-- What the outside contributes to the reply of an operation. -/
def supply : Op → Supply
  | .now => .time benefactor.now
  | .uuid4 => .uuid benefactor.jobId
  | .fetchRepositoryContext _ => .context benefactor.rawContext
  | .analyze _ => .insights benefactor.insights
  | .selectJob _ => .flag true
  | .selectReport _ => .flag true
  | .delete _ => .flag true
  | .changeVisibility _ _ => .flag true
  | _ => .nothing

/-- A call that is answered so. -/
def effect : Effect Ops Exn Store :=
  fun op before reply after => answer op (benefactor.supply op) before = some (reply, after)

theorem answered (op : Op) (store : Store) :
    ∃ reply after, benefactor.effect op store reply after := by
  unfold effect
  cases op with
  | getCachedAiResult cacheKey =>
      simp only [answer, supply]
      split <;> exact ⟨_, _, rfl⟩
  | insertJob | updateJob | refreshJob | insertReport | updateReport | refreshReport =>
      simp only [answer, supply]
      split <;> exact ⟨_, _, rfl⟩
  | _ => exact ⟨_, _, rfl⟩

theorem callsWithin_of_effect {permits : Op → Outcome → Bool}
    (done : ∀ op supply, permits op (.done supply) = true) {op : Op} {before after : Store}
    {reply : Except Exn op.Reply} (called : benefactor.effect op before reply after) :
    callsWithin permits op before reply after :=
  ⟨.done (benefactor.supply op), done _ _, called⟩

/-- The actions of a task whose calls are answered so. -/
def actions (index : Nat) (trace : List (Event Ops Exn)) : List Action :=
  trace.map fun event => .resume index (.done (benefactor.supply event.op))

end Benefactor

/-! ## A task that runs alone -/

namespace Service

variable {benefactor : Benefactor} {env : Environment} {index : Nat}

theorem setTask_self {service : Service} {task : Task}
    (found : service.tasks[index]? = some task) :
    service.setTask index task = service := by
  obtain ⟨within, same⟩ := List.getElem?_eq_some_iff.mp found
  simp [setTask, ← same]

/-- What a program goes through, the task that has it goes through, if every
task of this kind takes the end of its calls in the same way. -/
theorem run_of_leads {α : Type} (make : Coroutine α → Task)
    (resumes : ∀ (op : Op) (resume : Except Exn op.Reply → Coroutine α) (outcome : Outcome)
      (store after : Store) (reply : Except Exn op.Reply), exec op outcome store =
        some (reply, after) →
        (make (.call op resume)).resume env.settings outcome store =
          some (make (resume reply), after))
    {program left : Coroutine α} {store final : Store} {trace : List (Event Ops Exn)}
    (leads : program.Leads benefactor.effect store trace left final) {service : Service}
    (stored : service.store = store) (found : service.tasks[index]? = some (make program)) :
    run (Service.step env) (benefactor.actions index trace) service =
      some { service.setTask index (make left) with store := final } := by
  induction leads generalizing service with
  | here program state =>
      subst stored
      exact congrArg some (setTask_self found).symm
  | @call op resume state middle final reply rest left called remaining ih =>
      subst stored
      have within : index < service.tasks.length := (List.getElem?_eq_some_iff.mp found).1
      let next : Service := { service.setTask index (make (resume reply)) with store := middle }
      have moved : Service.step env (.resume index (.done (benefactor.supply op))) service =
          some next := by
        have resumed :=
          resumes op resume (.done (benefactor.supply op)) service.store middle reply called
        simp only [Service.step, found, Option.bind_some, resumed, Option.map_some, next]
      have continued : run (Service.step env) (benefactor.actions index rest) next = _ :=
        ih rfl (by simp [next, within])
      apply runWithin_cons_eq_some_iff.mpr
      refine ⟨rfl, next, moved, continued.trans ?_⟩
      simp [next, setTask]

/-- A worker's task goes through its pipeline. -/
theorem run_of_working {received : ReceivedMessage} {program left : Coroutine Unit} {final : Store}
    {trace : List (Event Ops Exn)} {service : Service}
    (leads : program.Leads benefactor.effect service.store trace left final)
    (found : service.tasks[index]? = some (.working env.settings received program)) :
    run (Service.step env) (benefactor.actions index trace) service =
      some { service.setTask index (.working env.settings received left) with store := final } :=
  run_of_leads (.working env.settings received)
    (fun _ _ _ _ _ _ called => by simp [Task.working, Task.resume, called]) leads rfl found

/-- A worker's task runs the pipeline and then handles the outcome. -/
theorem run_of_handled {received : ReceivedMessage} {program : Coroutine Unit}
    {first second : Store} {trace later : List (Event Ops Exn)} {result ended : Except Exn Unit}
    {service : Service} (runs : program.Runs benefactor.effect service.store trace result first)
    (settles :
      (ResearchTool.settle env.settings received result).Runs benefactor.effect first later
      ended second)
    (found : service.tasks[index]? = some (.working env.settings received program)) :
    run (Service.step env) (benefactor.actions index (trace ++ later)) service =
      some { service.setTask index (.settle received result (.ofExcept ended))
        with store := second } := by
  have within : index < service.tasks.length := (List.getElem?_eq_some_iff.mp found).1
  have executed : run (Service.step env) (benefactor.actions index trace) service =
      some { service.setTask index (.working env.settings received (.ofExcept result)) with
        store := first } :=
    run_of_working runs.leads found
  have outcome : Task.working env.settings received (.ofExcept result) =
      .settle received result (ResearchTool.settle env.settings received result) := by
    cases result <;> rfl
  rw [outcome] at executed
  let middle : Service := {
    service.setTask index (.settle received result
      (ResearchTool.settle env.settings received result)) with store := first }
  have settled : run (Service.step env) (benefactor.actions index later) middle =
      some { middle.setTask index (.settle received result (.ofExcept ended))
        with store := second } :=
    run_of_leads (.settle received result)
      (fun _ _ _ _ _ _ called => by simp [Task.resume, called])
      settles.leads rfl (by simp [middle, within])
  rw [Benefactor.actions, List.map_append]
  apply runWithin_append_eq_some_iff.mpr
  refine ⟨middle, executed, settled.trans ?_⟩
  simp [middle, setTask]

end Service

/-! ## Entries that validate -/

/-- Every entry of the AI cache validates. -/
def Store.Validated (store : Store) : Prop :=
  ∀ cacheKey error, store.aiCache cacheKey ≠ some (.invalid error)

theorem Written.validated {op : Op} {store after : Store} (written : Written store op after)
    (validated : store.Validated) : after.Validated := by
  cases written with
  | cached cacheKey insights =>
      intro key error found
      rcases update_eq_some found with ⟨-, same⟩ | ⟨-, old⟩
      · cases same
      · exact validated key error old
  | _ => exact validated

theorem Step.validated {env : Environment} {action : Action} {service after : Service}
    (moved : Step env service action after) (validated : service.store.Validated) :
    after.store.Validated := by
  cases moved with
  | resume index outcome task next store found resumes =>
      obtain ⟨op, reply, -, called⟩ := resumes.exec
      exact (written_of_exec called).validated validated
  | expireCached cacheKey =>
      intro key error found
      rcases update_eq_some found with ⟨-, same⟩ | ⟨-, old⟩
      · cases same
      · exact validated key error old
  | _ => exact validated

theorem Service.validated_of_run {env : Environment} {permits : Action → Service → Bool}
    {dlqArn : String} {aiCache : String → Option CachedPayload} {actions : List Action}
    {service : Service}
    (validated : ∀ cacheKey error, aiCache cacheKey ≠ some (.invalid error))
    (ran : runWithin (Service.step env) permits actions
      (Service.initial env.settings dlqArn aiCache) = some service) : service.store.Validated := by
  have initially : (Service.initial env.settings dlqArn aiCache).store.Validated := validated
  exact runWithin_induction (fun service : Service => service.store.Validated)
    (fun _ _ _ _ moved => (Service.step_cases moved).validated) initially ran

/-! ## The pipeline without faults -/

namespace Benefactor

variable {benefactor : Benefactor} {env : Environment} {message : ResearchJobMessage}

/-- What a call without faults replies, as far as the pipeline depends on it. -/
def Replies (benefactor : Benefactor) : Event Ops Exn → Prop
  | ⟨.fetchRepositoryContext _, reply⟩ => reply = .ok benefactor.rawContext
  | ⟨.getCachedAiResult _, reply⟩ => reply.isOk
  | ⟨.analyze _, reply⟩ => reply.isOk
  | _ => True

theorem replies_of_effect {op : Op} {before after : Store} {reply : Except Exn op.Reply}
    (validated : before.Validated) (called : benefactor.effect op before reply after) :
    benefactor.Replies ⟨op, reply⟩ ∧ after.Validated := by
  refine ⟨?_, (written_of_answer called).validated validated⟩
  cases op with
  | fetchRepositoryContext target =>
      cases called
      rfl
  | analyze payload =>
      cases called
      rfl
  | getCachedAiResult cacheKey =>
      simp only [effect, answer, supply] at called
      split at called
      · cases called
        rfl
      · cases called
        rfl
      · rename_i error found
        exact absurd found (validated cacheKey error)
  | _ => trivial

/-- Without faults the pipeline completes its job, if the prompt can be built. -/
theorem completes {target : ParsedRepoTarget} {row : ResearchJobRecord} {store final : Store}
    {trace : List (Event Ops Exn)} {result : Except Exn Unit}
    (parses : parseGithubRepositoryUrl env.urlLibrary message.repoUrl = .ok target)
    (present : store.jobs message.jobId = some row) (validated : store.Validated)
    (builds : (buildPromptPayload env.renderField env.settings.aiTokenBudget
      benefactor.rawContext).isOk)
    (runs : (executeResearchPipeline env message).Runs benefactor.effect store trace
      result final) :
    result = .ok () ∧ ∃ insights,
      CompletedWith message.jobId benefactor.rawContext ⟨some insights, none⟩ final := by
  have replies : ∀ event ∈ trace, benefactor.Replies event :=
    runs.forall_events (fun _ _ _ _ => replies_of_effect) validated
  have within :
      (executeResearchPipeline env message).Runs (callsWithin onlyAnalysisFails) store trace
      result final :=
    runs.mono fun op before reply after => benefactor.callsWithin_of_effect fun _ _ => rfl
  obtain ⟨rawContext, rest, ended, analysis, marked, outcome⟩ :=
    within.meets (Labels.marked_executeResearchPipeline env message parses present)
  have occurred : ∀ event ∈ Labels.marks trace, event ∈ trace :=
    fun event member => (List.mem_filter.mp member).1
  rw [marked] at occurred
  have fetched : benefactor.Replies ⟨.fetchRepositoryContext target, .ok rawContext⟩ :=
    replies _ (occurred _ List.mem_cons_self)
  cases Except.ok.inj fetched
  cases analysis with
  | hit cacheKey insights => exact ⟨outcome.1, insights, outcome.2⟩
  | returned cacheKey payload insights merged => exact ⟨outcome.1, merged, outcome.2⟩
  | invalid cacheKey error =>
      have replied : benefactor.Replies ⟨.getCachedAiResult cacheKey, .error error⟩ :=
        replies _ (occurred _ (by simp))
      cases replied
  | raised cacheKey payload error =>
      have replied : benefactor.Replies ⟨.analyze payload, .error error⟩ :=
        replies _ (occurred _ (by simp))
      cases replied
  | unprompted cacheKey error failed =>
      rw [failed] at builds
      cases builds

/-- The pipeline leaves the queue alone. -/
theorem queue_kept {store final : Store} {trace : List (Event Ops Exn)} {result : Except Exn Unit}
    (runs : (executeResearchPipeline env message).Runs benefactor.effect store trace
      result final) :
    final.queue = store.queue := by
  have kept : (executeResearchPipeline env message).Always benefactor.effect store
      fun _ _ final => final.queue = store.queue := by
    refine (uses_executeResearchPipeline env message).always ?_ rfl
    intro op before reply after pipeline called same
    rw [← same]
    cases written_of_answer called with
    | sent | deleted | revealed => cases pipeline
    | _ => rfl
  exact runs.meets kept

/-- After a pipeline that returned the message is deleted. -/
theorem deleted {received : ReceivedMessage} {store final : Store} {trace : List (Event Ops Exn)}
    {ended : Except Exn Unit}
    (settles : (settle env.settings received (.ok ())).Runs benefactor.effect store trace ended
      final) : final = store.putQueue (store.queue.delete received.receiptHandle true) := by
  cases settles with
  | call called remaining =>
      cases called
      cases remaining
      rfl

end Benefactor

/-! ## One more delivery -/

/-- A message that is handed out starts a worker's task. -/
theorem Service.step_deliver {env : Environment} {service : Service} {id : Nat}
    {message : QueueMessage} {body : ResearchJobMessage}
    (found : service.store.queue.messages[id]? = some message) (named : message.body = .job body)
    (accepted : env.refusal body = none) (visible : message.place = .visible)
    (below : message.receiveCount < service.store.queue.maxReceiveCount) :
    Service.step env (.deliver id) service =
      some ((service.mapStore fun store => store.putQueue (store.queue.markReceived id)).spawn
        [.working env.settings (message.delivery id body)
          (executeResearchPipeline env body)]) := by
  have received := Queue.receive?_eq_some_iff.mpr ⟨message, found, visible, below, rfl, rfl⟩
  have read := Environment.readBody_eq_job_iff.mpr ⟨named, accepted⟩
  have starts := Task.ofItem_job read id
  simp only [Service.step, received, Option.map_some, starts]
  rfl

/-- A message in flight becomes visible when its timeout runs out. -/
theorem Queue.timeout_visible {queue : Queue} {id : Nat} {message : QueueMessage}
    (found : queue.messages[id]? = some message)
    (waiting : message.place = .visible ∨ message.place = .inFlight) :
    (queue.timeout id).messages[id]? = some { message with place := .visible } := by
  rw [timeout, messages_update, if_pos rfl, found, Option.map_some]
  rcases waiting with visible | inFlight
  · rw [if_neg (by rw [visible]; nofun), ← visible]
  · rw [if_pos inFlight]

theorem Queue.markReceived_inFlight {queue : Queue} {id : Nat} {message : QueueMessage}
    (found : queue.messages[id]? = some message) :
    (queue.markReceived id).messages[id]? =
      some { message with receiveCount := message.receiveCount + 1, place := .inFlight } := by
  rw [markReceived, messages_update, if_pos rfl, found, Option.map_some]

/-- The handle of the last delivery deletes a message in flight. -/
theorem Queue.delete_inFlight {queue : Queue} {handle : ReceiptHandle} {message : QueueMessage}
    (found : queue.messages[handle.message]? = some message)
    (inFlight : message.place = .inFlight) :
    (queue.delete handle true).messages[handle.message]?.map (·.place) = some .deleted := by
  simp [delete, messages_update, found, inFlight]

/-- The queue was provisioned for as many deliveries as there are attempts. -/
theorem Service.provisioned_of_run {env : Environment} {permits : Action → Service → Bool}
    {dlqArn : String} {aiCache : String → Option CachedPayload} {actions : List Action}
    {service : Service}
    (ran : runWithin (Service.step env) permits actions
      (Service.initial env.settings dlqArn aiCache) = some service) :
    service.store.queue.maxReceiveCount = env.settings.maxQueueAttempts := by
  refine runWithin_induction
    (fun service : Service => service.store.queue.maxReceiveCount = env.settings.maxQueueAttempts)
    ?_ rfl ran
  intro action service next _ moved provisioned
  rw [← provisioned, Queue.maxReceiveCount, (Service.step_cases moved).grows.attributes]
  rfl

/-- Whatever has happened so far, and whoever else is at work, if the broker may
still hand out a message then one delivery that meets no fault completes the
job of the message with insights, and deletes the message: provided that the
message validates and its URL parses, that the entries of the AI cache do, and
that the prompt can be built. -/
theorem recoverable (env : Environment) (dlqArn : String)
    (aiCache : String → Option CachedPayload)
    (validated : ∀ cacheKey error, aiCache cacheKey ≠ some (.invalid error))
    (actions : List Action)
    (service : Service)
    (ran : run (Service.step env) actions (Service.initial env.settings dlqArn aiCache) =
      some service)
    (id : Nat) (message : QueueMessage) (body : ResearchJobMessage)
    (found : service.store.queue.messages[id]? = some message) (named : message.body = .job body)
    (accepted : env.refusal body = none)
    (waiting : message.place = .visible ∨ message.place = .inFlight)
    (below : message.receiveCount < env.settings.maxQueueAttempts) (target : ParsedRepoTarget)
    (parses : parseGithubRepositoryUrl env.urlLibrary body.repoUrl = .ok target)
    (benefactor : Benefactor)
    (builds : (buildPromptPayload env.renderField env.settings.aiTokenBudget
      benefactor.rawContext).isOk) :
    ∃ trace final insights,
      run (Service.step env)
        (.timeout id :: .deliver id :: benefactor.actions service.tasks.length trace) service =
          some final ∧
      CompletedWith body.jobId benefactor.rawContext ⟨some insights, none⟩ final.store ∧
      final.store.queue.messages[id]?.map (·.place) = some .deleted := by
  have scope := Service.scoped_of_run ran
  have valid : service.store.Validated :=
    Service.validated_of_run validated ran
  have about : service.store.queue.jobAt id = some body.jobId := by
    rw [Queue.jobAt_of_found found, named, MessageBody.jobId?]
  obtain ⟨row, present⟩ := Option.isSome_iff_exists.mp (scope.sent id body.jobId about)
  -- the message becomes visible and is handed out
  let shown : Service := service.mapStore fun store => store.putQueue (store.queue.timeout id)
  let visible : QueueMessage := { message with place := .visible }
  have there : shown.store.queue.messages[id]? = some visible :=
    Queue.timeout_visible found waiting
  have more : visible.receiveCount < shown.store.queue.maxReceiveCount :=
    below.trans_eq (Service.provisioned_of_run ran).symm
  let received : ReceivedMessage := visible.delivery id body
  let started : Service := (shown.mapStore fun store =>
      store.putQueue (store.queue.markReceived id)).spawn
    [.working env.settings received (executeResearchPipeline env body)]
  have delivered : Service.step env (.deliver id) shown = some started :=
    Service.step_deliver there named accepted rfl more
  have taken : started.tasks[service.tasks.length]? =
      some (.working env.settings received (executeResearchPipeline env body)) := by
    simp [started, shown]
  -- the pipeline runs to its end, and the message is deleted
  obtain ⟨trace, result, middle, runs⟩ :=
    Program.exists_runs benefactor.answered (executeResearchPipeline env body) started.store
  obtain ⟨later, ended, after, settles⟩ :=
    Program.exists_runs benefactor.answered (settle env.settings received result) middle
  have registered : started.store.jobs body.jobId = some row := present
  have entries : started.store.Validated := valid
  obtain ⟨rfl, insights, completed⟩ :=
    Benefactor.completes parses registered entries builds runs
  have handled := Service.run_of_handled runs settles taken
  obtain rfl : after = middle.putQueue (middle.queue.delete received.receiptHandle true) :=
    Benefactor.deleted settles
  have resumed : run (Service.step env) (.deliver id ::
      benefactor.actions service.tasks.length (trace ++ later)) shown = some _ :=
    runWithin_cons_eq_some_iff.mpr ⟨rfl, started, delivered, handled⟩
  have ran : run (Service.step env) (.timeout id :: .deliver id ::
      benefactor.actions service.tasks.length (trace ++ later)) service = some _ :=
    runWithin_cons_eq_some_iff.mpr ⟨rfl, shown, rfl, resumed⟩
  refine ⟨trace ++ later, _, insights, ran, ?_, ?_⟩
  · exact { row := completed.row, report := completed.report, snapshot := completed.snapshot }
  · have flying : middle.queue.messages[received.receiptHandle.message]? =
        some { visible with receiveCount := visible.receiveCount + 1, place := .inFlight } := by
      rw [Benefactor.queue_kept runs]
      exact Queue.markReceived_inFlight there
    exact Queue.delete_inFlight flying rfl

namespace Sample

def benefactor : Benefactor where
  now := noon
  jobId := "job-2"
  rawContext := rawContext
  insights := insights

/-- The worker of the first delivery dies in the pipeline. -/
def abandoned : List Action :=
  submission ++ [.deliver 0, .resume 1 .ok, .crash 1]

end Sample

theorem recoverable_abandoned :
    ∃ service trace final insights,
      run (Service.step Sample.environment) Sample.abandoned Sample.cold = some service ∧
      run (Service.step Sample.environment)
        (.timeout 0 :: .deliver 0 :: Sample.benefactor.actions service.tasks.length trace)
          service =
          some final ∧
      CompletedWith "job-1" Sample.rawContext ⟨some insights, none⟩ final.store := by
  obtain ⟨service, ran, message, found, inFlight, once, named⟩ : ∃ service,
      run (Service.step Sample.environment) Sample.abandoned Sample.cold = some service ∧
      ∃ message, service.store.queue.messages[0]? = some message ∧ message.place = .inFlight ∧
        message.receiveCount = 1 ∧ message.body = .job Sample.message :=
    ⟨_, Sample.ran_after (by decide +kernel), _, rfl, rfl, rfl, rfl⟩
  obtain ⟨trace, final, insights, resumed, completed, -⟩ :=
    recoverable Sample.environment "arn:dlq" (fun _ => none) nofun Sample.abandoned service ran 0
      message Sample.message found named rfl (.inr inFlight) (by rw [once]; decide)
      Sample.rawContext.target (by decide) Sample.benefactor (by decide +kernel)
  exact ⟨service, trace, final, insights, ran, resumed, completed⟩

end ResearchTool
