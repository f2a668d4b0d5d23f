import ResearchTool.Effects
import ResearchTool.Process.Run
import ResearchTool.Router
import ResearchTool.Worker

/-!
# The research service

API handlers and queue workers as tasks over the shared stores.  An action
lets one task make one call, starts a task, or is a move of the environment:
a delivery, a visibility timeout, a redrive, an expiry in Redis, or the crash
of a process.  The order of actions is free, so that a run is any interleaving
of the coroutines at their `await` points.
-/

namespace ResearchTool

open Process

/-- A coroutine in progress.  `submit` notes the job whose row it has created,
`poll` whether the row of its job existed when it started; a worker's task
changes from the pipeline to the handling of its outcome. -/
inductive Task where
  | submit (job : Option JobId) (program : Coroutine Answer)
  | poll (jobId : JobId) (known : Bool) (program : Coroutine Answer)
  | execute (received : ReceivedMessage) (program : Coroutine Unit)
  | settle (received : ReceivedMessage) (outcome : Except Exn Unit) (program : Coroutine Unit)
  | crashed

/-- What `model_validate_json` makes of a message body: the text of a job message
may be refused like any other. -/
def Environment.readBody (env : Environment) : MessageBody → MessageBody
  | .job message => (env.refusal message).elim (.job message) .malformed
  | .malformed error => .malformed error

def Environment.readItem (env : Environment) (item : ReceivedItem) : ReceivedItem :=
  { item with body := env.readBody item.body }

theorem Environment.readBody_eq_job_iff {env : Environment} {body : MessageBody}
    {message : ResearchJobMessage} :
    env.readBody body = .job message ↔ body = .job message ∧ env.refusal message = none := by
  cases body with
  | job sent =>
      cases refused : env.refusal sent with
      | none =>
          simp only [readBody, refused, Option.elim_none, MessageBody.job.injEq]
          constructor
          · rintro rfl
            exact ⟨rfl, refused⟩
          · exact And.left
      | some error =>
          simp only [readBody, refused, Option.elim_some, reduceCtorEq, MessageBody.job.injEq,
            false_iff]
          rintro ⟨rfl, accepted⟩
          cases refused.symm.trans accepted
  | malformed error => simp [readBody]

/-- The body does not validate. -/
def Environment.refuses (env : Environment) (body : MessageBody) : Bool :=
  match env.readBody body with
  | .job _ => false
  | .malformed _ => true

namespace Task

/-- The operation the task waits for. -/
def pending : Task → Option Op
  | submit _ program => program.pending
  | poll _ _ program => program.pending
  | execute _ program => program.pending
  | settle _ _ program => program.pending
  | crashed => none

def isLive (task : Task) : Bool :=
  task.pending.isSome

/-- The job whose row and snapshot the task writes. -/
def job : Task → Option JobId
  | submit job _ => job
  | execute received _ => some received.body.jobId
  | settle received _ _ => some received.body.jobId
  | _ => none

/-- The delivery a worker's task handles. -/
def delivery : Task → Option ReceivedMessage
  | execute received _ => some received
  | settle received _ _ => some received
  | _ => none

/-- A worker's task: while a call of the pipeline is pending it executes, and
then it handles the outcome. -/
def working (settings : Settings) (received : ReceivedMessage) : Coroutine Unit → Task
  | .call op next => execute received (.call op next)
  | .pure value => settle received (.ok value) (ResearchTool.settle settings received (.ok value))
  | .raise error =>
      settle received (.error error) (ResearchTool.settle settings received (.error error))

/-- The tasks a receive starts: none if the body does not validate, because
the exception ends the worker. -/
def ofItem (env : Environment) (item : ReceivedItem) : List Task :=
  match decodeBatch [env.readItem item] with
  | .ok batch => batch.map fun received =>
      working env.settings received (executeResearchPipeline env received.body)
  | .error _ => []

/-- The job row that a carried out call has created. -/
def registered (op : Op) (reply : Except Exn op.Reply) : Option JobId :=
  match op, reply with
  | .insertJob record, .ok _ => some record.jobId
  | _, _ => none

/-- The task after its pending call ended as `outcome` says. -/
def resume (settings : Settings) (outcome : Outcome) (store : Store) : Task → Option (Task × Store)
  | submit job (.call op next) =>
      (exec op outcome store).map fun result =>
        (submit (job <|> registered op result.1) (next result.1), result.2)
  | poll jobId known (.call op next) =>
      (exec op outcome store).map fun result => (poll jobId known (next result.1), result.2)
  | execute received (.call op next) =>
      (exec op outcome store).map fun result =>
        (working settings received (next result.1), result.2)
  | settle received ended (.call op next) =>
      (exec op outcome store).map fun result => (settle received ended (next result.1), result.2)
  | _ => none

end Task

/-- The stores and every task started so far. -/
structure Service where
  store : Store
  tasks : List Task := []

inductive Action where
  /-- `POST /api/v1/research/jobs` -/
  | submit (context : RequestContext) (request : ResearchRequest)
  /-- `GET /api/v1/research/jobs/{job_id}` -/
  | poll (context : RequestContext) (jobId : JobId)
  /-- a worker receives a message -/
  | deliver (message : Nat)
  /-- the pending call of a task ends -/
  | resume (task : Nat) (outcome : Outcome)
  /-- the process of a task dies -/
  | crash (task : Nat)
  /-- the TTL of a snapshot runs out -/
  | expireSnapshot (jobId : JobId)
  /-- the TTL of a cached AI result runs out -/
  | expireCached (cacheKey : String)
  /-- the visibility timeout of a message runs out -/
  | timeout (message : Nat)
  /-- the broker moves a message to the dead-letter queue -/
  | redrive (message : Nat)

namespace Store

@[simps]
def dropSnapshot (store : Store) (jobId : JobId) : Store :=
  { store with snapshots := Function.update store.snapshots jobId none }

@[simps]
def dropCached (store : Store) (cacheKey : String) : Store :=
  { store with aiCache := Function.update store.aiCache cacheKey none }

end Store

namespace Service

/-- Before the first request: no rows, no snapshots, and the queue as
`ensure_queues` creates it.  The AI cache may hold anything. -/
def initial (settings : Settings) (dlqArn : String) (aiCache : String → Option CachedPayload) :
    Service where
  store := {
    jobs := fun _ => none
    reports := fun _ => none
    snapshots := fun _ => none
    aiCache
    queue := { attributes := ensureQueues settings dlqArn }
    fetched := []
  }

@[simps]
def spawn (service : Service) (tasks : List Task) : Service :=
  { service with tasks := service.tasks ++ tasks }

@[simps]
def setTask (service : Service) (index : Nat) (task : Task) : Service :=
  { service with tasks := service.tasks.set index task }

@[simps]
def mapStore (service : Service) (change : Store → Store) : Service :=
  { service with store := change service.store }

/-- The state after an action, if the action is possible. -/
def step (env : Environment) : Action → Service → Option Service
  | .submit context request, service =>
      some (service.spawn [.submit none (submitResearchJob env context request)])
  | .poll context jobId, service =>
      some (service.spawn [.poll jobId (service.store.jobs jobId).isSome
        (getResearchJobStatus context jobId)])
  | .deliver message, service =>
      (service.store.queue.receive? message).map fun result =>
        (service.mapStore (·.putQueue result.2)).spawn (Task.ofItem env result.1)
  | .resume index outcome, service =>
      (service.tasks[index]?.bind (Task.resume env.settings outcome service.store)).map
        fun result => { service.setTask index result.1 with store := result.2 }
  | .crash index, service =>
      if service.tasks[index]?.any Task.isLive then some (service.setTask index .crashed)
      else none
  | .expireSnapshot jobId, service => some (service.mapStore (·.dropSnapshot jobId))
  | .expireCached cacheKey, service => some (service.mapStore (·.dropCached cacheKey))
  | .timeout message, service =>
      some (service.mapStore fun store => store.putQueue (store.queue.timeout message))
  | .redrive message, service =>
      some (service.mapStore fun store => store.putQueue (store.queue.redrive message))

end Service

/-! ## Inversion of a step -/

/-- The ways a task takes the end of its pending call. -/
inductive Task.Resumes (settings : Settings) (outcome : Outcome) (store after : Store) :
    Task → Task → Prop where
  | submit (job : Option JobId) (op : Op) (next : Except Exn op.Reply → Coroutine Answer)
      (reply : Except Exn op.Reply) (called : exec op outcome store = some (reply, after)) :
      Resumes settings outcome store after (.submit job (.call op next))
        (.submit (job <|> registered op reply) (next reply))
  | poll (jobId : JobId) (known : Bool) (op : Op)
      (next : Except Exn op.Reply → Coroutine Answer)
      (reply : Except Exn op.Reply) (called : exec op outcome store = some (reply, after)) :
      Resumes settings outcome store after (.poll jobId known (.call op next))
        (.poll jobId known (next reply))
  | execute (received : ReceivedMessage) (op : Op) (next : Except Exn op.Reply → Coroutine Unit)
      (reply : Except Exn op.Reply) (called : exec op outcome store = some (reply, after)) :
      Resumes settings outcome store after (.execute received (.call op next))
        (.working settings received (next reply))
  | settle (received : ReceivedMessage) (ended : Except Exn Unit) (op : Op)
      (next : Except Exn op.Reply → Coroutine Unit)
      (reply : Except Exn op.Reply) (called : exec op outcome store = some (reply, after)) :
      Resumes settings outcome store after (.settle received ended (.call op next))
        (.settle received ended (next reply))

theorem Task.resumes_of_resume {settings : Settings} {outcome : Outcome} {store after : Store}
    {task next : Task} (resumed : task.resume settings outcome store = some (next, after)) :
    task.Resumes settings outcome store after next := by
  unfold resume at resumed
  split at resumed
  case h_5 => cases resumed
  all_goals
    obtain ⟨⟨reply, left⟩, called, same⟩ := Option.map_eq_some_iff.mp resumed
    cases same
    constructor
    exact called

/-- A resumed task carried out the operation it was waiting for. -/
theorem Task.Resumes.exec {settings : Settings} {outcome : Outcome} {store after : Store}
    {task next : Task} (resumes : task.Resumes settings outcome store after next) :
    ∃ op reply, task.pending = some op ∧ exec op outcome store = some (reply, after) := by
  cases resumes <;> exact ⟨_, _, rfl, ‹_›⟩

theorem Task.ofItem_malformed {env : Environment} {item : ReceivedItem} {error : String}
    (malformed : env.readBody item.body = .malformed error) : Task.ofItem env item = [] := by
  simp [ofItem, Environment.readItem, malformed, decodeBatch, decodeItem, bind, Except.bind]

/-- A body that validates starts the pipeline. -/
theorem Task.ofItem_job {env : Environment} {message : QueueMessage} {body : ResearchJobMessage}
    (read : env.readBody message.body = .job body) (id : Nat) :
    Task.ofItem env {
        receiptHandle := { message := id, receive := message.receiveCount + 1 }
        body := message.body
        approximateReceiveCount := some (message.receiveCount + 1) } =
      [.working env.settings (message.delivery id body) (executeResearchPipeline env body)] := by
  simp [ofItem, Environment.readItem, read, decodeBatch, decodeItem, bind, Except.bind, pure,
    Except.pure, QueueMessage.delivery]

theorem Service.spawn_nil (service : Service) : service.spawn [] = service := by
  simp [Service.spawn]

/-- The ways an action changes the service. -/
inductive Step (env : Environment) (service : Service) : Action → Service → Prop where
  | submit (context : RequestContext) (request : ResearchRequest) :
      Step env service (.submit context request)
        (service.spawn [.submit none (submitResearchJob env context request)])
  | poll (context : RequestContext) (jobId : JobId) :
      Step env service (.poll context jobId)
        (service.spawn [.poll jobId (service.store.jobs jobId).isSome
          (getResearchJobStatus context jobId)])
  | deliver (id : Nat) (message : QueueMessage) (body : ResearchJobMessage)
      (found : service.store.queue.messages[id]? = some message)
      (visible : message.place = .visible)
      (below : message.receiveCount < service.store.queue.maxReceiveCount)
      (named : message.body = .job body) (accepted : env.refusal body = none) :
      Step env service (.deliver id)
        ((service.mapStore fun store => store.putQueue (store.queue.markReceived id)).spawn
          [.working env.settings (message.delivery id body) (executeResearchPipeline env body)])
  | reject (id : Nat) (message : QueueMessage) (error : String)
      (found : service.store.queue.messages[id]? = some message)
      (visible : message.place = .visible)
      (below : message.receiveCount < service.store.queue.maxReceiveCount)
      (malformed : env.readBody message.body = .malformed error) :
      Step env service (.deliver id)
        (service.mapStore fun store => store.putQueue (store.queue.markReceived id))
  | resume (index : Nat) (outcome : Outcome) (task next : Task) (after : Store)
      (found : service.tasks[index]? = some task)
      (resumes : task.Resumes env.settings outcome service.store after next) :
      Step env service (.resume index outcome) { service.setTask index next with store := after }
  | crash (index : Nat) (task : Task) (found : service.tasks[index]? = some task)
      (live : task.isLive) :
      Step env service (.crash index) (service.setTask index .crashed)
  | expireSnapshot (jobId : JobId) :
      Step env service (.expireSnapshot jobId) (service.mapStore (·.dropSnapshot jobId))
  | expireCached (cacheKey : String) :
      Step env service (.expireCached cacheKey) (service.mapStore (·.dropCached cacheKey))
  | timeout (message : Nat) :
      Step env service (.timeout message)
        (service.mapStore fun store => store.putQueue (store.queue.timeout message))
  | redrive (message : Nat) :
      Step env service (.redrive message)
        (service.mapStore fun store => store.putQueue (store.queue.redrive message))

theorem Service.step_cases {env : Environment} {action : Action} {service after : Service}
    (moved : Service.step env action service = some after) : Step env service action after := by
  cases action with
  | deliver id =>
      obtain ⟨⟨item, queue⟩, received, rfl⟩ := Option.map_eq_some_iff.mp moved
      obtain ⟨message, found, visible, below, rfl, rfl⟩ := Queue.receive?_eq_some_iff.mp received
      cases read : env.readBody message.body with
      | job body =>
          obtain ⟨named, accepted⟩ := Environment.readBody_eq_job_iff.mp read
          rw [Task.ofItem_job read id]
          exact .deliver id message body found visible below named accepted
      | malformed error =>
          rw [Task.ofItem_malformed read, Service.spawn_nil]
          exact .reject id message error found visible below read
  | resume index outcome =>
      obtain ⟨⟨next, store⟩, resumed, rfl⟩ := Option.map_eq_some_iff.mp moved
      obtain ⟨task, found, resumed⟩ := Option.bind_eq_some_iff.mp resumed
      exact .resume index outcome task next store found (Task.resumes_of_resume resumed)
  | crash index =>
      simp only [Service.step] at moved
      split at moved
      · rename_i live
        obtain ⟨task, found, live⟩ := (Option.any_eq_true _ _).mp live
        cases moved
        exact .crash index task found live
      · cases moved
  | submit context request => cases moved; constructor
  | poll context jobId => cases moved; constructor
  | expireSnapshot jobId => cases moved; constructor
  | expireCached cacheKey => cases moved; constructor
  | timeout message => cases moved; constructor
  | redrive message => cases moved; constructor

/-! ## Tasks and stores after a step -/

theorem Store.Grows.dropSnapshot (store : Store) (jobId : JobId) :
    store.Grows (store.dropSnapshot jobId) :=
  { Store.Grows.refl store with }

theorem Store.Grows.dropCached (store : Store) (cacheKey : String) :
    store.Grows (store.dropCached cacheKey) :=
  { Store.Grows.refl store with }

/-- No step takes a row, a report, a message body or a fetched context away. -/
theorem Step.grows {env : Environment} {action : Action} {service after : Service}
    (moved : Step env service action after) : service.store.Grows after.store := by
  cases moved with
  | submit | poll | crash => exact .refl _
  | deliver | reject => exact .of_moves (Queue.moves_markReceived _ _)
  | resume index outcome task next store found resumes =>
      obtain ⟨op, reply, -, called⟩ := resumes.exec
      exact (written_of_exec called).grows
  | expireSnapshot jobId => exact .dropSnapshot _ _
  | expireCached cacheKey => exact .dropCached _ _
  | timeout message => exact .of_moves (Queue.moves_timeout _ _)
  | redrive message => exact .of_moves (Queue.moves_redrive _ _)

theorem Task.Resumes.live {settings : Settings} {outcome : Outcome} {store after : Store}
    {task next : Task} (resumes : task.Resumes settings outcome store after next) :
    task.isLive = true := by
  cases resumes <;> rfl

/-- A task that waits for nothing is never touched again. -/
theorem Step.finished_kept {env : Environment} {action : Action} {service after : Service}
    (moved : Step env service action after) {index : Nat} {task : Task}
    (found : service.tasks[index]? = some task) (finished : task.isLive = false) :
    after.tasks[index]? = some task := by
  have untouched : ∀ {other : Nat} {old new : Task}, service.tasks[other]? = some old →
      old.isLive = true → (service.tasks.set other new)[index]? = some task := by
    intro other old new present live
    have different : other ≠ index := by
      rintro rfl
      rw [found, Option.some.injEq] at present
      rw [present, live] at finished
      cases finished
    rwa [List.getElem?_set_ne different]
  have within : index < service.tasks.length := (List.getElem?_eq_some_iff.mp found).1
  cases moved with
  | submit | poll | deliver => exact (List.getElem?_append_left within).trans found
  | reject | expireSnapshot | expireCached | timeout | redrive => exact found
  | resume other outcome old next store present resumes =>
      exact untouched present resumes.live
  | crash other old present live => exact untouched present live

/-- The task at a position of a service with one task more. -/
theorem Service.spawned_cases {service : Service} {task found : Task} {index : Nat}
    (member : (service.spawn [task]).tasks[index]? = some found) :
    service.tasks[index]? = some found ∨ (index = service.tasks.length ∧ found = task) := by
  rcases Nat.lt_or_ge index service.tasks.length with below | above
  · exact .inl ((List.getElem?_append_left below).symm.trans member)
  · have appended := (List.getElem?_append_right above).symm.trans member
    rw [List.getElem?_singleton] at appended
    split at appended
    · exact .inr ⟨by omega, (Option.some.inj appended).symm⟩
    · cases appended

/-- The task at a position of a service one of whose tasks was replaced. -/
theorem Service.replaced_cases {service : Service} {task found : Task} {index other : Nat}
    (member : (service.setTask index task).tasks[other]? = some found) :
    (other = index ∧ found = task) ∨ (other ≠ index ∧ service.tasks[other]? = some found) := by
  rw [Service.setTask_tasks, List.getElem?_set] at member
  split at member
  · rename_i same
    split at member
    · exact .inl ⟨same.symm, (Option.some.inj member).symm⟩
    · cases member
  · rename_i different
    exact .inr ⟨Ne.symm different, member⟩

/-! ## A concrete deployment -/

namespace Sample

def environment : Environment where
  urlLibrary := Python.asciiLibrary
  renderField _ field := .error { className := "KeyError", message := String.ofList field.name }

def context : RequestContext where
  path := "/api/v1/research/jobs"
  requestId := "request-1"

def request : ResearchRequest where
  url := "https://github.com/acme/rocket"

def noon : DateTime where
  year := 2025
  month := 1
  day := 1
  hour := 12
  minute := 0
  second := 0

theorem owner_ne : "acme" ≠ "" := by
  decide

theorem repo_ne : "rocket" ≠ "" := by
  decide

theorem name_ne : "Rocket" ≠ "" := by
  decide

def rawContext : RepositoryRawContext where
  target := {
    owner := "acme"
    repo := "rocket"
    canonicalUrl := "https://github.com/acme/rocket"
    owner_minLength := owner_ne
    repo_minLength := repo_ne
  }
  repositoryUrl := "https://github.com/acme/rocket"
  defaultBranch := "main"
  commitSha := "c0ffee"
  instantData := { name := "Rocket", stars := 1, forks := 0, name_minLength := name_ne }

def insights : StructuredAIResponse where
  overview := { projectPurpose := "Rockets", techStack := [], architecture := "One file" }
  securityHealth := { riskLevel := .low, aiConfidence := .high }
  recommendations := { items := [] }

def aiCache : String → Option CachedPayload :=
  Function.update (fun _ => none) "acme/rocket@c0ffee" (some (.valid insights))

/-- The deployment with an empty AI cache. -/
def cold : Service :=
  .initial environment.settings "arn:dlq" fun _ => none

/-- The deployment whose AI cache holds the analysis of the sample. -/
def warm : Service :=
  .initial environment.settings "arn:dlq" aiCache

/-- The state after a possible run of this deployment. -/
def after (permits : Action → Service → Bool) (actions : List Action) (start : Service)
    (possible : (runWithin (Service.step environment) permits actions start).isSome) : Service :=
  (runWithin (Service.step environment) permits actions start).get possible

theorem ran_after {permits : Action → Service → Bool} {actions : List Action} {start : Service}
    (possible : (runWithin (Service.step environment) permits actions start).isSome) :
    runWithin (Service.step environment) permits actions start =
      some (after permits actions start possible) :=
  (Option.some_get possible).symm

/-- A run whose end is as checked. -/
theorem ran_of_any {permits : Action → Service → Bool} {actions : List Action} {start : Service}
    {check : Service → Prop} [DecidablePred check]
    (checked : (runWithin (Service.step environment) permits actions start).any
      (fun service => check service)) :
    ∃ service, runWithin (Service.step environment) permits actions start = some service ∧
      check service := by
  obtain ⟨service, ran, holds⟩ := (Option.any_eq_true _ _).mp checked
  exact ⟨service, ran, of_decide_eq_true holds⟩

/-- The calls of one task, in order. -/
def calls (task : Nat) (outcomes : List Outcome) : List Action :=
  outcomes.map (.resume task)

/-- A call that fails for want of a connection. -/
def fault : Exn :=
  .other "ConnectionError" "connection refused"

/-- The ends of the calls of a submission that creates the row of `job-1`. -/
def created : List Outcome :=
  [.done (.context rawContext), .done (.uuid "job-1"), .ok, .ok]

/-- The calls that follow when the AI cache misses. -/
def queued : List Outcome :=
  created ++ [.done (.time noon), .ok, .ok, .done (.time noon), .ok]

/-- The calls that follow when the AI cache hits. -/
def cached : List Outcome :=
  created ++ [.done (.time noon), .ok, .ok, .done (.time noon), .done (.flag true),
    .done (.time noon), .ok, .ok, .done (.flag true), .ok, .ok, .done (.time noon), .ok]

/-- The calls that follow when the message cannot be sent. -/
def unsent : List Outcome :=
  created ++ [.done (.time noon), .ok, .ok, .done (.time noon), .failed fault,
    .done (.flag true), .ok, .ok, .done (.time noon), .ok]

/-- The calls that follow when the pending snapshot cannot be written. -/
def unannounced : List Outcome :=
  created ++ [.done (.time noon), .failed fault]

theorem firstAttempt : 1 ≤ 1 :=
  Nat.le_refl 1

/-- The message of `job-1`. -/
def message : ResearchJobMessage where
  jobId := "job-1"
  repoUrl := "https://github.com/acme/rocket"
  enqueuedAt := noon
  attempt := 1
  attempt_ge := firstAttempt

/-- The stores once `job-1` has its row. -/
def pending : Store :=
  cold.store.putJob "job-1" (pendingRecord rawContext.target rawContext "job-1")

/-- The ends of the calls of a pipeline up to the look at the AI cache. -/
def fetched : List Outcome :=
  [.ok, .done (.time noon), .ok, .done (.flag true), .ok, .ok, .done (.context rawContext),
    .done (.time noon), .ok, .done (.flag true), .ok, .ok, .ok]

/-- The calls that complete a job, the session included. -/
def completed : List Outcome :=
  [.done (.time noon), .done (.flag true), .done (.time noon), .ok, .ok, .done (.flag true), .ok,
    .ok, .done (.time noon), .ok, .ok]

/-- The stores of a deployment whose AI cache knows the repository of `job-1`. -/
def known : Store :=
  warm.store.putJob "job-1" (pendingRecord rawContext.target rawContext "job-1")

/-- What a receive returns for the message of `job-1`. -/
def item : ReceivedItem where
  receiptHandle := { message := 0, receive := 1 }
  body := .job message
  approximateReceiveCount := some 1

/-- What a receive returns for a body that is not JSON. -/
def malformedItem : ReceivedItem where
  receiptHandle := { message := 1, receive := 1 }
  body := .malformed "Invalid JSON"
  approximateReceiveCount := some 1

/-- A pipeline whose analysis is cached, and the deletion of its message. -/
def delivered : List Outcome :=
  fetched ++ completed ++ [.done (.flag true)]

/-- A pipeline whose analysis raises. -/
def unanalyzed (error : Exn) : List Outcome :=
  fetched ++ [.done (.time noon), .ok, .failed error] ++ completed

/-- The whole submission when the AI cache misses. -/
def submission : List Action :=
  .submit context request :: calls 0 queued

/-- The whole submission when the AI cache hits. -/
def cachedSubmission : List Action :=
  .submit context request :: calls 0 cached

end Sample

end ResearchTool
