import ResearchTool.Isolation
import ResearchTool.Recovery
import ResearchTool.Tenancy

/-!
# Finality

When nothing that may still happen can change a job.  A job that nobody works
on is touched again only by a delivery of its message, so that it is final if
and only if the broker has nothing left to hand out that a worker could read.
-/

namespace ResearchTool

open Process

/-- No receive of the message starts anything any more: the broker does not hand
it out, or its body does not validate. -/
def QueueMessage.Spent (env : Environment) (limit : Nat) (message : QueueMessage) : Prop :=
  message.place = .deleted ∨ message.place = .deadLetter ∨ limit ≤ message.receiveCount ∨
    env.refuses message.body = true

/-- Row and report of the job are the same, and its snapshot has at most
expired. -/
structure Store.Preserves (jobId : JobId) (before after : Store) : Prop where
  job : after.jobs jobId = before.jobs jobId
  report : after.reports jobId = before.reports jobId
  snapshot : after.snapshots jobId = before.snapshots jobId ∨ after.snapshots jobId = none

theorem Store.Leaves.preserves {jobId : JobId} {before after : Store}
    (left : before.Leaves jobId after) : before.Preserves jobId after :=
  ⟨left.job, left.report, left.snapshot⟩

theorem Store.Preserves.trans {jobId : JobId} {first second third : Store}
    (earlier : first.Preserves jobId second) (later : second.Preserves jobId third) :
    first.Preserves jobId third where
  job := later.job.trans earlier.job
  report := later.report.trans earlier.report
  snapshot := by
    rcases later.snapshot with same | expired
    · rw [same]
      exact earlier.snapshot
    · exact .inr expired

/-- Nobody works on the job, and nobody will be asked to. -/
structure Service.Settled (env : Environment) (jobId : JobId) (service : Service) : Prop where
  scope : service.Scoped
  registered : (service.store.jobs jobId).isSome
  idle : ∀ task ∈ service.tasks, task.tenant ≠ some jobId
  spent : ∀ id message, service.store.queue.jobAt id = some jobId →
    service.store.queue.messages[id]? = some message →
      message.Spent env service.store.queue.maxReceiveCount

namespace Service.Settled

variable {env : Environment} {jobId : JobId} {service : Service}

theorem spent_of_leaves {store : Store} (settled : service.Settled env jobId)
    (left : service.store.Leaves jobId store) :
    ∀ id message, store.queue.jobAt id = some jobId → store.queue.messages[id]? = some message →
      message.Spent env store.queue.maxReceiveCount := by
  intro id message about found
  have sent := (left.sent id).mp about
  obtain ⟨before, present⟩ : ∃ before, service.store.queue.messages[id]? = some before := by
    obtain ⟨body, stored, -⟩ := Option.bind_eq_some_iff.mp sent
    rw [Queue.bodies, List.getElem?_map] at stored
    obtain ⟨before, present, -⟩ := Option.map_eq_some_iff.mp stored
    exact ⟨before, present⟩
  obtain ⟨moved, there, waits⟩ := left.messages id before sent present
  cases there.symm.trans found
  rw [Queue.maxReceiveCount, left.attributes]
  rcases settled.spent id before sent present with deleted | deadLetter | exhausted | refused
  · exact .inl (waits.deleted.mpr deleted)
  · exact .inr (.inl (waits.deadLetter deadLetter))
  · exact .inr (.inr (.inl (waits.receiveCount ▸ exhausted)))
  · exact .inr (.inr (.inr (waits.body ▸ refused)))

/-- A message of the job that is received was refused. -/
theorem refused_of_ready (settled : service.Settled env jobId) {id : Nat} {message : QueueMessage}
    (found : service.store.queue.messages[id]? = some message) (visible : message.place = .visible)
    (below : message.receiveCount < service.store.queue.maxReceiveCount)
    (about : service.store.queue.jobAt id = some jobId) : env.refuses message.body = true := by
  rcases settled.spent id message about found with deleted | deadLetter | exhausted | refused
  · rw [visible] at deleted
    cases deleted
  · rw [visible] at deadLetter
    cases deadLetter
  · omega
  · exact refused

/-- A receive that is refused spends the message again. -/
theorem spent_of_refused (settled : service.Settled env jobId) {id : Nat} {message : QueueMessage}
    (received : service.store.queue.messages[id]? = some message)
    (refused : env.refuses message.body = true) :
    ∀ other moved, (service.store.queue.markReceived id).jobAt other = some jobId →
      (service.store.queue.markReceived id).messages[other]? = some moved →
        moved.Spent env service.store.queue.maxReceiveCount := by
  have moves := Queue.moves_markReceived service.store.queue id
  intro other moved about found
  rw [moves.jobAt] at about
  by_cases same : other = id
  · subst same
    rw [Queue.markReceived_inFlight received] at found
    cases found
    exact .inr (.inr (.inr refused))
  · exact settled.spent other moved about ((moves.others other same).symm.trans found)

/-- What leaves the job and starts nothing on it keeps it settled. -/
theorem leave {after : Service} (settled : service.Settled env jobId) (scope : after.Scoped)
    (left : service.store.Leaves jobId after.store)
    (idle : ∀ task ∈ after.tasks, task.tenant ≠ some jobId) : after.Settled env jobId where
  scope := scope
  registered := left.job.symm ▸ settled.registered
  idle := idle
  spent := settled.spent_of_leaves left

theorem idle_spawn {task : Task} (settled : service.Settled env jobId)
    (other : task.tenant ≠ some jobId) :
    ∀ found ∈ service.tasks ++ [task], found.tenant ≠ some jobId := by
  intro found member
  rcases List.mem_append.mp member with old | new
  · exact settled.idle found old
  · rwa [List.mem_singleton.mp new]

theorem idle_set {index : Nat} {task : Task} (settled : service.Settled env jobId)
    (other : task.tenant ≠ some jobId) :
    ∀ found ∈ service.tasks.set index task, found.tenant ≠ some jobId := by
  intro found member
  rcases List.mem_or_eq_of_mem_set member with old | rfl
  · exact settled.idle found old
  · exact other

end Service.Settled

/-- A step leaves a settled job, or is a receive that is refused. -/
theorem Step.remains {env : Environment} {jobId : JobId} {action : Action}
    {service after : Service}
    (moved : Step env service action after) (settled : service.Settled env jobId) :
    (service.store.Leaves jobId after.store ∧ ∀ task ∈ after.tasks, task.tenant ≠ some jobId) ∨
      ∃ id message, service.store.queue.messages[id]? = some message ∧
        env.refuses message.body = true ∧
        after = service.mapStore fun store => store.putQueue (store.queue.markReceived id) := by
  cases moved with
  | reject id message error found visible below malformed =>
      exact .inr ⟨id, message, found, by rw [Environment.refuses, malformed], rfl⟩
  | submit context request =>
      exact .inl ⟨.refl _ _, settled.idle_spawn (by simp [Task.tenant, Task.job])⟩
  | poll context id =>
      exact .inl ⟨.refl _ _, settled.idle_spawn (by simp [Task.tenant, Task.job])⟩
  | deliver id message body found visible below named accepted =>
      have read := Environment.readBody_eq_job_iff.mpr ⟨named, accepted⟩
      have other : service.store.queue.jobAt id ≠ some jobId := by
        intro about
        have refused := settled.refused_of_ready found visible below about
        rw [Environment.refuses, read] at refused
        cases refused
      have about : service.store.queue.jobAt id = some body.jobId := by
        rw [Queue.jobAt_of_found found, named, MessageBody.jobId?]
      refine .inl ⟨Tenancy.leaves_markReceived other, settled.idle_spawn ?_⟩
      intro holds
      have own := (Task.tenant_eq_some_iff.mp holds).2
      have job : (Task.working env.settings (message.delivery id body)
          (executeResearchPipeline env body)).job = some body.jobId := by
        unfold Task.working
        split <;> rfl
      exact other (about.trans (job.symm.trans own))
  | resume index outcome task next store found resumes =>
      obtain ⟨op, reply, pending, called⟩ := resumes.exec
      have other : task.job ≠ some jobId := fun own =>
        settled.idle task (List.mem_of_getElem? found)
          (Task.tenant_eq_some_iff.mpr ⟨resumes.live, own⟩)
      have creates : op.creates jobId outcome service.store = false := by
        cases op with
        | insertJob record => simp [Op.creates, Option.isNone_eq_false_iff.mpr settled.registered]
        | _ => rfl
      have spares :=
        ((settled.scope.tasks index task found).may pending).spares other creates called
      refine .inl ⟨.of_spares spares (written_of_exec called).grows, settled.idle_set ?_⟩
      intro holds
      have own := (Task.tenant_eq_some_iff.mp holds).2
      rcases resumes.subject with ⟨-, kept⟩ | ⟨record, program, waits, rfl, -, absent⟩
      · exact other (kept.symm.trans own)
      · cases own
        have registered := settled.registered
        rw [absent] at registered
        cases registered
  | crash index task found live =>
      exact .inl ⟨.refl _ _, settled.idle_set (by simp [Task.tenant, Task.job])⟩
  | expireSnapshot id => exact .inl ⟨.dropSnapshot _ id, settled.idle⟩
  | expireCached cacheKey => exact .inl ⟨.dropCached _ cacheKey, settled.idle⟩
  | timeout id => exact .inl ⟨.timeout _ id, settled.idle⟩
  | redrive id => exact .inl ⟨.redrive _ id, settled.idle⟩

/-- A settled job stays settled, and as it is. -/
theorem Step.settled {env : Environment} {jobId : JobId} {action : Action}
    {service after : Service}
    (moved : Step env service action after) (settled : service.Settled env jobId) :
    after.Settled env jobId ∧ service.store.Preserves jobId after.store := by
  have scope := moved.scoped settled.scope
  rcases moved.remains settled with ⟨left, idle⟩ | ⟨id, message, found, refused, rfl⟩
  · exact ⟨settled.leave scope left idle, left.preserves⟩
  · exact ⟨⟨scope, settled.registered, settled.idle, settled.spent_of_refused found refused⟩,
      rfl, rfl, .inl rfl⟩

theorem Service.Settled.run {env : Environment} {jobId : JobId} {actions : List Action}
    {service final : Service} (settled : service.Settled env jobId)
    (ran : Process.run (Service.step env) actions service = some final) :
    final.Settled env jobId ∧ service.store.Preserves jobId final.store := by
  refine runWithin_induction
    (fun now : Service => now.Settled env jobId ∧ service.store.Preserves jobId now.store) ?_
    ⟨settled, Store.Leaves.preserves (.refl _ _)⟩ ran
  rintro action now next - moved ⟨settled, same⟩
  obtain ⟨still, preserved⟩ := (Service.step_cases moved).settled settled
  exact ⟨still, same.trans preserved⟩

/-! ## A message that is handed out again -/

theorem Queue.job_of_jobAt {queue : Queue} {id : Nat} {jobId : JobId} {message : QueueMessage}
    (about : queue.jobAt id = some jobId) (found : queue.messages[id]? = some message) :
    ∃ body, message.body = .job body ∧ body.jobId = jobId := by
  rw [jobAt_of_found found] at about
  cases named : message.body with
  | job body =>
      rw [named] at about
      exact ⟨body, rfl, Option.some.inj about⟩
  | malformed error =>
      rw [named] at about
      cases about

/-- The repository that the message names can be parsed again. -/
def MessageBody.Parses (env : Environment) : MessageBody → Prop
  | job message => (parseGithubRepositoryUrl env.urlLibrary message.repoUrl).isOk
  | malformed _ => True

instance (env : Environment) : (body : MessageBody) → Decidable (body.Parses env)
  | .job message =>
      inferInstanceAs
        (Decidable ((parseGithubRepositoryUrl env.urlLibrary message.repoUrl).isOk = true))
  | .malformed _ => instDecidableTrue

/-- The first write of a delivery shows the job as processing. -/
theorem Service.reopens {env : Environment} {service : Service} {id : Nat} {message : QueueMessage}
    {body : ResearchJobMessage} (found : service.store.queue.messages[id]? = some message)
    (named : message.body = .job body) (accepted : env.refusal body = none)
    (waiting : message.place = .visible ∨ message.place = .inFlight)
    (below : message.receiveCount < service.store.queue.maxReceiveCount)
    (parses : (parseGithubRepositoryUrl env.urlLibrary body.repoUrl).isOk) :
    ∃ later final snapshot, Process.run (Service.step env) later service = some final ∧
      final.store.snapshots body.jobId = some snapshot ∧ snapshot.status = .processing := by
  cases parsed : parseGithubRepositoryUrl env.urlLibrary body.repoUrl with
  | error error =>
      rw [parsed] at parses
      cases parses
  | ok target =>
  let shown : Service := service.mapStore fun store => store.putQueue (store.queue.timeout id)
  let visible : QueueMessage := { message with place := .visible }
  have there : shown.store.queue.messages[id]? = some visible :=
    Queue.timeout_visible found waiting
  let received : ReceivedMessage := visible.delivery id body
  let started : Service := (shown.mapStore fun store =>
      store.putQueue (store.queue.markReceived id)).spawn
    [.working env.settings received (executeResearchPipeline env body)]
  have delivered : Service.step env (.deliver id) shown = some started :=
    Service.step_deliver there named accepted rfl below
  have taken : started.tasks[service.tasks.length]? =
      some (.working env.settings received (executeResearchPipeline env body)) := by
    simp [started, shown]
  -- the state is read, the clock, and the snapshot is written
  let existing := started.store.snapshots body.jobId
  let snapshot := processingSnapshot body.jobId "Fetching GitHub data" Sample.benefactor.now
    (existing.bind ResearchJobStateSnapshot.instantData)
  have leads : (executeResearchPipeline env body).Leads Sample.benefactor.effect started.store
      [⟨.getState body.jobId, .ok existing⟩, ⟨.now, .ok Sample.benefactor.now⟩,
        ⟨.setState snapshot, .ok ()⟩]
      (withSession (pipelineSession env body.jobId target))
        (started.store.putSnapshot snapshot) := by
    unfold executeResearchPipeline
    rw [parsed]
    exact .call rfl (.call rfl (.call rfl (.here _ _)))
  have resumed : Process.run (Service.step env) (.deliver id ::
      Sample.benefactor.actions service.tasks.length _) shown = some _ :=
    runWithin_cons_eq_some_iff.mpr ⟨rfl, started, delivered, run_of_working leads taken⟩
  have ran : Process.run (Service.step env) (.timeout id :: .deliver id ::
      Sample.benefactor.actions service.tasks.length _) service = some _ :=
    runWithin_cons_eq_some_iff.mpr ⟨rfl, shown, rfl, resumed⟩
  exact ⟨_, _, snapshot, ran, Function.update_self _ _ _, rfl⟩

/-- A job that nobody works on is final, whatever may still happen to the
service, if and only if the broker has nothing left to hand out for it that
validates. -/
theorem finality_iff (env : Environment) (dlqArn : String)
    (aiCache : String → Option CachedPayload) (actions : List Action) (service : Service)
    (ran : run (Service.step env) actions (Service.initial env.settings dlqArn aiCache) =
      some service)
    (jobId : JobId) (registered : (service.store.jobs jobId).isSome)
    (idle : ∀ task ∈ service.tasks, task.tenant ≠ some jobId)
    (ended : ∀ snapshot, service.store.snapshots jobId = some snapshot →
      snapshot.status ≠ .processing)
    (parses : ∀ id message, service.store.queue.jobAt id = some jobId →
      service.store.queue.messages[id]? = some message → message.body.Parses env) :
    (∀ later final, run (Service.step env) later service = some final →
        service.store.Preserves jobId final.store) ↔
      ∀ id message, service.store.queue.jobAt id = some jobId →
        service.store.queue.messages[id]? = some message →
          message.Spent env env.settings.maxQueueAttempts := by
  have scope := Service.scoped_of_run ran
  have provisioned := Service.provisioned_of_run ran
  constructor
  · intro final id message about found
    by_contra unspent
    have waiting : message.place = .visible ∨ message.place = .inFlight := by
      cases placed : message.place with
      | visible => exact .inl rfl
      | inFlight => exact .inr rfl
      | deleted => exact absurd (.inl placed) unspent
      | deadLetter => exact absurd (.inr (.inl placed)) unspent
    have below : message.receiveCount < service.store.queue.maxReceiveCount := by
      rw [provisioned]
      exact Nat.lt_of_not_le fun exhausted => unspent (.inr (.inr (.inl exhausted)))
    obtain ⟨body, named, rfl⟩ := Queue.job_of_jobAt about found
    have accepted : env.refusal body = none := by
      cases refusal : env.refusal body with
      | none => rfl
      | some error =>
          refine absurd (.inr (.inr (.inr ?_))) unspent
          rw [named, Environment.refuses, Environment.readBody, refusal, Option.elim_some]
    have parsed := parses id message about found
    rw [named] at parsed
    obtain ⟨later, after, snapshot, went, shown, status⟩ :=
      Service.reopens found named accepted waiting below parsed
    rcases (final later after went).snapshot with same | expired
    · exact ended snapshot (same.symm.trans shown) status
    · cases expired.symm.trans shown
  · intro spent later final went
    have settled : service.Settled env jobId := ⟨scope, registered, idle, provisioned ▸ spent⟩
    exact (settled.run went).2

/-- The first delivery completes the job and deletes the message. -/
def Sample.handled : List Action :=
  submission ++ .deliver 0 :: calls 1 (unanalyzed (.llmUnavailable "down") ++ [.done (.flag true)])

theorem finality_iff_handled :
    ∃ service, run (Service.step Sample.environment) Sample.handled Sample.cold = some service ∧
      ∀ later final, run (Service.step Sample.environment) later service = some final →
        service.store.Preserves "job-1" final.store := by
  obtain ⟨service, ran, registered, idle, ended, deleted, valid⟩ : ∃ service,
      run (Service.step Sample.environment) Sample.handled Sample.cold = some service ∧
      (service.store.jobs "job-1").isSome ∧ (∀ task ∈ service.tasks, task.tenant ≠ some "job-1") ∧
      (service.store.snapshots "job-1").all (fun snapshot => snapshot.status ≠ .processing) ∧
      (∀ message ∈ service.store.queue.messages, message.place = .deleted) ∧
      ∀ message ∈ service.store.queue.messages, message.body.Parses Sample.environment :=
    Sample.ran_of_any (by decide +kernel)
  refine ⟨service, ran, ?_⟩
  apply (finality_iff Sample.environment "arn:dlq"
    (fun _ => none) Sample.handled service ran "job-1"
    registered idle ?_ ?_).mpr
  · intro id message about found
    exact .inl (deleted message (List.mem_of_getElem? found))
  · intro snapshot found
    rw [found] at ended
    exact of_decide_eq_true ended
  · intro id message about found
    exact valid message (List.mem_of_getElem? found)

end ResearchTool
