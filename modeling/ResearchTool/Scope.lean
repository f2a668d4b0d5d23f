import ResearchTool.Service

/-!
# Whose job a task works on

A submission works on the job whose row it has created, a worker on the job
that its message names, and a poll writes nothing.  Nobody sends a message
about a job before it has a row, so that a submission has its job to itself
until it sends the message.
-/

namespace ResearchTool

open Process

/-- The operations of a submission that has no row yet. -/
def Op.IsStart : Op → Prop
  | .fetchRepositoryContext _ => True
  | .uuid4 => True
  | .insertJob record => ∃ target rawContext jobId, record = pendingRecord target rawContext jobId
  | _ => False

/-- A submission that has not created its row yet: it fetches the repository,
chooses an id and inserts the row, and only then works on the job. -/
def Unregistered {α : Type} : Coroutine α → Prop
  | .pure _ => True
  | .raise _ => True
  | .call (.fetchRepositoryContext _) resume => ∀ reply, Unregistered (resume reply)
  | .call .uuid4 resume => ∀ reply, Unregistered (resume reply)
  | .call (.insertJob record) resume =>
      (∃ target rawContext jobId, record = pendingRecord target rawContext jobId) ∧
        (∀ value, (resume (.ok value)).Uses (Op.IsSubmission record.jobId)) ∧
        ∀ error, Unregistered (resume (.error error))
  | .call _ _ => False

section

variable {α : Type}

theorem unregistered_pure (value : α) : Unregistered (.pure value : Coroutine α) :=
  trivial

theorem unregistered_raise (error : Exn) : Unregistered (.raise error : Coroutine α) :=
  trivial

theorem unregistered_fetch {target : ParsedRepoTarget}
    {resume : Except Exn RepositoryRawContext → Coroutine α} :
    Unregistered (.call (.fetchRepositoryContext target) resume : Coroutine α) ↔
      ∀ reply, Unregistered (resume reply) :=
  Iff.rfl

theorem unregistered_uuid4 {resume : Except Exn JobId → Coroutine α} :
    Unregistered (.call .uuid4 resume : Coroutine α) ↔ ∀ reply, Unregistered (resume reply) :=
  Iff.rfl

theorem unregistered_insertJob {record : ResearchJobRecord}
    {resume : Except Exn Unit → Coroutine α} :
    Unregistered (.call (.insertJob record) resume : Coroutine α) ↔
      (∃ target rawContext jobId, record = pendingRecord target rawContext jobId) ∧
        (∀ value, (resume (.ok value)).Uses (Op.IsSubmission record.jobId)) ∧
        ∀ error, Unregistered (resume (.error error)) :=
  Iff.rfl

theorem starts_of_unregistered {op : Op} {resume : Except Exn op.Reply → Coroutine α}
    (unregistered : Unregistered (.call op resume : Coroutine α)) : op.IsStart := by
  cases op with
  | fetchRepositoryContext | uuid4 => trivial
  | insertJob record => exact unregistered.1
  | _ => cases unregistered

end

attribute [irreducible] Unregistered

theorem unregistered_ofExcept_bind {α β : Type} {result : Except Exn α} {next : α → Coroutine β}
    (rest : ∀ value, Unregistered (next value)) :
    Unregistered ((Program.ofExcept result).bind next) := by
  cases result with
  | ok value => exact rest value
  | error error => exact unregistered_raise error

/-- The body of an endpoint that answers every exception. -/
theorem unregistered_answering {α : Type} (context : RequestContext) (respond : α → Answer)
    {body : Coroutine α} (unregistered : Unregistered body) :
    Unregistered (answering context respond body) := by
  induction body with
  | pure value => exact unregistered_pure _
  | raise error => exact unregistered_pure _
  | call op resume ih =>
      cases op with
      | fetchRepositoryContext target =>
          apply unregistered_fetch.mpr
          exact fun reply => ih reply (unregistered_fetch.mp unregistered reply)
      | uuid4 =>
          apply unregistered_uuid4.mpr
          exact fun reply => ih reply (unregistered_uuid4.mp unregistered reply)
      | insertJob record =>
          obtain ⟨created, uses, rest⟩ := unregistered_insertJob.mp unregistered
          apply unregistered_insertJob.mpr
          refine ⟨created, fun value => ?_, fun error => ih _ (rest error)⟩
          exact uses_answering context respond (uses value)
      | _ => cases starts_of_unregistered unregistered

theorem unregistered_submit (env : Environment) (request : ResearchRequest) :
    Unregistered (submit env request) := by
  unfold submit
  apply unregistered_ofExcept_bind
  intro target
  apply unregistered_fetch.mpr
  intro reply
  cases reply with
  | error error => exact unregistered_raise error
  | ok rawContext =>
      apply unregistered_uuid4.mpr
      intro chosen
      cases chosen with
      | error error => exact unregistered_raise error
      | ok jobId =>
          change Unregistered
            ((createJobRecord .empty (pendingRecord target rawContext jobId)).bind
            fun session => announceJob session target request rawContext jobId)
          rw [createJobRecord_bind]
          apply unregistered_insertJob.mpr
          refine ⟨⟨target, rawContext, jobId, rfl⟩, fun _ => ?_,
            fun error => unregistered_raise error⟩
          apply Program.Uses.perform_bind
          · rfl
          intro refreshed
          exact uses_announceJob _ target request rawContext jobId

theorem unregistered_submitResearchJob (env : Environment) (context : RequestContext)
    (request : ResearchRequest) : Unregistered (submitResearchJob env context request) := by
  unfold submitResearchJob
  exact unregistered_answering context .accepted (unregistered_submit env request)

/-- The operations of a poll. -/
def Op.IsPoll (jobId : JobId) : Op → Prop
  | .getState id => id = jobId
  | .selectReport id => id = jobId
  | _ => False

theorem uses_pollJob (jobId : JobId) : (pollJob jobId).Uses (Op.IsPoll jobId) := by
  have loads : ∀ next : Option ResearchReport → Coroutine PollingStatusResponse,
      (∀ report, (next report).Uses (Op.IsPoll jobId)) →
        ((loadReport .empty jobId).bind next).Uses (Op.IsPoll jobId) := by
    intro next rest
    rw [loadReport_bind]
    apply Program.Uses.perform_bind
    · rfl
    intro selected
    exact rest _
  apply Program.Uses.perform_bind
  · rfl
  intro found
  cases found with
  | none =>
      apply loads
      intro report
      cases report with
      | none => exact Program.uses_raise _
      | some report => exact Program.uses_pure _
  | some snapshot =>
      change (pollWithSnapshot jobId snapshot).Uses (Op.IsPoll jobId)
      unfold pollWithSnapshot
      split
      · apply loads
        intro report
        exact Program.uses_pure _
      · exact Program.uses_pure _

/-! ## The invariant -/

/-- The task works on its own job only. -/
def Task.Scoped (store : Store) : Task → Prop
  | submit none program => Unregistered program
  | submit (some jobId) program =>
      (store.jobs jobId).isSome ∧ program.Uses (Op.IsSubmission jobId)
  | poll jobId _ program => program.Uses (Op.IsPoll jobId)
  | execute received program =>
      store.queue.jobAt received.receiptHandle.message = some received.body.jobId ∧
        program.Uses (Op.IsPipeline received.body.jobId)
  | settle received _ program =>
      store.queue.jobAt received.receiptHandle.message = some received.body.jobId ∧
        program.Uses (Op.IsSettling received)
  | crashed => True

/-- Every task works on its own job, no two submissions on the same, and every
job with a message has a row. -/
structure Service.Scoped (service : Service) : Prop where
  tasks : ∀ (index : Nat) (task : Task), service.tasks[index]? = some task →
    task.Scoped service.store
  alone : ∀ (first second : Nat) (jobId : JobId) (one other : Coroutine Answer),
    service.tasks[first]? = some (.submit (some jobId) one) →
    service.tasks[second]? = some (.submit (some jobId) other) → first = second
  sent : ∀ id jobId, service.store.queue.jobAt id = some jobId →
    (service.store.jobs jobId).isSome

theorem Task.Scoped.grow {task : Task} {before after : Store} (held : task.Scoped before)
    (grows : before.Grows after) : task.Scoped after := by
  cases task with
  | submit job program =>
      cases job with
      | none => exact held
      | some jobId => exact ⟨grows.jobs jobId held.1, held.2⟩
  | poll jobId known program => exact held
  | execute received program => exact ⟨grows.jobAt held.1, held.2⟩
  | settle received outcome program => exact ⟨grows.jobAt held.1, held.2⟩
  | crashed => trivial

theorem Task.Scoped.working (settings : Settings) (received : ReceivedMessage) {store : Store}
    (about : store.queue.jobAt received.receiptHandle.message = some received.body.jobId)
    {program : Coroutine Unit} (uses : program.Uses (Op.IsPipeline received.body.jobId)) :
    (Task.working settings received program).Scoped store := by
  cases program with
  | call op resume => exact ⟨about, uses⟩
  | pure value => exact ⟨about, uses_settle settings received _⟩
  | raise error => exact ⟨about, uses_settle settings received _⟩

/-- What a task that works on its own job may call. -/
inductive Task.May (store : Store) (op : Op) : Task → Prop where
  | start (program : Coroutine Answer) (starts : op.IsStart) : May store op (.submit none program)
  | submit (jobId : JobId) (program : Coroutine Answer) (present : (store.jobs jobId).isSome)
      (submission : op.IsSubmission jobId) : May store op (.submit (some jobId) program)
  | poll (jobId : JobId) (known : Bool) (program : Coroutine Answer) (poll : op.IsPoll jobId) :
      May store op (.poll jobId known program)
  | work (task : Task) (received : ReceivedMessage) (delivery : task.delivery = some received)
      (about : store.queue.jobAt received.receiptHandle.message = some received.body.jobId)
      (works : op.IsPipeline received.body.jobId ∨ op.IsSettling received) : May store op task

theorem Task.Scoped.may {task : Task} {store : Store} {op : Op} (held : task.Scoped store)
    (pending : task.pending = some op) : task.May store op := by
  cases task with
  | submit job program =>
      cases job with
      | some jobId => exact .submit jobId program held.1 (held.2.pending pending)
      | none =>
          apply Task.May.start
          cases program with
          | pure value => cases pending
          | raise error => cases pending
          | call other resume =>
              cases pending
              exact starts_of_unregistered held
  | poll jobId known program => exact .poll jobId known program (held.pending pending)
  | execute received program => exact .work _ received rfl held.1 (.inl (held.2.pending pending))
  | settle received outcome program =>
      exact .work _ received rfl held.1 (.inr (held.2.pending pending))
  | crashed => cases pending

/-- A call that affects a job is one of a task of the job, or creates its row. -/
theorem Task.May.of_affects {task : Task} {store : Store} {op : Op} {jobId : JobId}
    (may : task.May store op) (affects : op.Affects store jobId) :
    (∃ record, op = .insertJob record ∧ record.jobId = jobId) ∨
      (∃ program, task = .submit (some jobId) program ∧ (store.jobs jobId).isSome) ∨
      ∃ received, task.delivery = some received ∧ received.body.jobId = jobId ∧
        store.queue.jobAt received.receiptHandle.message = some jobId := by
  cases may with
  | start program starts =>
      cases op with
      | insertJob record => exact .inl ⟨record, rfl, affects⟩
      | fetchRepositoryContext | uuid4 => cases affects
      | _ => cases starts
  | submit id program present submission =>
      have named : id = jobId := by
        cases op with
        | setState snapshot => exact submission.named.symm.trans affects
        | updateJob | insertReport | updateReport | send => exact submission.symm.trans affects
        | now | getCachedAiResult | selectJob | refreshJob | selectReport | refreshReport =>
            cases affects
        | _ => cases submission
      subst named
      exact .inr (.inl ⟨program, rfl, present⟩)
  | poll id known program poll =>
      cases op with
      | getState | selectReport => cases affects
      | _ => cases poll
  | work task received delivery about works =>
      have named : received.body.jobId = jobId := by
        rcases works with pipeline | settling
        · cases op with
          | setState | updateJob | insertReport | updateReport => exact pipeline.symm.trans affects
          | uuid4 | insertJob | send | delete | changeVisibility => cases pipeline
          | _ => cases affects
        · cases op with
          | setState snapshot => exact settling.1.symm.trans affects
          | updateJob => exact settling.symm.trans affects
          | delete handle =>
              have same : handle = received.receiptHandle := settling
              rw [same] at affects
              exact Option.some.inj (about.symm.trans affects)
          | changeVisibility handle seconds =>
              have same : handle = received.receiptHandle := settling
              rw [same] at affects
              exact Option.some.inj (about.symm.trans affects)
          | now | closeSession | selectJob | refreshJob => cases affects
          | _ => cases settling
      exact .inr (.inr ⟨received, delivery, named, named ▸ about⟩)

/-- Only a submission whose job has a row sends a message. -/
theorem Task.May.send {task : Task} {store : Store} {message : ResearchJobMessage}
    (may : task.May store (.send message)) : (store.jobs message.jobId).isSome := by
  cases may with
  | start program starts => cases starts
  | submit id program present submission =>
      have named : message.jobId = id := submission
      rw [named]
      exact present
  | poll id known program poll => cases poll
  | work task received delivery about works =>
      rcases works with pipeline | settling <;> contradiction

/-- A call leaves its task on its own job. -/
theorem Task.Resumes.scoped {settings : Settings} {outcome : Outcome} {store after : Store}
    {task next : Task} (resumes : task.Resumes settings outcome store after next)
    (held : task.Scoped store) : next.Scoped after := by
  have grows : store.Grows after := by
    obtain ⟨op, reply, -, called⟩ := resumes.exec
    exact (written_of_exec called).grows
  cases resumes with
  | submit job op resume reply called =>
      cases job with
      | some jobId =>
          obtain ⟨present, uses⟩ := held
          exact ⟨grows.jobs jobId present, (Program.uses_call.mp uses).2 reply⟩
      | none =>
          cases op with
          | fetchRepositoryContext target => exact unregistered_fetch.mp held reply
          | uuid4 => exact unregistered_uuid4.mp held reply
          | insertJob record =>
              obtain ⟨-, uses, rest⟩ := unregistered_insertJob.mp held
              cases reply with
              | error error => exact rest error
              | ok value =>
                  obtain ⟨-, rfl⟩ := insertJob_ok called
                  exact ⟨by simp, uses value⟩
          | _ => cases starts_of_unregistered held
  | poll jobId known op resume reply called => exact (Program.uses_call.mp held).2 reply
  | execute received op resume reply called =>
      obtain ⟨about, uses⟩ := held
      exact .working settings received (grows.jobAt about) ((Program.uses_call.mp uses).2 reply)
  | settle received ended op resume reply called =>
      obtain ⟨about, uses⟩ := held
      exact ⟨grows.jobAt about, (Program.uses_call.mp uses).2 reply⟩

/-- A submission has registered its job before, or creates the row now. -/
theorem Task.Resumes.registers {settings : Settings} {outcome : Outcome} {store after : Store}
    {task : Task} {jobId : JobId} {program : Coroutine Answer}
    (resumes : task.Resumes settings outcome store after (.submit (some jobId) program)) :
    (∃ before, task = .submit (some jobId) before) ∨ store.jobs jobId = none := by
  generalize named : Task.submit (some jobId) program = next at resumes
  cases resumes with
  | submit job op resume reply called =>
      cases job with
      | some other =>
          cases named
          exact .inl ⟨_, rfl⟩
      | none =>
          right
          have registered : Task.registered op reply = some jobId :=
            (Task.submit.inj named).1.symm
          unfold Task.registered at registered
          split at registered
          · rename_i record value
            obtain ⟨absent, -⟩ := insertJob_ok called
            cases registered
            exact absent
          · cases registered
  | poll => cases named
  | execute received op resume reply called =>
      cases continued : resume reply <;> rw [continued] at named <;> cases named
  | settle => cases named

/-- The job of a message is the one its body names. -/
theorem Queue.jobAt_of_found {queue : Queue} {id : Nat} {message : QueueMessage}
    (found : queue.messages[id]? = some message) : queue.jobAt id = message.body.jobId? := by
  rw [jobAt, bodies, List.getElem?_map, found, Option.map_some, Option.bind_some]

/-- A message about a job was there before, or is being sent. -/
theorem Written.jobAt {op : Op} {store after : Store} (written : Written store op after) {id : Nat}
    {jobId : JobId} (about : after.queue.jobAt id = some jobId) :
    store.queue.jobAt id = some jobId ∨
      ∃ message : ResearchJobMessage, op = .send message ∧ message.jobId = jobId := by
  cases written with
  | sent message =>
      rw [Store.putQueue_queue, jobAt_enqueue] at about
      split at about
      · exact .inr ⟨message, rfl, Option.some.inj about⟩
      · exact .inl about
  | deleted handle honoured =>
      rw [Store.putQueue_queue, (Queue.moves_delete _ _ _).jobAt] at about
      exact .inl about
  | revealed handle timeoutSeconds honoured =>
      rw [Store.putQueue_queue, (Queue.moves_changeVisibility _ _ _ _).jobAt] at about
      exact .inl about
  | _ => exact .inl about

namespace Service.Scoped

theorem initial (settings : Settings) (dlqArn : String)
    (aiCache : String → Option CachedPayload) :
    (Service.initial settings dlqArn aiCache).Scoped where
  tasks _ _ found := by cases found
  alone _ _ _ _ _ found := by cases found
  sent _ _ about := by simp [Service.initial, Queue.jobAt, Queue.bodies] at about

/-- One task more, which is not a submission that has its row. -/
theorem spawn {service : Service} (held : service.Scoped) {task : Task}
    (own : task.Scoped service.store)
    (unregistered : ∀ jobId program, task ≠ .submit (some jobId) program) :
    (service.spawn [task]).Scoped := by
  constructor
  · intro index found member
    rcases Service.spawned_cases member with old | ⟨-, rfl⟩
    · exact held.tasks index found old
    · exact own
  · intro first second jobId one other found same
    rcases Service.spawned_cases found with old | ⟨-, new⟩
    · rcases Service.spawned_cases same with also | ⟨-, new⟩
      · exact held.alone first second jobId one other old also
      · exact absurd new.symm (unregistered jobId other)
    · exact absurd new.symm (unregistered jobId one)
  · exact held.sent

/-- The stores change while the tasks wait. -/
theorem drift {service : Service} (held : service.Scoped) {store : Store}
    (grows : service.store.Grows store)
    (sent : ∀ id jobId, store.queue.jobAt id = some jobId →
      service.store.queue.jobAt id = some jobId) :
    Service.Scoped { service with store := store } where
  tasks index task found := (held.tasks index task found).grow grows
  alone := held.alone
  sent id jobId about := grows.jobs jobId (held.sent id jobId (sent id jobId about))

theorem received {service : Service} (held : service.Scoped) (id : Nat) :
    Service.Scoped
      (service.mapStore fun store => store.putQueue (store.queue.markReceived id)) := by
  have moves := Queue.moves_markReceived service.store.queue id
  apply held.drift (.of_moves moves)
  intro other jobId sent
  rwa [Store.putQueue_queue, moves.jobAt] at sent

/-- A task is replaced by one of the same job, or by one that registers. -/
theorem replace {service : Service} (held : service.Scoped) {index : Nat} {store : Store}
    (grows : service.store.Grows store) (task : Task) (own : task.Scoped store)
    (registers : ∀ jobId program, task = .submit (some jobId) program →
      (∃ before, service.tasks[index]? = some (.submit (some jobId) before)) ∨
        service.store.jobs jobId = none)
    (sent : ∀ id jobId, store.queue.jobAt id = some jobId → (store.jobs jobId).isSome) :
    Service.Scoped { service.setTask index task with store := store } := by
  -- a registered submission besides the replaced one is another one
  have apart : ∀ {other : Nat} {jobId : JobId} {one program : Coroutine Answer},
      task = .submit (some jobId) one →
        service.tasks[other]? = some (.submit (some jobId) program) →
      other = index := by
    intro other jobId one program same found
    rcases registers jobId one same with ⟨before, present⟩ | absent
    · exact held.alone other index jobId program before found present
    · have present := (held.tasks other _ found).1
      rw [absent] at present
      cases present
  constructor
  · intro other found member
    rcases Service.replaced_cases member with ⟨-, rfl⟩ | ⟨-, old⟩
    · exact own
    · exact (held.tasks other found old).grow grows
  · intro first second jobId one other found same
    rcases Service.replaced_cases found with ⟨rfl, new⟩ | ⟨different, old⟩
    · rcases Service.replaced_cases same with ⟨rfl, -⟩ | ⟨-, also⟩
      · rfl
      · exact (apart new.symm also).symm
    · rcases Service.replaced_cases same with ⟨rfl, new⟩ | ⟨-, also⟩
      · exact absurd (apart new.symm old) different
      · exact held.alone first second jobId one other old also
  · exact sent

end Service.Scoped

/-- Every step leaves every task on its own job. -/
theorem Step.scoped {env : Environment} {action : Action} {service after : Service}
    (moved : Step env service action after) (held : service.Scoped) : after.Scoped := by
  have grows := moved.grows
  cases moved with
  | submit context request =>
      apply held.spawn
      · exact unregistered_submitResearchJob env context request
      · intro jobId program named
        have registered : none = some jobId := congrArg Task.job named
        cases registered
  | poll context jobId =>
      apply held.spawn
      · exact uses_answering context .status (uses_pollJob jobId)
      · intro id program named
        have registered : none = some id := congrArg Task.job named
        cases registered
  | deliver id message body found visible below named =>
      have moves := Queue.moves_markReceived service.store.queue id
      have about : service.store.queue.jobAt id = some body.jobId := by
        simp [Queue.jobAt, Queue.bodies, found, named, MessageBody.jobId?]
      apply (held.received id).spawn
      · apply Task.Scoped.working
        · exact (congrFun moves.jobAt id).trans about
        · exact uses_executeResearchPipeline env body
      · intro jobId program named
        cases continued : executeResearchPipeline env body <;>
          rw [continued, Task.working] at named <;> cases named
  | reject id message error found visible below malformed => exact held.received id
  | resume index outcome task next store found resumes =>
      have own := held.tasks index task found
      apply held.replace grows next (resumes.scoped own)
      · rintro jobId program rfl
        rcases resumes.registers with ⟨before, rfl⟩ | absent
        · exact .inl ⟨before, found⟩
        · exact .inr absent
      · intro id jobId about
        obtain ⟨op, reply, pending, called⟩ := resumes.exec
        rcases (written_of_exec called).jobAt about with old | ⟨message, rfl, rfl⟩
        · exact grows.jobs jobId (held.sent id jobId old)
        · exact grows.jobs _ (own.may pending).send
  | crash index task found live =>
      apply held.replace (.refl _) .crashed trivial
      · intro jobId program named
        cases named
      · exact held.sent
  | expireSnapshot jobId => exact held.drift grows fun _ _ sent => sent
  | expireCached cacheKey => exact held.drift grows fun _ _ sent => sent
  | timeout id =>
      apply held.drift grows
      intro other jobId sent
      exact (congrFun (Queue.moves_timeout service.store.queue id).jobAt other) ▸ sent
  | redrive id =>
      apply held.drift grows
      intro other jobId sent
      exact (congrFun (Queue.moves_redrive service.store.queue id).jobAt other) ▸ sent

/-- In every reachable state every task works on its own job. -/
theorem Service.scoped_of_run {env : Environment} {permits : Action → Service → Bool}
    {dlqArn : String} {aiCache : String → Option CachedPayload} {actions : List Action}
    {service : Service}
    (ran : runWithin (Service.step env) permits actions
      (Service.initial env.settings dlqArn aiCache) = some service) : service.Scoped :=
  runWithin_induction _ (fun _ _ _ _ moved => (Service.step_cases moved).scoped)
    (Service.Scoped.initial _ _ _) ran

end ResearchTool
