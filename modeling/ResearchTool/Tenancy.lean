import ResearchTool.Custody
import ResearchTool.Deliveries
import ResearchTool.Process.Leases
import ResearchTool.Journal

/-!
# One task at a time

The service as tasks that lease jobs.  A submission holds the lease of its job
from the insert of the row to its end, a worker from the delivery of a message
to the end of its handling.  As long as no message is delivered while a task
works on its job, what a task finds of the job is what the last one left,
apart from what the environment does to snapshots and messages.
-/

namespace ResearchTool

open Process

/-! ## What the others leave -/

/-- What may happen to a message that nobody handles: it may become visible,
and once received as often as allowed it may be moved to the dead-letter queue. -/
structure QueueMessage.Waits (limit : Nat) (before after : QueueMessage) : Prop where
  body : after.body = before.body
  receiveCount : after.receiveCount = before.receiveCount
  deleted : after.place = .deleted ↔ before.place = .deleted
  deadLetter : before.place = .deadLetter → after.place = .deadLetter
  redriven : after.place = .deadLetter → before.place = .deadLetter ∨ limit ≤ before.receiveCount

theorem QueueMessage.Waits.refl (limit : Nat) (message : QueueMessage) :
    message.Waits limit message :=
  ⟨rfl, rfl, Iff.rfl, id, .inl⟩

theorem QueueMessage.Waits.trans {limit : Nat} {first second third : QueueMessage}
    (earlier : first.Waits limit second) (later : second.Waits limit third) :
    first.Waits limit third where
  body := later.body.trans earlier.body
  receiveCount := later.receiveCount.trans earlier.receiveCount
  deleted := later.deleted.trans earlier.deleted
  deadLetter moved := later.deadLetter (earlier.deadLetter moved)
  redriven moved := by
    rcases later.redriven moved with before | exhausted
    · exact earlier.redriven before
    · exact .inr (earlier.receiveCount ▸ exhausted)

/-- Every message about the job is still there, and has at most waited. -/
def Store.MessagesWait (jobId : JobId) (before after : Store) : Prop :=
  ∀ id message, before.queue.jobAt id = some jobId → before.queue.messages[id]? = some message →
    ∃ moved, after.queue.messages[id]? = some moved ∧
      message.Waits before.queue.maxReceiveCount moved

/-- What the others do to a job while one task works on it: its snapshot may
expire, and its message may wait. -/
structure Store.Leaves (jobId : JobId) (before after : Store) : Prop where
  job : after.jobs jobId = before.jobs jobId
  report : after.reports jobId = before.reports jobId
  snapshot : after.snapshots jobId = before.snapshots jobId ∨ after.snapshots jobId = none
  sent : ∀ id, after.queue.jobAt id = some jobId ↔ before.queue.jobAt id = some jobId
  messages : before.MessagesWait jobId after
  fetched : before.fetched ⊆ after.fetched
  attributes : after.queue.attributes = before.queue.attributes

namespace Store.Leaves

variable {jobId : JobId}

theorem refl (jobId : JobId) (store : Store) : store.Leaves jobId store where
  job := rfl
  report := rfl
  snapshot := .inl rfl
  sent _ := Iff.rfl
  messages _ message _ found := ⟨message, found, .refl _ message⟩
  fetched := List.Subset.refl _
  attributes := rfl

theorem trans {first second third : Store} (earlier : first.Leaves jobId second)
    (later : second.Leaves jobId third) : first.Leaves jobId third where
  job := later.job.trans earlier.job
  report := later.report.trans earlier.report
  snapshot := by
    rcases later.snapshot with same | expired
    · rw [same]
      exact earlier.snapshot
    · exact .inr expired
  sent id := (later.sent id).trans (earlier.sent id)
  messages id message about found := by
    obtain ⟨moved, present, waited⟩ := earlier.messages id message about found
    obtain ⟨last, further, waiting⟩ :=
      later.messages id moved ((earlier.sent id).mpr about) present
    rw [Queue.maxReceiveCount, earlier.attributes] at waiting
    exact ⟨last, further, waited.trans waiting⟩
  fetched := List.Subset.trans earlier.fetched later.fetched
  attributes := later.attributes.trans earlier.attributes

/-- What spares a job leaves it. -/
theorem of_spares {before after : Store} (spares : before.Spares jobId after)
    (grows : before.Grows after) : before.Leaves jobId after where
  job := spares.job
  report := spares.report
  snapshot := .inl spares.snapshot
  sent := spares.sent
  messages id message about found :=
    ⟨message, (spares.messages id about).trans found, .refl _ message⟩
  fetched := grows.fetched.subset
  attributes := grows.attributes

theorem dropSnapshot (store : Store) (dropped : JobId) :
    store.Leaves jobId (store.dropSnapshot dropped) :=
  { refl jobId store with
    snapshot := by
      by_cases same : jobId = dropped
      · subst same
        exact .inr (Function.update_self _ _ _)
      · exact .inl (Function.update_of_ne same _ _) }

theorem dropCached (store : Store) (cacheKey : String) :
    store.Leaves jobId (store.dropCached cacheKey) :=
  { refl jobId store with }

/-- A move of the broker that only lets messages wait. -/
theorem update (store : Store) (id : Nat) {change : QueueMessage → QueueMessage}
    (keepsBody : ∀ message, (change message).body = message.body)
    (waits : ∀ message : QueueMessage,
      message.Waits store.queue.maxReceiveCount (change message)) :
    store.Leaves jobId (store.putQueue (store.queue.update id change)) :=
  { refl jobId store with
    sent := fun other => by
      rw [Store.putQueue_queue, (Queue.moves_update _ _ keepsBody).jobAt]
    messages := by
      intro other message _ found
      rw [Store.putQueue_queue, Queue.messages_update, found]
      split
      · exact ⟨change message, rfl, waits message⟩
      · exact ⟨message, rfl, .refl _ message⟩ }

theorem timeout (store : Store) (id : Nat) :
    store.Leaves jobId (store.putQueue (store.queue.timeout id)) := by
  apply update store id
  · intro message
    split <;> rfl
  · intro message
    split
    · rename_i hidden
      exact ⟨rfl, rfl, by simp [hidden], by simp [hidden], nofun⟩
    · exact .refl _ message

theorem redrive (store : Store) (id : Nat) :
    store.Leaves jobId (store.putQueue (store.queue.redrive id)) := by
  apply update store id
  · intro message
    split <;> rfl
  · intro message
    split
    · rename_i exhausted
      exact ⟨rfl, rfl, by simp [exhausted.1], fun _ => rfl, fun _ => .inr exhausted.2⟩
    · exact .refl _ message

end Store.Leaves

/-! ## Leases of jobs -/

/-- How far a task has come with its job. -/
inductive Stage where
  | submission (jobId : JobId)
  | execution (received : ReceivedMessage)
  | settlement (received : ReceivedMessage)

namespace Stage

def job : Stage → JobId
  | submission jobId => jobId
  | execution received => received.body.jobId
  | settlement received => received.body.jobId

end Stage

/-- What the handling of a delivery came to. -/
abbrev Verdict :=
  ReceivedMessage × Except Exn Unit

namespace Task

def stage : Task → Option Stage
  | submit (some jobId) _ => some (.submission jobId)
  | execute received _ => some (.execution received)
  | settle received _ _ => some (.settlement received)
  | _ => none

/-- The job that a task in progress works on. -/
def tenant (task : Task) : Option JobId :=
  if task.isLive then task.job else none

/-- The verdict of a worker's task that has ended. -/
def verdict : Task → Option (JobId × Verdict)
  | settle received outcome program =>
      if program.pending.isSome then none
      else some (received.body.jobId, received, outcome)
  | _ => none

theorem tenant_eq_some_iff {task : Task} {jobId : JobId} :
    task.tenant = some jobId ↔ task.isLive = true ∧ task.job = some jobId := by
  unfold tenant
  split
  · simp [*]
  · simp [*]

theorem tenant_of_verdict {task : Task} {jobId : JobId} {verdict : Verdict}
    (ended : task.verdict = some (jobId, verdict)) : task.tenant = none := by
  cases task with
  | settle received outcome program =>
      by_cases waits : program.pending.isSome = true
      · rw [Task.verdict, if_pos waits] at ended
        cases ended
      · exact if_neg waits
  | submit | poll | execute | crashed => cases ended

end Task

/-- The terms on which jobs are leased: how the calls of a tenant may end, which
tenants may crash, which receives of a message may end the worker before it is
one, what tenants keep true between their calls, and what they leave behind. -/
structure Tenancy where
  permits : Stage → Op → Outcome → Bool
  mayCrash : Stage → Bool
  /-- whether the receive with this count may find that the body is invalid -/
  mayRefuse : Nat → Bool
  /-- what holds of the job at every call of its tenant -/
  bears : Stage → Store → Prop
  /-- what holds of a job without a tenant, after the given verdicts -/
  rests : JobId → List Verdict → Store → Prop
  bears_of_leaves : ∀ {stage before after}, before.Leaves stage.job after →
    bears stage before → bears stage after
  rests_of_leaves : ∀ {jobId history before after}, before.Leaves jobId after →
    rests jobId history before → rests jobId history after

namespace Tenancy

variable (tenancy : Tenancy)

def protocol (stage : Stage) : Protocol Ops Exn Store where
  invariant := tenancy.bears stage
  rely := Store.Leaves stage.job
  effect := callsWithin (tenancy.permits stage)
  guarantee _ _ := True
  rely_refl := .refl _
  rely_trans := .trans

/-- The handling of an outcome leaves the job as the terms say. -/
def Settles (settings : Settings) (history : List Verdict) (received : ReceivedMessage)
    (outcome : Except Exn Unit) (store : Store) : Prop :=
  tenancy.bears (.settlement received) store ∧
    (ResearchTool.settle settings received outcome).Safe (tenancy.protocol (.settlement received))
      (fun _ now => tenancy.rests received.body.jobId (history ++ [(received, outcome)]) now) store

/-- A tenant keeps the terms from a state on. -/
def Keeps (settings : Settings) (history : List Verdict) : Task → Store → Prop
  | .submit (some jobId) program, store =>
      history = [] ∧ tenancy.bears (.submission jobId) store ∧
        program.Safe (tenancy.protocol (.submission jobId))
          (fun _ now => tenancy.rests jobId [] now) store
  | .execute received program, store =>
      tenancy.bears (.execution received) store ∧
        program.Safe (tenancy.protocol (.execution received))
          (tenancy.Settles settings history received) store
  | .settle received outcome program, store =>
      tenancy.bears (.settlement received) store ∧
        program.Safe (tenancy.protocol (.settlement received))
          (fun _ now => tenancy.rests received.body.jobId (history ++ [(received, outcome)]) now)
          store
  | _, _ => True

variable {tenancy} in
theorem Keeps.leave {settings : Settings} {history : List Verdict} {task : Task} {jobId : JobId}
    {before after : Store} (holds : task.tenant = some jobId) (left : before.Leaves jobId after)
    (keeps : tenancy.Keeps settings history task before) :
    tenancy.Keeps settings history task after := by
  have named := (Task.tenant_eq_some_iff.mp holds).2
  cases task with
  | submit job program =>
      cases named
      obtain ⟨unheard, bears, safe⟩ := keeps
      exact ⟨unheard, tenancy.bears_of_leaves left bears, safe.interfere left⟩
  | execute received program =>
      cases named
      exact ⟨tenancy.bears_of_leaves left keeps.1, keeps.2.interfere left⟩
  | settle received outcome program =>
      cases named
      exact ⟨tenancy.bears_of_leaves left keeps.1, keeps.2.interfere left⟩
  | poll | crashed => trivial

/-- The tasks of the service as tenants of jobs. -/
def leases (settings : Settings) : Leases Store JobId Task Verdict where
  tenant := Task.tenant
  verdict := Task.verdict
  keeps := tenancy.Keeps settings
  rests := tenancy.rests
  leaves := Store.Leaves
  finished := Task.tenant_of_verdict
  keeps_of_leaves := .leave
  rests_of_leaves := tenancy.rests_of_leaves

/-! ## Calls of a tenant -/

variable {tenancy} {settings : Settings} {history : List Verdict}

/-- A worker handles an outcome, or has handled it. -/
theorem settle_cases {received : ReceivedMessage} {outcome : Except Exn Unit}
    {program : Coroutine Unit} {store : Store}
    (keeps : tenancy.Keeps settings history (.settle received outcome program) store) :
    ((Task.settle received outcome program).tenant = some received.body.jobId ∧
        tenancy.Keeps settings history (.settle received outcome program) store) ∨
      ((Task.settle received outcome program).tenant = none ∧
        tenancy.rests received.body.jobId (history ++ ((tenancy.leases settings).verdictOn
          received.body.jobId (.settle received outcome program)).toList) store) := by
  have about : Task.verdict (.settle received outcome program) =
      if program.pending.isSome then none else some (received.body.jobId, received, outcome) := rfl
  cases program with
  | call op resume => exact .inl ⟨rfl, keeps⟩
  | pure value =>
      have ended : (tenancy.leases settings).verdictOn received.body.jobId
          (.settle received outcome (.pure value)) = some (received, outcome) :=
        Leases.verdictOn_eq_some_iff.mpr about
      rw [ended]
      exact .inr ⟨rfl, Program.safe_pure.mp keeps.2 store keeps.1 (.refl _ _)⟩
  | raise error =>
      have ended : (tenancy.leases settings).verdictOn received.body.jobId
          (.settle received outcome (.raise error)) = some (received, outcome) :=
        Leases.verdictOn_eq_some_iff.mpr about
      rw [ended]
      exact .inr ⟨rfl, Program.safe_raise.mp keeps.2 store keeps.1 (.refl _ _)⟩

/-- A worker executes the pipeline, or goes on to its outcome. -/
theorem working_cases {received : ReceivedMessage} {program : Coroutine Unit} {store : Store}
    (bears : tenancy.bears (.execution received) store)
    (safe : program.Safe (tenancy.protocol (.execution received))
      (tenancy.Settles settings history received) store) :
    ((Task.working settings received program).tenant = some received.body.jobId ∧
        tenancy.Keeps settings history (.working settings received program) store) ∨
      ((Task.working settings received program).tenant = none ∧
        tenancy.rests received.body.jobId (history ++ ((tenancy.leases settings).verdictOn
          received.body.jobId (.working settings received program)).toList) store) := by
  cases program with
  | call op resume => exact .inl ⟨rfl, bears, safe⟩
  | pure value => exact settle_cases (Program.safe_pure.mp safe store bears (.refl _ _))
  | raise error => exact settle_cases (Program.safe_raise.mp safe store bears (.refl _ _))

/-- A submission goes on with its job, or has ended. -/
theorem submit_cases {jobId : JobId} {program : Coroutine Answer} {store : Store}
    (keeps : tenancy.Keeps settings history (.submit (some jobId) program) store) :
    ((Task.submit (some jobId) program).tenant = some jobId ∧
        tenancy.Keeps settings history (.submit (some jobId) program) store) ∨
      ((Task.submit (some jobId) program).tenant = none ∧
        tenancy.rests jobId (history ++ ((tenancy.leases settings).verdictOn jobId
          (.submit (some jobId) program)).toList) store) := by
  have open' : (tenancy.leases settings).verdictOn jobId (.submit (some jobId) program) = none :=
    Leases.verdictOn_of_none rfl jobId
  obtain ⟨unheard, bears, safe⟩ := keeps
  rw [open', Option.toList_none, List.append_nil, unheard]
  cases program with
  | call op resume => exact .inl ⟨rfl, rfl, bears, safe⟩
  | pure value => exact .inr ⟨rfl, Program.safe_pure.mp safe store bears (.refl _ _)⟩
  | raise error => exact .inr ⟨rfl, Program.safe_raise.mp safe store bears (.refl _ _)⟩

/-- A permitted call of a tenant keeps the terms. -/
theorem Keeps.call {task next : Task} {jobId : JobId} {outcome : Outcome} {store after : Store}
    (keeps : tenancy.Keeps settings history task store) (holds : task.tenant = some jobId)
    (resumes : task.Resumes settings outcome store after next)
    (permitted : ∀ stage op, task.stage = some stage → task.pending = some op →
      tenancy.permits stage op outcome = true) :
    (next.tenant = some jobId ∧ tenancy.Keeps settings history next after) ∨
      (next.tenant = none ∧ tenancy.rests jobId (history ++ ((tenancy.leases settings).verdictOn
        jobId next).toList) after) := by
  have named := (Task.tenant_eq_some_iff.mp holds).2
  cases resumes with
  | submit job op resume reply called =>
      cases named
      obtain ⟨unheard, bears, safe⟩ := keeps
      obtain ⟨bears, -, rest⟩ := Program.safe_call.mp safe store reply after bears
        (.refl _ _) ⟨outcome, permitted _ op rfl rfl, called⟩
      exact submit_cases ⟨unheard, bears, rest⟩
  | poll => cases named
  | execute received op resume reply called =>
      cases named
      obtain ⟨bears, -, rest⟩ := Program.safe_call.mp keeps.2 store reply after keeps.1
        (.refl _ _) ⟨outcome, permitted _ op rfl rfl, called⟩
      exact working_cases bears rest
  | settle received ended op resume reply called =>
      cases named
      obtain ⟨bears, -, rest⟩ := Program.safe_call.mp keeps.2 store reply after keeps.1
        (.refl _ _) ⟨outcome, permitted _ op rfl rfl, called⟩
      exact settle_cases ⟨bears, rest⟩

end Tenancy

/-! ## Submissions without a row -/

/-- The contexts that GitHub has returned, and for which target. -/
abbrev Fetches :=
  List (ParsedRepoTarget × RepositoryRawContext)

/-- Nothing is stored about the job. -/
structure Store.Lacks (jobId : JobId) (store : Store) : Prop where
  job : store.jobs jobId = none
  report : store.reports jobId = none
  snapshot : store.snapshots jobId = none
  unsent : ∀ id, store.queue.jobAt id ≠ some jobId

/-- The row is all that is stored about its job. -/
structure Store.Founded (record : ResearchJobRecord) (store : Store) : Prop where
  job : store.jobs record.jobId = some record
  report : store.reports record.jobId = none
  snapshot : store.snapshots record.jobId = none
  unsent : ∀ id, store.queue.jobAt id ≠ some record.jobId

namespace Tenancy

variable (tenancy : Tenancy)

/-- A submission without a row that has seen the given fetches: once it has
created the row, it keeps the terms. -/
def Founds : Coroutine Answer → Fetches → Prop
  | .pure _, _ => True
  | .raise _, _ => True
  | .call (.fetchRepositoryContext target) resume, seen =>
      (∀ rawContext, Founds (resume (.ok rawContext)) ((target, rawContext) :: seen)) ∧
        ∀ error, Founds (resume (.error error)) seen
  | .call .uuid4 resume, seen => ∀ reply, Founds (resume reply) seen
  | .call (.insertJob record) resume, seen =>
      (∃ target rawContext jobId, record = pendingRecord target rawContext jobId) ∧
        (∀ value store, store.Founded record → seen ⊆ store.fetched →
          tenancy.bears (.submission record.jobId) store ∧
            (resume (.ok value)).Safe (tenancy.protocol (.submission record.jobId))
              (fun _ now => tenancy.rests record.jobId [] now) store) ∧
        ∀ error, Founds (resume (.error error)) seen
  | .call _ _, _ => False

/-- The condition of a run under the terms: a message is received when no task
works on its job, and refusals, calls and crashes are permitted ones. -/
def allows (env : Environment) (action : Action) (service : Service) : Bool :=
  match action with
  | .deliver id =>
      (service.store.queue.jobAt id).all fun jobId =>
        (service.tasks.all fun task => task.tenant != some jobId) &&
          service.store.queue.messages[id]?.all fun message =>
            !env.refuses message.body || tenancy.mayRefuse (message.receiveCount + 1)
  | .resume index outcome =>
      service.tasks[index]?.all fun task =>
        task.stage.all fun stage => task.pending.all fun op => tenancy.permits stage op outcome
  | .crash index => service.tasks[index]?.all fun task => task.stage.all tenancy.mayCrash
  | _ => true

variable {tenancy} in
/-- Where any receive may be refused, a receive is allowed when no task works on
the job. -/
theorem allows_deliver {env : Environment} {id : Nat} {service : Service}
    (mayRefuse : ∀ count, tenancy.mayRefuse count = true)
    (free : (service.store.queue.jobAt id).all (fun jobId =>
      service.tasks.all fun task => task.tenant != some jobId) = true) :
    tenancy.allows env (.deliver id) service = true := by
  simpa [allows, mayRefuse] using free

/-- Every program keeps the terms from what it finds. -/
structure Upheld (env : Environment) : Prop where
  absent : ∀ jobId store, store.Lacks jobId → tenancy.rests jobId [] store
  registered : ∀ target rawContext jobId store,
    store.Founded (pendingRecord target rawContext jobId) → tenancy.rests jobId [] store
  founds : ∀ context request, tenancy.Founds (submitResearchJob env context request) []
  works : ∀ history id message body store, tenancy.rests body.jobId history store →
    store.queue.messages[id]? = some message → message.body = .job body →
    (∀ other, store.queue.jobAt other = some body.jobId → other = id) →
    store.queue.maxReceiveCount = env.settings.maxQueueAttempts →
    message.place = .visible → message.receiveCount < env.settings.maxQueueAttempts →
    (store.jobs body.jobId).isSome →
    tenancy.bears (.execution (message.delivery id body))
        (store.putQueue (store.queue.markReceived id)) ∧
      (executeResearchPipeline env body).Safe
        (tenancy.protocol (.execution (message.delivery id body)))
        (tenancy.Settles env.settings history (message.delivery id body))
        (store.putQueue (store.queue.markReceived id))
  refuses : ∀ history id message body store, tenancy.rests body.jobId history store →
    store.queue.messages[id]? = some message → message.body = .job body →
    (∀ other, store.queue.jobAt other = some body.jobId → other = id) →
    message.place = .visible → tenancy.mayRefuse (message.receiveCount + 1) →
    tenancy.rests body.jobId history (store.putQueue (store.queue.markReceived id))
  crashes : ∀ stage history store, tenancy.mayCrash stage → tenancy.bears stage store →
    (∀ jobId, stage = .submission jobId → history = []) → tenancy.rests stage.job history store

/-- What holds in every state of a run under the terms. -/
structure Kept (settings : Settings) (service : Service) : Prop where
  leased : (tenancy.leases settings).Kept service.tasks service.store
  scope : service.Scoped
  single : service.Single
  rowless : ∀ jobId, service.store.jobs jobId = none →
    service.store.reports jobId = none ∧ service.store.snapshots jobId = none
  founds : ∀ (index : Nat) (program : Coroutine Answer),
    service.tasks[index]? = some (.submit none program) →
      ∃ seen, seen ⊆ service.store.fetched ∧ tenancy.Founds program seen
  provisioned : service.store.queue.maxReceiveCount = settings.maxQueueAttempts

end Tenancy

/-! ## Jobs without a row -/

/-- Nobody works on a job that has no row, and nobody has. -/
theorem Service.Scoped.job_ne {service : Service} (scope : service.Scoped) {jobId : JobId}
    (absent : service.store.jobs jobId = none) {index : Nat} {task : Task}
    (found : service.tasks[index]? = some task) : task.job ≠ some jobId := by
  have held := scope.tasks index task found
  have unsent : ∀ id, service.store.queue.jobAt id ≠ some jobId := by
    intro id about
    have present := scope.sent id jobId about
    rw [absent] at present
    cases present
  rintro named
  cases task with
  | submit job program =>
      cases named
      have present := held.1
      rw [absent] at present
      cases present
  | execute received program =>
      cases named
      exact unsent _ held.1
  | settle received outcome program =>
      cases named
      exact unsent _ held.1
  | poll | crashed => cases named

theorem Task.job_of_verdict {task : Task} {jobId : JobId} {verdict : Verdict}
    (ended : task.verdict = some (jobId, verdict)) : task.job = some jobId := by
  cases task with
  | settle received outcome program =>
      by_cases waits : program.pending.isSome = true
      · rw [Task.verdict, if_pos waits] at ended
        cases ended
      · rw [Task.verdict, if_neg waits] at ended
        cases ended
        rfl
  | submit | poll | execute | crashed => cases ended

theorem Service.Scoped.vacant {service : Service} (scope : service.Scoped) {jobId : JobId}
    (absent : service.store.jobs jobId = none) (tenancy : Tenancy) (settings : Settings) :
    (tenancy.leases settings).Vacant jobId service.tasks ∧
      (tenancy.leases settings).history jobId service.tasks = [] := by
  constructor
  · intro task member holds
    obtain ⟨index, found⟩ := List.mem_iff_getElem?.mp member
    exact scope.job_ne absent found (Task.tenant_eq_some_iff.mp holds).2
  · apply List.filterMap_eq_nil_iff.mpr
    intro task member
    obtain ⟨index, found⟩ := List.mem_iff_getElem?.mp member
    cases ended : (tenancy.leases settings).verdictOn jobId task with
    | none => rfl
    | some verdict =>
        have named := Task.job_of_verdict (Leases.verdictOn_eq_some_iff.mp ended)
        exact absurd named (scope.job_ne absent found)

/-- Reports and snapshots are about jobs that have a row. -/
theorem Step.rowless {env : Environment} {action : Action} {service after : Service}
    (moved : Step env service action after) (scope : service.Scoped)
    (rowless : ∀ jobId, service.store.jobs jobId = none →
      service.store.reports jobId = none ∧ service.store.snapshots jobId = none) :
    ∀ jobId, after.store.jobs jobId = none →
      after.store.reports jobId = none ∧ after.store.snapshots jobId = none := by
  intro jobId absent
  have before : service.store.jobs jobId = none := by
    cases present : service.store.jobs jobId with
    | none => rfl
    | some row =>
        have still := moved.grows.jobs jobId (Option.isSome_iff_exists.mpr ⟨row, present⟩)
        rw [absent] at still
        cases still
  obtain ⟨report, snapshot⟩ := rowless jobId before
  cases moved with
  | resume index outcome task next store found resumes =>
      obtain ⟨op, reply, pending, called⟩ := resumes.exec
      have written := written_of_exec called
      by_cases affects : op.Affects service.store jobId
      · rcases ((scope.tasks index task found).may pending).of_affects affects with
          ⟨record, rfl, rfl⟩ | ⟨program, rfl, present⟩ | ⟨received, -, -, about⟩
        · cases written with
          | unchanged => exact ⟨report, snapshot⟩
          | inserted record vacant => simp at absent
        · rw [before] at present
          cases present
        · have present := scope.sent _ _ about
          rw [before] at present
          cases present
      · have spares := written.spares affects
        exact ⟨spares.report.trans report, spares.snapshot.trans snapshot⟩
  | expireSnapshot dropped =>
      refine ⟨report, ?_⟩
      simp only [Service.mapStore_store, Store.dropSnapshot_snapshots]
      by_cases same : jobId = dropped
      · rw [same, Function.update_self]
      · rwa [Function.update_of_ne same]
  | _ => exact ⟨report, snapshot⟩

namespace Tenancy

variable {tenancy : Tenancy}

/-- The answer of a request says nothing more about its job. -/
theorem safe_answering {P : Protocol Ops Exn Store} {holds : Store → Prop} {α : Type}
    {context : RequestContext} {respond : α → Answer} {body : Coroutine α} {store : Store}
    (kept : P.invariant store) (safe : body.Safe P (fun _ now => holds now) store) :
    (answering context respond body).Safe P (fun _ now => holds now) store := by
  have attempted : body.attempt.Safe P (fun _ now => holds now ∧
      ∀ later, P.invariant later → P.rely now later → holds later) store := by
    apply Program.Safe.attempt
    apply safe.stable.weaken
    intro outcome now keptNow holds
    exact ⟨holds now keptNow (P.rely_refl now), holds⟩
  apply attempted.bind kept
  · rintro outcome now - ⟨-, still⟩
    cases outcome with
    | ok value => exact Program.safe_pure.mpr still
    | error error => exact Program.safe_pure.mpr still
  · rintro error now - ⟨held, -⟩
    exact held

/-- A submission keeps the terms if it does so from the row on. -/
theorem founds_submit (env : Environment) (context : RequestContext) (request : ResearchRequest)
    (announces : ∀ target rawContext jobId store,
      store.Founded (pendingRecord target rawContext jobId) →
      (target, rawContext) ∈ store.fetched → tenancy.bears (.submission jobId) store ∧
        ((await (.refreshJob jobId)).bind fun refreshed =>
          announceJob (Session.empty.loadJob jobId refreshed) target request rawContext jobId).Safe
          (tenancy.protocol (.submission jobId)) (fun _ now => tenancy.rests jobId [] now) store) :
    tenancy.Founds (submitResearchJob env context request) [] := by
  unfold submitResearchJob submit
  cases parseGithubRepositoryUrl env.urlLibrary request.url with
  | error error => exact trivial
  | ok target =>
      change tenancy.Founds (answering context .accepted
        ((await (.fetchRepositoryContext target)).bind fun rawContext =>
          registerJob target request rawContext)) []
      rw [answering_await]
      refine ⟨fun rawContext => ?_, fun error => trivial⟩
      change tenancy.Founds (answering context .accepted ((await .uuid4).bind fun jobId =>
        (createJobRecord .empty (pendingRecord target rawContext jobId)).bind fun session =>
          announceJob session target request rawContext jobId)) [(target, rawContext)]
      rw [answering_await]
      intro reply
      cases reply with
      | error error => exact trivial
      | ok jobId =>
          change tenancy.Founds (answering context .accepted
            ((createJobRecord .empty (pendingRecord target rawContext jobId)).bind fun session =>
              announceJob session target request rawContext jobId)) [(target, rawContext)]
          rw [createJobRecord_bind, answering_await]
          refine ⟨⟨target, rawContext, jobId, rfl⟩, fun value store founded within => ?_,
            fun error => trivial⟩
          obtain ⟨bears, safe⟩ := announces target rawContext jobId store founded
            (within (List.mem_singleton.mpr rfl))
          exact ⟨bears, safe_answering bears safe⟩

end Tenancy

/-! ## Steps -/

-- the programs are used through the terms they keep only
attribute [local irreducible] submitResearchJob getResearchJobStatus executeResearchPipeline

/-- Only a submission that has no row yet creates one. -/
theorem Task.May.insertJob {task : Task} {store : Store} {record : ResearchJobRecord}
    (may : task.May store (.insertJob record)) : ∃ program, task = .submit none program := by
  cases may with
  | start program starts => exact ⟨program, rfl⟩
  | submit id program present submission => cases submission
  | poll id known program poll => cases poll
  | work task received delivery about works =>
      rcases works with pipeline | settling <;> contradiction

theorem Task.job_of_delivery {task : Task} {received : ReceivedMessage}
    (delivery : task.delivery = some received) : task.job = some received.body.jobId := by
  cases task with
  | execute other program | settle other outcome program =>
      cases delivery
      rfl
  | submit | poll | crashed => cases delivery

/-- A call leaves the jobs that its task neither works on nor creates. -/
theorem Task.May.leaves {task : Task} {op : Op} {outcome : Outcome} {store after : Store}
    {reply : Except Exn op.Reply} (may : task.May store op)
    (called : exec op outcome store = some (reply, after)) {jobId : JobId}
    (foreign : task.job ≠ some jobId)
    (elsewhere : ∀ record, op = .insertJob record → record.jobId ≠ jobId) :
    store.Leaves jobId after := by
  have written := written_of_exec called
  apply Store.Leaves.of_spares (written.spares _) written.grows
  intro affects
  rcases may.of_affects affects with ⟨record, created, named⟩ | ⟨program, rfl, -⟩ |
    ⟨received, delivery, named, -⟩
  · exact elsewhere record created named
  · exact foreign rfl
  · exact foreign (named ▸ Task.job_of_delivery delivery)

theorem Task.Resumes.job {settings : Settings} {outcome : Outcome} {store after : Store}
    {task next : Task} {jobId : JobId}
    (resumes : task.Resumes settings outcome store after next) (named : task.job = some jobId) :
    next.job = some jobId := by
  cases resumes with
  | submit job op resume reply called =>
      cases named
      rfl
  | poll => cases named
  | execute received op resume reply called =>
      cases continued : resume reply <;> exact named
  | settle => exact named

namespace Tenancy

variable {tenancy : Tenancy}

/-- A call of a submission that has no row yet, and does not get one. -/
theorem Founds.call {op : Op} {resume : Except Exn op.Reply → Coroutine Answer} {seen : Fetches}
    (founds : tenancy.Founds (.call op resume) seen) {outcome : Outcome} {store after : Store}
    {reply : Except Exn op.Reply} (within : seen ⊆ store.fetched)
    (called : exec op outcome store = some (reply, after))
    (unregistered : Task.registered op reply = none) :
    ∃ more, more ⊆ after.fetched ∧ tenancy.Founds (resume reply) more := by
  have grown : seen ⊆ after.fetched :=
    List.Subset.trans within (written_of_exec called).grows.fetched.subset
  cases op with
  | fetchRepositoryContext target =>
      cases reply with
      | error error => exact ⟨seen, grown, founds.2 error⟩
      | ok rawContext =>
          obtain ⟨supply, -, answered⟩ := answer_of_exec_ok called
          obtain ⟨other, same, rfl⟩ := answer_fetchRepositoryContext answered
          cases same
          exact ⟨(target, rawContext) :: seen, List.cons_subset_cons _ within, founds.1 rawContext⟩
  | uuid4 => exact ⟨seen, grown, founds reply⟩
  | insertJob record =>
      cases reply with
      | error error => exact ⟨seen, grown, founds.2.2 error⟩
      | ok value => cases unregistered
  | _ => cases founds

/-- A submission that creates its row, whether or not it gets to know. -/
theorem Upheld.found {env : Environment} (upheld : tenancy.Upheld env) {service : Service}
    (kept : tenancy.Kept env.settings service) {index : Nat} {record : ResearchJobRecord}
    {resume : Except Exn Unit → Coroutine Answer} {outcome : Outcome} {after : Store}
    {reply : Except Exn Unit}
    (found : service.tasks[index]? = some (.submit none (.call (.insertJob record) resume)))
    (called : exec (.insertJob record) outcome service.store = some (reply, after)) :
    (after = service.store ∧ reply.isOk = false) ∨
      (service.store.jobs record.jobId = none ∧ tenancy.rests record.jobId [] after ∧
        ∀ value, reply = .ok value →
          tenancy.Keeps env.settings [] (.submit (some record.jobId) (resume reply)) after) := by
  obtain ⟨seen, within, ⟨target, rawContext, jobId, created⟩, rest, -⟩ := kept.founds index _ found
  have grown : seen ⊆ after.fetched :=
    List.Subset.trans within (written_of_exec called).grows.fetched.subset
  cases written_of_exec called with
  | unchanged =>
      cases reply with
      | error error => exact .inl ⟨rfl, rfl⟩
      | ok value =>
          obtain ⟨absent, same⟩ := insertJob_ok called
          have present := congrArg (fun store : Store => store.jobs record.jobId) same
          simp [absent] at present
  | inserted _ absent =>
      obtain ⟨report, snapshot⟩ := kept.rowless record.jobId absent
      have founded : (service.store.putJob record.jobId record).Founded record := by
        refine ⟨Function.update_self _ _ _, report, snapshot, fun id about => ?_⟩
        have present := kept.scope.sent id record.jobId about
        rw [absent] at present
        cases present
      refine .inr ⟨absent, ?_, ?_⟩
      · subst created
        exact upheld.registered target rawContext jobId _ founded
      · rintro value rfl
        exact ⟨rfl, rest value _ founded grown⟩

/-- The leases after a call of a task that works on a job. -/
theorem Kept.tenant_call {settings : Settings} {service : Service}
    (kept : tenancy.Kept settings service) {index : Nat} {outcome : Outcome} {task next : Task}
    {after : Store} {jobId : JobId}
    {env : Environment} (permitted : tenancy.allows env (.resume index outcome) service = true)
    (found : service.tasks[index]? = some task) (holds : task.tenant = some jobId)
    (resumes : task.Resumes settings outcome service.store after next) :
    (tenancy.leases settings).Kept (service.tasks.set index next) after := by
  obtain ⟨live, named⟩ := Task.tenant_eq_some_iff.mp holds
  obtain ⟨op, reply, pending, called⟩ := resumes.exec
  have may := (kept.scope.tasks index task found).may pending
  apply kept.leased.advance found holds
  · apply Keeps.call (kept.leased.keeps found holds) holds resumes
    intro stage waiting staged same
    simpa [allows, found, staged, same] using permitted
  · intro other verdict ended
    have about : next.job = some other := Task.job_of_verdict ended
    rw [resumes.job named] at about
    exact (Option.some.inj about).symm
  · intro other different
    apply may.leaves called
    · rw [named]
      exact fun same => different (Option.some.inj same).symm
    · rintro record rfl
      obtain ⟨program, rfl⟩ := may.insertJob
      cases named

/-- The leases after a call of a task that works on no job. -/
theorem Upheld.free_call {env : Environment} (upheld : tenancy.Upheld env) {service : Service}
    (kept : tenancy.Kept env.settings service) {index : Nat} {outcome : Outcome}
    {task next : Task} {after : Store} (found : service.tasks[index]? = some task)
    (free : task.job = none)
    (resumes : task.Resumes env.settings outcome service.store after next) :
    (tenancy.leases env.settings).Kept (service.tasks.set index next) after := by
  have scope := kept.scope
  have idle : task.tenant = none := by
    cases holds : task.tenant with
    | none => rfl
    | some jobId => cases free.symm.trans (Task.tenant_eq_some_iff.mp holds).2
  obtain ⟨op, reply, pending, called⟩ := resumes.exec
  have may := (scope.tasks index task found).may pending
  cases resumes with
  | poll jobId known op resume answer called =>
      apply kept.leased.idle found idle rfl rfl
      · intro key holds
        cases (Task.tenant_eq_some_iff.mp holds).2
      · intro key _
        left
        cases pending
        apply may.leaves called nofun
        rintro record rfl
        obtain ⟨program, impossible⟩ := may.insertJob
        cases impossible
  | execute => cases free
  | settle => cases free
  | submit job op resume answer called =>
      cases free
      cases pending
      by_cases inserts : ∃ record, op = .insertJob record
      · obtain ⟨record, rfl⟩ := inserts
        rcases upheld.found kept found called with ⟨rfl, raised⟩ | ⟨absent, rests, keeps⟩
        · cases answer with
          | ok value => cases raised
          | error error =>
              apply kept.leased.idle found idle rfl rfl
              · intro key holds
                cases (Task.tenant_eq_some_iff.mp holds).2
              · intro key _
                exact .inl (.refl key _)
        · obtain ⟨vacant, unheard⟩ := scope.vacant absent tenancy env.settings
          apply kept.leased.idle found idle rfl rfl
          · intro key holds
            have named := (Task.tenant_eq_some_iff.mp holds).2
            cases answer with
            | error error => cases named
            | ok value =>
                cases named
                exact ⟨vacant, unheard, keeps value rfl⟩
          · intro key _
            by_cases same : key = record.jobId
            · subst same
              rw [unheard]
              exact .inr ⟨vacant, rests⟩
            · left
              apply may.leaves called nofun
              rintro other created
              cases created
              exact Ne.symm same
      · have unregistered : Task.registered op answer = none := by
          cases op with
          | insertJob record => exact absurd ⟨record, rfl⟩ inserts
          | _ => rfl
        apply kept.leased.idle found idle rfl rfl
        · intro key holds
          have named := (Task.tenant_eq_some_iff.mp holds).2
          rw [unregistered] at named
          cases named
        · intro key _
          exact .inl (may.leaves called nofun fun record created =>
            absurd ⟨record, created⟩ inserts)

/-- An outcome is handled by at least one call. -/
theorem settle_waits (settings : Settings) (received : ReceivedMessage)
    (outcome : Except Exn Unit) :
    (ResearchTool.settle settings received outcome).pending.isSome = true := by
  cases outcome with
  | ok value => rfl
  | error error =>
      by_cases last : settings.maxQueueAttempts ≤ received.receiveCount
      · rw [settle_exhausted last]
        rfl
      · rw [settle_retry last]
        rfl

theorem working_live (settings : Settings) (received : ReceivedMessage)
    (program : Coroutine Unit) :
    (Task.working settings received program).tenant = some received.body.jobId ∧
      (Task.working settings received program).verdict = none := by
  have waits : ∀ outcome,
      Task.tenant (.settle received outcome (ResearchTool.settle settings received outcome)) =
        some received.body.jobId ∧
      Task.verdict (.settle received outcome (ResearchTool.settle settings received outcome)) =
        none :=
    fun outcome => ⟨if_pos (settle_waits settings received outcome),
      if_pos (settle_waits settings received outcome)⟩
  cases program with
  | call op resume => exact ⟨rfl, rfl⟩
  | pure value => exact waits (.ok value)
  | raise error => exact waits (.error error)

/-- A message is received only if nobody works on its job. -/
theorem vacant_of_allows {env : Environment} {service : Service} {id : Nat} {jobId : JobId}
    (permitted : tenancy.allows env (.deliver id) service = true)
    (about : service.store.queue.jobAt id = some jobId) :
    (tenancy.leases env.settings).Vacant jobId service.tasks ∧
      ∀ message, service.store.queue.messages[id]? = some message →
        env.refuses message.body = true → tenancy.mayRefuse (message.receiveCount + 1) = true := by
  simp only [allows, about, Option.all_some, Bool.and_eq_true, List.all_eq_true] at permitted
  obtain ⟨free, refusals⟩ := permitted
  constructor
  · intro task member holds
    have taken : task.tenant = some jobId := holds
    have other := free task member
    simp [taken] at other
  · intro message found refused
    simpa [found, refused] using refusals

/-- The other jobs do not notice that a message is received. -/
theorem leaves_markReceived {store : Store} {id : Nat} {jobId : JobId}
    (foreign : store.queue.jobAt id ≠ some jobId) :
    store.Leaves jobId (store.putQueue (store.queue.markReceived id)) :=
  have moves := Queue.moves_markReceived store.queue id
  .of_spares (.of_moves moves foreign) (.of_moves moves)

/-- The leases after a delivery to a job that nobody works on. -/
theorem Upheld.deliver {env : Environment} (upheld : tenancy.Upheld env) {service : Service}
    (kept : tenancy.Kept env.settings service) {id : Nat} {message : QueueMessage}
    {body : ResearchJobMessage} (permitted : tenancy.allows env (.deliver id) service = true)
    (found : service.store.queue.messages[id]? = some message)
    (visible : message.place = .visible)
    (below : message.receiveCount < service.store.queue.maxReceiveCount)
    (named : message.body = .job body) :
    (tenancy.leases env.settings).Kept
      (service.tasks ++
        [.working env.settings (message.delivery id body) (executeResearchPipeline env body)])
      (service.store.putQueue (service.store.queue.markReceived id)) := by
  have about : service.store.queue.jobAt id = some body.jobId := by
    rw [Queue.jobAt_of_found found, named, MessageBody.jobId?]
  have vacant := (vacant_of_allows permitted about).1
  obtain ⟨holds, unfinished⟩ := working_live env.settings (message.delivery id body)
    (executeResearchPipeline env body)
  have keeps : tenancy.Keeps env.settings
      ((tenancy.leases env.settings).history body.jobId service.tasks)
      (.working env.settings (message.delivery id body) (executeResearchPipeline env body))
      (service.store.putQueue (service.store.queue.markReceived id)) := by
    obtain ⟨bears, safe⟩ := upheld.works _ id message body service.store
      (kept.leased.rests vacant) found named
      (fun other concerning => kept.single.only other id body.jobId concerning about)
      kept.provisioned visible (kept.provisioned ▸ below)
      (kept.scope.sent id body.jobId about)
    rcases working_cases bears safe with ⟨-, keeps⟩ | ⟨free, -⟩
    · exact keeps
    · cases free.symm.trans holds
  -- whatever the pipeline is
  generalize Task.working env.settings (message.delivery id body)
    (executeResearchPipeline env body) = task at holds unfinished keeps
  apply kept.leased.spawn unfinished
  · intro key taken
    have same : body.jobId = key := Option.some.inj (holds.symm.trans taken)
    subst same
    exact ⟨vacant, keeps⟩
  · intro key foreign
    apply leaves_markReceived
    rw [about]
    exact fun same => foreign (holds.trans same)

/-- The leases after a receive that is refused. -/
theorem Upheld.refuse {env : Environment} (upheld : tenancy.Upheld env) {service : Service}
    (kept : tenancy.Kept env.settings service) {id : Nat} {message : QueueMessage} {error : String}
    (permitted : tenancy.allows env (.deliver id) service = true)
    (found : service.store.queue.messages[id]? = some message)
    (visible : message.place = .visible)
    (malformed : env.readBody message.body = .malformed error) :
    (tenancy.leases env.settings).Kept service.tasks
      (service.store.putQueue (service.store.queue.markReceived id)) := by
  cases sent : message.body with
  | malformed other =>
      apply kept.leased.drift
      intro key
      apply leaves_markReceived
      rw [Queue.jobAt_of_found found, sent]
      exact (Option.some_ne_none key).symm
  | job body =>
      have about : service.store.queue.jobAt id = some body.jobId := by
        rw [Queue.jobAt_of_found found, sent, MessageBody.jobId?]
      obtain ⟨vacant, refusals⟩ := vacant_of_allows permitted about
      have mayRefuse := refusals message found (by rw [Environment.refuses, malformed])
      apply kept.leased.befall vacant
      · exact upheld.refuses _ id message body service.store (kept.leased.rests vacant) found sent
          (fun other concerning => kept.single.only other id body.jobId concerning about)
          visible mayRefuse
      · intro other different
        apply leaves_markReceived
        rw [about]
        exact fun same => different (Option.some.inj same).symm

/-- Every submission without a row was one before, or is new. -/
theorem Upheld.still_founds {env : Environment} (upheld : tenancy.Upheld env)
    {service after : Service} {action : Action} (kept : tenancy.Kept env.settings service)
    (moved : Step env service action after) (index : Nat) (program : Coroutine Answer)
    (found : after.tasks[index]? = some (.submit none program)) :
    ∃ seen, seen ⊆ after.store.fetched ∧ tenancy.Founds program seen := by
  have old : service.tasks[index]? = some (.submit none program) →
      ∃ seen, seen ⊆ after.store.fetched ∧ tenancy.Founds program seen := by
    intro present
    obtain ⟨seen, within, founds⟩ := kept.founds index program present
    exact ⟨seen, List.Subset.trans within moved.grows.fetched.subset, founds⟩
  cases moved with
  | submit context request =>
      rcases Service.spawned_cases found with present | ⟨-, new⟩
      · exact old present
      · rw [(Task.submit.inj new).2]
        exact ⟨[], List.nil_subset _, upheld.founds context request⟩
  | poll context jobId =>
      rcases Service.spawned_cases found with present | ⟨-, new⟩
      · exact old present
      · cases new
  | deliver id message body present visible below named =>
      rcases Service.spawned_cases found with present | ⟨-, new⟩
      · exact old present
      · have worker := congrArg Task.role new
        rw [Task.role_working] at worker
        cases worker
  | resume position outcome task next store present resumes =>
      rcases Service.replaced_cases found with ⟨rfl, rfl⟩ | ⟨-, earlier⟩
      · generalize named : Task.submit none program = next at resumes
        cases resumes with
        | submit job op resume reply called =>
            obtain ⟨registered, rfl⟩ := Task.submit.inj named
            cases job with
            | some jobId => cases registered
            | none =>
                obtain ⟨seen, within, founds⟩ := kept.founds index _ present
                exact founds.call within called registered.symm
        | poll => cases named
        | execute received op resume reply called =>
            cases continued : resume reply <;> rw [continued] at named <;> cases named
        | settle => cases named
      · exact old earlier
  | crash position task present live =>
      rcases Service.replaced_cases found with ⟨-, new⟩ | ⟨-, earlier⟩
      · cases new
      · exact old earlier
  | reject | expireSnapshot | expireCached | timeout | redrive => exact old found

/-- A request starts without a job. -/
theorem Kept.request {settings : Settings} {service : Service}
    (kept : tenancy.Kept settings service) (task : Task) (free : task.job = none)
    (unheard : task.verdict = none) :
    (tenancy.leases settings).Kept (service.tasks ++ [task]) service.store := by
  apply kept.leased.spawn unheard
  · intro key holds
    cases free.symm.trans (Task.tenant_eq_some_iff.mp holds).2
  · intro key _
    exact .refl key _

/-- Every step that meets the condition keeps the terms. -/
theorem Upheld.step {env : Environment} (upheld : tenancy.Upheld env) {service after : Service}
    {action : Action} (kept : tenancy.Kept env.settings service)
    (permitted : tenancy.allows env action service = true)
    (moved : Step env service action after) :
    tenancy.Kept env.settings after where
  scope := moved.scoped kept.scope
  single := moved.single kept.scope kept.single
  rowless := moved.rowless kept.scope kept.rowless
  founds := upheld.still_founds kept moved
  provisioned := by
    rw [← kept.provisioned, Queue.maxReceiveCount, moved.grows.attributes]
    rfl
  leased := by
    cases moved with
    | submit context request =>
        rw [Service.spawn_tasks, Service.spawn_store]
        exact kept.request (.submit none _) rfl rfl
    | poll context jobId =>
        rw [Service.spawn_tasks, Service.spawn_store]
        exact kept.request (.poll jobId _ _) rfl rfl
    | deliver id message body found visible below named =>
        rw [Service.spawn_tasks, Service.spawn_store]
        exact upheld.deliver kept permitted found visible below named
    | reject id message error found visible below malformed =>
        exact upheld.refuse kept permitted found visible malformed
    | resume index outcome task next store found resumes =>
        cases working : task.job with
        | none => exact upheld.free_call kept found working resumes
        | some jobId =>
            exact kept.tenant_call permitted found
              (Task.tenant_eq_some_iff.mpr ⟨resumes.live, working⟩) resumes
    | crash index task found live =>
        cases working : task.job with
        | none =>
            have unheard : task.verdict = none := by
              cases ended : task.verdict with
              | none => rfl
              | some verdict => cases working.symm.trans (Task.job_of_verdict ended)
            have free : task.tenant = none := by
              rw [Task.tenant, if_pos live, working]
            apply kept.leased.idle found free unheard rfl
            · intro key holds
              have taken : Task.tenant .crashed = some key := holds
              cases taken
            · intro key _
              exact .inl (.refl key _)
        | some jobId =>
            have holds : task.tenant = some jobId :=
              Task.tenant_eq_some_iff.mpr ⟨live, working⟩
            have keeps := kept.leased.keeps found holds
            apply kept.leased.advance found holds
            case about =>
              intro other verdict ended
              have impossible : Task.verdict .crashed = some (other, verdict) := ended
              cases impossible
            case left => exact fun other _ => .refl other _
            have unheard : (tenancy.leases env.settings).verdictOn jobId .crashed = none :=
              Leases.verdictOn_of_none rfl jobId
            rw [unheard, Option.toList_none, List.append_nil]
            refine .inr ⟨rfl, ?_⟩
            have mayCrash : ∀ stage, task.stage = some stage → tenancy.mayCrash stage = true := by
              intro stage staged
              simpa [allows, found, staged] using permitted
            cases task with
            | submit job program =>
                cases working
                exact upheld.crashes _ _ _ (mayCrash _ rfl) keeps.2.1 fun _ _ => keeps.1
            | execute received program =>
                cases working
                exact upheld.crashes _ _ _ (mayCrash _ rfl) keeps.1 nofun
            | settle received outcome program =>
                cases working
                exact upheld.crashes _ _ _ (mayCrash _ rfl) keeps.1 nofun
            | poll | crashed => cases working
    | expireSnapshot jobId => exact kept.leased.drift fun key => .dropSnapshot _ jobId
    | expireCached cacheKey => exact kept.leased.drift fun key => .dropCached _ cacheKey
    | timeout id => exact kept.leased.drift fun key => .timeout _ id
    | redrive id => exact kept.leased.drift fun key => .redrive _ id

/-- The service before its first request. -/
theorem Upheld.initial {env : Environment} (upheld : tenancy.Upheld env) (dlqArn : String)
    (aiCache : String → Option CachedPayload) :
    tenancy.Kept env.settings (Service.initial env.settings dlqArn aiCache) where
  leased := {
    alone := fun found => absurd found nofun
    last := fun found => absurd found nofun
    keeps := fun found => absurd found nofun
    rests := fun _ => upheld.absent _ _
      ⟨rfl, rfl, rfl, fun _ about => by simp [Service.initial, Queue.jobAt, Queue.bodies] at about⟩
  }
  scope := .initial _ _ _
  single := .initial _ _ _
  rowless _ _ := ⟨rfl, rfl⟩
  founds _ _ found := absurd found nofun
  provisioned := rfl

/-- The terms are kept in every state of a run under the terms. -/
theorem Upheld.run {env : Environment} (upheld : tenancy.Upheld env) {dlqArn : String}
    {aiCache : String → Option CachedPayload} {actions : List Action} {service : Service}
    (ran : runWithin (Service.step env) (tenancy.allows env) actions
      (Service.initial env.settings dlqArn aiCache) = some service) :
    tenancy.Kept env.settings service :=
  runWithin_induction _ (fun _ _ _ permitted moved kept =>
    upheld.step kept permitted (Service.step_cases moved)) (upheld.initial dlqArn aiCache) ran

/-- What holds of every job, whether or not a task works on it. -/
theorem Kept.everywhere {settings : Settings} {service : Service}
    {fact : JobId → Store → Prop} (kept : tenancy.Kept settings service)
    (bears : ∀ stage store, tenancy.bears stage store → fact stage.job store)
    (rests : ∀ jobId history store, tenancy.rests jobId history store → fact jobId store)
    (jobId : JobId) : fact jobId service.store := by
  by_cases vacant : (tenancy.leases settings).Vacant jobId service.tasks
  · exact rests jobId _ _ (kept.leased.rests vacant)
  · simp only [Leases.Vacant, not_forall, not_not] at vacant
    obtain ⟨task, member, holds⟩ := vacant
    obtain ⟨index, found⟩ := List.mem_iff_getElem?.mp member
    have keeps := kept.leased.keeps found holds
    have named := (Task.tenant_eq_some_iff.mp holds).2
    cases task with
    | submit job program =>
        cases named
        exact bears _ _ keeps.2.1
    | execute received program =>
        cases named
        exact bears _ _ keeps.1
    | settle received outcome program =>
        cases named
        exact bears _ _ keeps.1
    | poll | crashed => cases named

end Tenancy

end ResearchTool
