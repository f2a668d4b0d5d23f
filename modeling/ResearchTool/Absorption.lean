import ResearchTool.Commitment
import ResearchTool.Reconstruction

/-!
# Terminal states

Nothing in the code keeps a completed job from being worked on once more: a
message that is not deleted is delivered again, and the worker that receives it
marks the job as processing.  As long as a completed job is not delivered, one
task at a time works on a job, and the last attempt finishes what it has
completed, no call gives a completed job another status, and none starts a job
that has failed for good.
-/

namespace ResearchTool

open Process Commitment

/-- The operation that a step ends. -/
def Action.ends (action : Action) (service : Service) : Option Op :=
  match action with
  | .resume index _ => service.tasks[index]?.bind Task.pending
  | _ => none

def Store.isCompleted (store : Store) (jobId : JobId) : Bool :=
  (store.jobs jobId).any fun row => row.status = .completed

/-- A message is delivered only when no task works on its job and the job is not
completed.  On the last attempt, the call that completes the job and the calls of
the pipeline after it are carried out. -/
def keepsTerminal (settings : Settings) (action : Action) (service : Service) : Bool :=
  oneAtATime action service &&
    match action with
    | .deliver id =>
        (service.store.queue.jobAt id).all fun jobId => !service.store.isCompleted jobId
    | .resume index outcome =>
        match service.tasks[index]? with
        | some (.execute received (.call op _)) =>
            received.receiveCount < settings.maxQueueAttempts || !outcome.faulty ||
              !(op.completes || service.store.isCompleted received.body.jobId)
        | _ => true
    | _ => true

/-- The row is marked as failed, and the worker of the last allowed attempt has got
to handling its failure. -/
def Service.FailedFinally (settings : Settings) (jobId : JobId) (service : Service) : Prop :=
  (∃ row, service.store.jobs jobId = some row ∧ row.status = .failed) ∧
    ∃ received outcome program, .settle received outcome program ∈ service.tasks ∧
      received.body.jobId = jobId ∧ settings.maxQueueAttempts ≤ received.receiveCount

/-- The program of the task completes its job at most as its last business. -/
def Task.Commits : Task → Prop
  | .submit _ program => ∀ jobId, Commitment.Commits jobId program
  | .execute received program => Commitment.Commits received.body.jobId program
  | .settle received _ program => program.Uses (Commitment.Op.LeavesOpen received.body.jobId)
  | _ => True

/-- The task has only to finish what it has completed. -/
def Task.Closes (settings : Settings) : Task → Prop
  | .submit (some jobId) program => program.Uses (Commitment.Op.IsClosing jobId)
  | .execute received program =>
      program.Uses (Commitment.Op.IsClosing received.body.jobId) ∧
        (settings.maxQueueAttempts ≤ received.receiveCount → program.Succeeds)
  | .settle received _ program => program.Uses (Commitment.Op.IsClosing received.body.jobId)
  | _ => True

namespace Absorption

section

variable {settings : Settings} {received : ReceivedMessage} {outcome : Outcome}
  {store after : Store} {task next : Task} {jobId : JobId} {op : Op}

theorem commits_working {program : Coroutine Unit}
    (commits : Commits received.body.jobId program) :
    (Task.working settings received program).Commits := by
  cases program with
  | call op resume => exact commits
  | pure value => exact quiet_settle settings received _
  | raise error => exact quiet_settle settings received _

theorem commits_of_resumes (resumes : task.Resumes settings outcome store after next)
    (commits : task.Commits) : next.Commits := by
  cases resumes with
  | submit job op resume reply called =>
      exact fun jobId => (Program.commits_call.mp (commits jobId)).2 reply
  | poll => trivial
  | execute received op resume reply called =>
      have calls : Commits received.body.jobId (.call op resume) := commits
      exact commits_working ((Program.commits_call.mp calls).2 reply)
  | settle received ended op resume reply called => exact (Program.uses_call.mp commits).2 reply

/-- An attempt that has completed its job is followed by the deletion of its
message, or by its release if it was not the last one. -/
theorem closes_working {program : Coroutine Unit}
    (uses : program.Uses (Op.IsClosing received.body.jobId))
    (succeeds : settings.maxQueueAttempts ≤ received.receiveCount → program.Succeeds) :
    (Task.working settings received program).Closes settings := by
  cases program with
  | call op resume => exact ⟨uses, succeeds⟩
  | pure value => exact Program.Uses.perform trivial
  | raise error =>
      by_cases last : settings.maxQueueAttempts ≤ received.receiveCount
      · exact absurd (succeeds last) (Program.not_succeeds_raise error)
      · change (settle settings received (.error error)).Uses _
        rw [settle_retry last]
        exact Program.Uses.perform trivial

/-- On the last attempt the pending call is carried out. -/
def Sound (settings : Settings) (outcome : Outcome) : Task → Prop
  | .execute received _ =>
      settings.maxQueueAttempts ≤ received.receiveCount → outcome.faulty = false
  | _ => True

theorem closes_of_resumes (resumes : task.Resumes settings outcome store after next)
    (named : task.job = some jobId) (closes : task.Closes settings)
    (sound : Sound settings outcome task) (present : (store.jobs jobId).isSome) :
    next.Closes settings := by
  cases resumes with
  | submit job op resume reply called =>
      cases named
      exact (Program.uses_call.mp closes).2 reply
  | poll => cases named
  | execute received op resume reply called =>
      cases named
      obtain ⟨closing, rest⟩ := Program.uses_call.mp closes.1
      apply closes_working (rest reply)
      intro last
      obtain ⟨value, rfl⟩ := closing_returns closing (sound last) called present
      exact Program.succeeds_call.mp (closes.2 last) value
  | settle received ended op resume reply called => exact (Program.uses_call.mp closes).2 reply

/-- The call that completes the job leaves little to do. -/
theorem closes_of_marks (resumes : task.Resumes settings outcome store after next)
    (named : task.job = some jobId) (commits : task.Commits) (pending : task.pending = some op)
    (marks : Op.Marks jobId op) (sound : Sound settings outcome task)
    (present : (store.jobs jobId).isSome) : next.Closes settings := by
  cases resumes with
  | submit job op resume reply called =>
      cases named
      cases pending
      exact ((Program.commits_call.mp (commits jobId)).1 marks).1 reply
  | poll => cases named
  | execute received op resume reply called =>
      cases named
      cases pending
      have calls : Commits received.body.jobId (.call op resume) := commits
      obtain ⟨uses, succeeds⟩ := (Program.commits_call.mp calls).1 marks
      apply closes_working (uses reply)
      intro last
      obtain ⟨value, rfl⟩ := marks_returns marks (sound last) called present
      exact succeeds value
  | settle received ended op resume reply called =>
      cases named
      cases pending
      exact absurd marks (Program.uses_call.mp commits).1.1

/-- A task gets a job that has no row yet, or had it before. -/
theorem job_before_of_resumes (resumes : task.Resumes settings outcome store after next)
    (named : next.job = some jobId) : task.job = some jobId ∨ store.jobs jobId = none := by
  cases resumes with
  | submit job op resume reply called =>
      cases job with
      | some other => exact .inl named
      | none =>
          have registered : Task.registered op reply = some jobId := named
          unfold Task.registered at registered
          split at registered
          · cases registered
            exact .inr (insertJob_ok called).1
          · cases registered
  | poll => cases named
  | execute received op resume reply called =>
      left
      cases continued : resume reply <;> rw [continued] at named <;> exact named
  | settle => exact .inl named

/-- A closing task sets its job to completed only. -/
theorem closing_of_closes (named : task.job = some jobId) (closes : task.Closes settings)
    (pending : task.pending = some op) : Op.IsClosing jobId op := by
  cases task with
  | submit job program =>
      cases named
      exact Program.Uses.pending closes pending
  | execute received program =>
      cases named
      exact Program.Uses.pending closes.1 pending
  | settle received ended program =>
      cases named
      exact Program.Uses.pending closes pending
  | poll | crashed => cases named

end

/-! ## The service -/

/-- Every task completes its job at most as its last business, and a task that
works on a completed job has only to finish. -/
structure Guarded (settings : Settings) (service : Service) : Prop where
  commits : ∀ task ∈ service.tasks, task.Commits
  closes : ∀ (jobId : JobId) (index : Nat) (task : Task), service.store.isCompleted jobId = true →
    service.tasks[index]? = some task → task.tenant = some jobId → task.Closes settings

theorem isCompleted_iff {store : Store} {jobId : JobId} :
    store.isCompleted jobId = true ↔
      ∃ row, store.jobs jobId = some row ∧ row.status = .completed := by
  simp [Store.isCompleted, Option.any_eq_true]

theorem isCompleted_congr {before after : Store} {jobId : JobId}
    (same : after.jobs jobId = before.jobs jobId) :
    after.isCompleted jobId = before.isCompleted jobId := by
  rw [Store.isCompleted, Store.isCompleted, same]

/-- A row becomes completed by a call that says so. -/
theorem marks_of_written {op : Op} {store after : Store} {jobId : JobId}
    (written : Written store op after) (before : store.isCompleted jobId = false)
    (completed : after.isCompleted jobId = true) :
    Op.Marks jobId op ∨ ∃ record, op = .insertJob record ∧ record.status = .completed := by
  obtain ⟨row, found, status⟩ := isCompleted_iff.mp completed
  have still : ∀ row, store.jobs jobId = some row → row.status ≠ .completed := by
    intro row found status
    rw [isCompleted_iff.mpr ⟨row, found, status⟩] at before
    cases before
  cases written with
  | inserted record absent =>
      rcases update_eq_some found with ⟨-, same⟩ | ⟨-, old⟩
      · cases same
        exact .inr ⟨row, rfl, status⟩
      · exact absurd status (still row old)
  | updated id changes old present =>
      rcases update_eq_some found with ⟨named, same⟩ | ⟨-, old⟩
      · cases same
        left
        cases assigned : changes.status with
        | none =>
            rw [JobChanges.apply_status, assigned] at status
            exact absurd status (still old (named ▸ present))
        | some given =>
            rw [JobChanges.apply_status, assigned] at status
            cases status
            exact ⟨decide_eq_true assigned, named.symm, assigned⟩
      · exact absurd status (still row old)
  | _ => exact absurd status (still row found)

/-- A row is created as pending. -/
theorem pending_of_insertJob {service : Service} (scope : service.Scoped) {index : Nat}
    {task : Task} (found : service.tasks[index]? = some task) {record : ResearchJobRecord}
    (pending : task.pending = some (.insertJob record)) : record.status = .pending := by
  obtain ⟨program, rfl⟩ := ((scope.tasks index task found).may pending).insertJob
  cases program with
  | call op resume =>
      cases pending
      obtain ⟨⟨target, rawContext, jobId, rfl⟩, -, -⟩ :=
        unregistered_insertJob.mp (scope.tasks index _ found)
      rfl
  | pure value => cases pending
  | raise error => cases pending

/-- A call that sets a status of a job is one of a task of the job, or creates
its row. -/
theorem job_of_sets {service : Service} (scope : service.Scoped) {index : Nat}
    {task : Task} (found : service.tasks[index]? = some task) {op : Op}
    (pending : task.pending = some op) {jobId : JobId} {status : JobStatus}
    (sets : op.Sets jobId status) : task.job = some jobId ∨ status = .pending := by
  have affects : op.Affects service.store jobId := by
    cases op with
    | insertJob | updateJob | setState => exact sets.1
    | _ => cases sets
  rcases ((scope.tasks index task found).may pending).of_affects affects with
    ⟨record, rfl, -⟩ | ⟨program, rfl, -⟩ | ⟨received, delivery, named, -⟩
  · exact .inr (sets.2.symm.trans (pending_of_insertJob scope found pending))
  · exact .inl rfl
  · exact .inl (named ▸ Task.job_of_delivery delivery)

section

variable {env : Environment} {service after : Service} {action : Action} {jobId : JobId}

/-- What the condition says of the pending call of a worker. -/
theorem sound_of_permitted {index : Nat} {outcome : Outcome} {task : Task} {op : Op}
    (permitted : keepsTerminal env.settings (.resume index outcome) service = true)
    (found : service.tasks[index]? = some task) (named : task.job = some jobId)
    (pending : task.pending = some op)
    (decisive : op.completes = true ∨ service.store.isCompleted jobId = true) :
    Sound env.settings outcome task := by
  cases task with
  | execute received program =>
      cases named
      cases program with
      | pure value => cases pending
      | raise error => cases pending
      | call other resume =>
          cases pending
          intro last
          simp only [keepsTerminal, found, Bool.and_eq_true, Bool.or_eq_true, decide_eq_true_eq,
            Bool.not_eq_true', Bool.or_eq_false_iff] at permitted
          rcases permitted.2 with (more | sound) | ⟨plain, unfinished⟩
          · omega
          · exact sound
          · rcases decisive with completes | completed
            · cases plain.symm.trans completes
            · cases unfinished.symm.trans completed
  | submit | settle | poll | crashed => trivial

theorem tenant_of_pending {task : Task} {op : Op} (named : task.job = some jobId)
    (pending : task.pending = some op) : task.tenant = some jobId := by
  apply Task.tenant_eq_some_iff.mpr
  exact ⟨by rw [Task.isLive, pending]; rfl, named⟩

/-- The terms under which one task at a time works on a job. -/
abbrev Kept (env : Environment) (service : Service) : Prop :=
  Reconstruction.tenancy.Kept env.settings service

/-- After a call the tasks of a completed job have only to finish. -/
theorem closes_of_resume (kept : Kept env service) (guarded : Guarded env.settings service)
    {index : Nat} {outcome : Outcome} {task next : Task} {store : Store}
    (permitted : keepsTerminal env.settings (.resume index outcome) service = true)
    (found : service.tasks[index]? = some task)
    (resumes : task.Resumes env.settings outcome service.store store next)
    (completed : store.isCompleted jobId = true) {other : Nat} {present : Task}
    (member : (service.tasks.set index next)[other]? = some present)
    (holds : present.tenant = some jobId) : present.Closes env.settings := by
  obtain ⟨op, reply, pending, called⟩ := resumes.exec
  have named := (Task.tenant_eq_some_iff.mp holds).2
  cases before : service.store.isCompleted jobId with
  | true =>
      have row : (service.store.jobs jobId).isSome := by
        obtain ⟨row, stored, -⟩ := isCompleted_iff.mp before
        rw [stored]
        rfl
      rcases Service.replaced_cases member with ⟨rfl, rfl⟩ | ⟨-, old⟩
      · rcases job_before_of_resumes resumes named with same | absent
        · have closes := guarded.closes jobId other task before found
            (tenant_of_pending same pending)
          exact closes_of_resumes resumes same closes
            (sound_of_permitted permitted found same pending (.inr before)) row
        · rw [absent] at row
          cases row
      · exact guarded.closes jobId other present before old holds
  | false =>
      rcases marks_of_written (written_of_exec called) before completed with
        marks | ⟨record, rfl, status⟩
      · -- the task that completes the job is the only one that works on it
        have same : task.job = some jobId := by
          rcases job_of_sets kept.scope found pending marks.2 with same | impossible
          · exact same
          · cases impossible
        have row : (service.store.jobs jobId).isSome := by
          cases stored : service.store.jobs jobId with
          | some row => rfl
          | none => exact absurd same (kept.scope.job_ne stored found)
        rcases Service.replaced_cases member with ⟨rfl, rfl⟩ | ⟨different, old⟩
        · exact closes_of_marks resumes same (guarded.commits task (List.mem_of_getElem? found))
            pending marks (sound_of_permitted permitted found same pending (.inl marks.1)) row
        · exact absurd (kept.leased.alone old found holds (tenant_of_pending same pending))
            different
      · cases (pending_of_insertJob kept.scope found pending).symm.trans status

/-- Every permitted step keeps the tasks guarded. -/
theorem Guarded.step (guarded : Guarded env.settings service) (kept : Kept env service)
    (permitted : keepsTerminal env.settings action service = true)
    (moved : Step env service action after) : Guarded env.settings after where
  commits := by
    intro task member
    cases moved with
    | submit context request =>
        rcases List.mem_append.mp member with old | new
        · exact guarded.commits task old
        · rw [List.mem_singleton.mp new]
          exact commits_submitResearchJob env context request
    | poll context jobId =>
        rcases List.mem_append.mp member with old | new
        · exact guarded.commits task old
        · rw [List.mem_singleton.mp new]
          trivial
    | deliver id message body found visible below named =>
        rcases List.mem_append.mp member with old | new
        · exact guarded.commits task old
        · rw [List.mem_singleton.mp new]
          exact commits_working (commits_executeResearchPipeline env body)
    | resume index outcome before next store found resumes =>
        rcases List.mem_or_eq_of_mem_set member with old | rfl
        · exact guarded.commits task old
        · exact commits_of_resumes resumes (guarded.commits before (List.mem_of_getElem? found))
    | crash index before found live =>
        rcases List.mem_or_eq_of_mem_set member with old | rfl
        · exact guarded.commits task old
        · trivial
    | reject | expireSnapshot | expireCached | timeout | redrive =>
        exact guarded.commits task member
  closes := by
    intro jobId index task completed member holds
    cases moved with
    | submit context request =>
        rcases Service.spawned_cases member with old | ⟨-, rfl⟩
        · exact guarded.closes jobId index task completed old holds
        · cases (Task.tenant_eq_some_iff.mp holds).2
    | poll context id =>
        rcases Service.spawned_cases member with old | ⟨-, rfl⟩
        · exact guarded.closes jobId index task completed old holds
        · cases (Task.tenant_eq_some_iff.mp holds).2
    | deliver id message body found visible below named =>
        rcases Service.spawned_cases member with old | ⟨-, rfl⟩
        · exact guarded.closes jobId index task completed old holds
        · have about : service.store.queue.jobAt id = some jobId := by
            rw [Queue.jobAt_of_found found, named, MessageBody.jobId?]
            exact (Tenancy.working_live env.settings (message.delivery id body)
              (executeResearchPipeline env body)).1.symm.trans holds
          have completed : service.store.isCompleted jobId = true := completed
          simp only [keepsTerminal, about, Option.all_some, completed, Bool.not_true,
            Bool.and_false, Bool.false_eq_true] at permitted
    | resume position outcome before next store found resumes =>
        exact closes_of_resume kept guarded permitted found resumes completed member holds
    | crash position before found live =>
        rcases Service.replaced_cases member with ⟨-, rfl⟩ | ⟨-, old⟩
        · cases (Task.tenant_eq_some_iff.mp holds).2
        · exact guarded.closes jobId index task completed old holds
    | reject | expireSnapshot | expireCached | timeout | redrive =>
        exact guarded.closes jobId index task completed member holds

/-- A pending call gives a completed job no other status. -/
theorem status_of_closes (kept : Kept env service) (guarded : Guarded env.settings service)
    (completed : service.store.isCompleted jobId = true) {index : Nat} {task : Task}
    (found : service.tasks[index]? = some task) {op : Op} (pending : task.pending = some op)
    {status : JobStatus} (sets : op.Sets jobId status) :
    status = .completed ∨ status = .pending := by
  rcases job_of_sets kept.scope found pending sets with named | created
  · have closes := guarded.closes jobId index task completed found
      (tenant_of_pending named pending)
    exact .inl (sets_of_closing (closing_of_closes named closes pending) sets)
  · exact .inr created

/-- A completed job stays completed. -/
theorem isCompleted_step (kept : Kept env service) (guarded : Guarded env.settings service)
    (moved : Step env service action after)
    (completed : service.store.isCompleted jobId = true) :
    after.store.isCompleted jobId = true := by
  cases moved with
  | resume index outcome task next store found resumes =>
      obtain ⟨op, reply, pending, called⟩ := resumes.exec
      obtain ⟨row, stored, status⟩ := isCompleted_iff.mp completed
      have written := written_of_exec called
      cases written with
      | inserted record absent =>
          have foreign : jobId ≠ record.jobId := by
            rintro rfl
            cases absent.symm.trans stored
          exact (isCompleted_congr (Function.update_of_ne foreign _ _)).trans completed
      | updated id changes old present =>
          by_cases own : id = jobId
          · subst own
            cases present.symm.trans stored
            apply isCompleted_iff.mpr
            refine ⟨changes.apply row, Function.update_self _ _ _, ?_⟩
            rw [JobChanges.apply_status]
            cases assigned : changes.status with
            | none => exact status
            | some given =>
                have named : task.job = some id := by
                  rcases ((kept.scope.tasks index task found).may pending).of_affects
                    (show Op.Affects service.store id (.updateJob id changes) from rfl) with
                    ⟨record, impossible, -⟩ | ⟨program, rfl, -⟩ | ⟨received, delivery, named, -⟩
                  · cases impossible
                  · rfl
                  · exact named ▸ Task.job_of_delivery delivery
                have closes := guarded.closes id index task completed found
                  (tenant_of_pending named pending)
                exact sets_of_closing (closing_of_closes named closes pending) ⟨rfl, assigned⟩
          · exact (isCompleted_congr (Function.update_of_ne (Ne.symm own) _ _)).trans completed
      | _ => exact completed
  | _ => exact completed

end

/-! ## Failed jobs -/

/-- The worker of the last allowed attempt handles its outcome, or has handled it. -/
def Over (settings : Settings) (jobId : JobId) (service : Service) : Prop :=
  ∃ (index : Nat) (received : ReceivedMessage) (outcome : Except Exn Unit)
    (program : Coroutine Unit),
    service.tasks[index]? = some (.settle received outcome program) ∧
    received.body.jobId = jobId ∧ settings.maxQueueAttempts ≤ received.receiveCount

/-- All attempts are used up, and whoever works on the job handles an outcome. -/
structure Spent (settings : Settings) (jobId : JobId) (service : Service) : Prop where
  received : ∃ id, service.store.queue.jobAt id = some jobId ∧
    settings.maxQueueAttempts ≤ service.store.queue.received id
  handled : ∀ (index : Nat) (task : Task), service.tasks[index]? = some task →
    task.tenant = some jobId → ∃ received outcome program, task = .settle received outcome program

section

variable {env : Environment} {service after : Service} {action : Action} {jobId : JobId}

/-- No attempt follows the last one. -/
theorem Spent.step (spent : Spent env.settings jobId service) (kept : Kept env service)
    (moved : Step env service action after) : Spent env.settings jobId after where
  received := by
    obtain ⟨id, about, exhausted⟩ := spent.received
    refine ⟨id, moved.grows.jobAt about, ?_⟩
    rw [moved.received id]
    exact Nat.le_trans exhausted (Nat.le_add_right _ _)
  handled := by
    obtain ⟨id, about, exhausted⟩ := spent.received
    intro index task member holds
    cases moved with
    | submit context request =>
        rcases Service.spawned_cases member with old | ⟨-, rfl⟩
        · exact spent.handled index task old holds
        · cases (Task.tenant_eq_some_iff.mp holds).2
    | poll context other =>
        rcases Service.spawned_cases member with old | ⟨-, rfl⟩
        · exact spent.handled index task old holds
        · cases (Task.tenant_eq_some_iff.mp holds).2
    | deliver other message body found visible below named =>
        rcases Service.spawned_cases member with old | ⟨-, rfl⟩
        · exact spent.handled index task old holds
        · have same : service.store.queue.jobAt other = some jobId := by
            rw [Queue.jobAt_of_found found, named, MessageBody.jobId?]
            exact (Tenancy.working_live env.settings (message.delivery other body)
              (executeResearchPipeline env body)).1.symm.trans holds
          have only := kept.single.only other id jobId same about
          subst only
          rw [Queue.received_eq found] at exhausted
          rw [kept.provisioned] at below
          omega
    | resume position outcome before next store found resumes =>
        rcases Service.replaced_cases member with ⟨rfl, rfl⟩ | ⟨-, old⟩
        · obtain ⟨op, reply, pending, called⟩ := resumes.exec
          have named : before.job = some jobId := by
            rcases job_before_of_resumes resumes (Task.tenant_eq_some_iff.mp holds).2 with
              same | absent
            · exact same
            · have row := kept.scope.sent id jobId about
              rw [absent] at row
              cases row
          obtain ⟨received, ended, program, rfl⟩ :=
            spent.handled index before found (tenant_of_pending named pending)
          cases resumes with
          | settle => exact ⟨_, _, _, rfl⟩
        · exact spent.handled index task old holds
    | crash position before found live =>
        rcases Service.replaced_cases member with ⟨-, rfl⟩ | ⟨-, old⟩
        · cases (Task.tenant_eq_some_iff.mp holds).2
        · exact spent.handled index task old holds
    | reject | expireSnapshot | expireCached | timeout | redrive =>
        exact spent.handled index task member holds

/-- Once the last attempt is over, all attempts are used up. -/
theorem spent_step (spent : Over env.settings jobId service → Spent env.settings jobId service)
    (kept : Kept env service) (numbered : service.Numbered)
    (permitted : keepsTerminal env.settings action service = true)
    (moved : Step env service action after) (exhausted : Over env.settings jobId after) :
    Spent env.settings jobId after := by
  by_cases before : Over env.settings jobId service
  · exact (spent before).step kept moved
  obtain ⟨index, received, outcome, program, member, named, last⟩ := exhausted
  have unmoved : service.tasks[index]? ≠ some (.settle received outcome program) :=
    fun old => before ⟨index, received, outcome, program, old, named, last⟩
  cases moved with
  | resume position ended task next store found resumes =>
      rcases Service.replaced_cases member with ⟨rfl, rfl⟩ | ⟨-, old⟩
      · -- the attempt has just ended
        generalize ending : Task.settle received outcome program = next at resumes member
        cases resumes with
        | submit | poll => cases ending
        | settle received' ended' op resume reply called =>
            cases ending
            exact absurd ⟨index, received, outcome, _, found, named, last⟩ before
        | execute delivered op resume reply called =>
            have same : delivered = received := by
              have delivery := congrArg Task.delivery ending
              rw [Task.delivery_working] at delivery
              exact (Option.some.inj delivery).symm
            subst same
            have holds : Task.tenant (.execute delivered (.call op resume)) = some jobId :=
              tenant_of_pending (congrArg some named) rfl
            have about := kept.scope.about found rfl
            rw [named] at about
            have written := written_of_exec called
            constructor
            · refine ⟨_, written.grows.jobAt about, ?_⟩
              change _ ≤ store.queue.received _
              rw [written.received]
              exact Nat.le_trans last (numbered.counted index _ delivered found rfl)
            · intro other present place tenant
              rcases Service.replaced_cases place with ⟨-, rfl⟩ | ⟨different, old⟩
              · exact ⟨delivered, outcome, program, ending.symm⟩
              · exact absurd (kept.leased.alone old found tenant holds) different
      · exact absurd old unmoved
  | submit context request =>
      rcases Service.spawned_cases member with old | ⟨-, new⟩
      · exact absurd old unmoved
      · cases new
  | poll context other =>
      rcases Service.spawned_cases member with old | ⟨-, new⟩
      · exact absurd old unmoved
      · cases new
  | deliver other message body found visible below named' =>
      rcases Service.spawned_cases member with old | ⟨-, new⟩
      · exact absurd old unmoved
      · -- an attempt that ends before its first call
        have delivery : message.delivery other body = received := by
          have same := congrArg Task.delivery new
          rw [Task.delivery_working] at same
          exact (Option.some.inj same).symm
        subst delivery
        have about : service.store.queue.jobAt other = some jobId := by
          rw [Queue.jobAt_of_found found, named', MessageBody.jobId?]
          exact congrArg some named
        have oneAtATime := (Bool.and_eq_true _ _).mp permitted |>.1
        have vacant := (Tenancy.vacant_of_allows
          (Reconstruction.allows_of_oneAtATime env _ _ oneAtATime) about).1
        constructor
        · refine ⟨other, (congrFun (Queue.moves_markReceived _ other).jobAt other).trans about, ?_⟩
          have counted := Queue.received_markReceived found other
          rw [if_pos rfl, Queue.received_eq found] at counted
          exact last.trans (Nat.le_of_eq counted.symm)
        · intro place present at' tenant
          rcases Service.spawned_cases at' with old | ⟨-, rfl⟩
          · exact absurd tenant (vacant present (List.mem_of_getElem? old))
          · exact ⟨_, _, _, new.symm⟩
  | crash position task found live =>
      rcases Service.replaced_cases member with ⟨-, new⟩ | ⟨-, old⟩
      · cases new
      · exact absurd old unmoved
  | reject | expireSnapshot | expireCached | timeout | redrive => exact absurd member unmoved

end

/-! ## Runs -/

/-- What holds in every state of a run under the condition. -/
structure Held (env : Environment) (service : Service) : Prop where
  kept : Kept env service
  numbered : service.Numbered
  guarded : Guarded env.settings service
  spent : ∀ jobId, Over env.settings jobId service → Spent env.settings jobId service

theorem Held.step {env : Environment} {service after : Service} {action : Action}
    (held : Held env service) (permitted : keepsTerminal env.settings action service = true)
    (moved : Step env service action after) : Held env after where
  kept := by
    have oneAtATime := ((Bool.and_eq_true _ _).mp permitted).1
    exact (Reconstruction.upheld env).step held.kept
      (Reconstruction.allows_of_oneAtATime env _ _ oneAtATime) moved
  numbered := moved.numbered held.numbered
  guarded := held.guarded.step held.kept permitted moved
  spent jobId := spent_step (held.spent jobId) held.kept held.numbered permitted moved

theorem Held.initial (env : Environment) (dlqArn : String)
    (aiCache : String → Option CachedPayload) :
    Held env (Service.initial env.settings dlqArn aiCache) where
  kept := (Reconstruction.upheld env).initial dlqArn aiCache
  numbered := {
    counted := fun _ _ _ found => absurd found nofun
    distinct := fun _ _ _ _ _ _ found => absurd found nofun
  }
  guarded := {
    commits := fun _ member => absurd member nofun
    closes := fun _ _ _ _ found => absurd found nofun
  }
  spent _ := by
    rintro ⟨_, _, _, _, found, -⟩
    cases found

theorem Held.run {env : Environment} {actions : List Action} {service after : Service}
    (held : Held env service)
    (ran : runWithin (Service.step env) (keepsTerminal env.settings) actions service =
      some after) : Held env after :=
  runWithin_induction _ (fun _ _ _ permitted moved held =>
    held.step permitted (Service.step_cases moved)) held ran

/-- While no message of a completed job is delivered, deliveries do not overlap, and
the last attempt finishes what it has completed, no step gives a completed job the
status `processing` or `failed`, and none gives a job that has failed finally the
status `processing`. -/
theorem terminal_states_absorbing {env : Environment} {dlqArn : String}
    {aiCache : String → Option CachedPayload} {earlier later : List Action}
    {reached service : Service}
    (ran : runWithin (Service.step env) (keepsTerminal env.settings) earlier
      (Service.initial env.settings dlqArn aiCache) = some reached)
    (went : runWithin (Service.step env) (keepsTerminal env.settings) later reached =
      some service) {action : Action} {op : Op} (ends : action.ends service = some op)
    (jobId : JobId) :
    (reached.store.isCompleted jobId = true →
      ¬ op.Sets jobId .processing ∧ ¬ op.Sets jobId .failed) ∧
    (reached.FailedFinally env.settings jobId → ¬ op.Sets jobId .processing) := by
  have start := (Held.initial env dlqArn aiCache).run ran
  have held := start.run went
  obtain ⟨index, task, found, pending⟩ : ∃ (index : Nat) (task : Task),
      service.tasks[index]? = some task ∧ task.pending = some op := by
    cases action with
    | resume index outcome =>
        obtain ⟨task, found, pending⟩ := Option.bind_eq_some_iff.mp ends
        exact ⟨index, task, found, pending⟩
    | _ => cases ends
  constructor
  · intro completed
    have still : Held env service ∧ service.store.isCompleted jobId = true :=
      runWithin_induction (fun now => Held env now ∧ now.store.isCompleted jobId = true)
        (fun _ _ _ permitted moved now => ⟨now.1.step permitted (Service.step_cases moved),
          isCompleted_step now.1.kept now.1.guarded (Service.step_cases moved) now.2⟩)
        ⟨start, completed⟩ went
    constructor
    · intro sets
      rcases status_of_closes held.kept held.guarded still.2 found pending sets with
        impossible | impossible <;> cases impossible
    · intro sets
      rcases status_of_closes held.kept held.guarded still.2 found pending sets with
        impossible | impossible <;> cases impossible
  · rintro ⟨-, received, outcome, program, member, named, last⟩ sets
    obtain ⟨place, present⟩ := List.mem_iff_getElem?.mp member
    have exhausted : Over env.settings jobId reached :=
      ⟨place, received, outcome, program, present, named, last⟩
    have still : Held env service ∧ Spent env.settings jobId service :=
      runWithin_induction (fun now => Held env now ∧ Spent env.settings jobId now)
        (fun _ _ _ permitted moved now => ⟨now.1.step permitted (Service.step_cases moved),
          now.2.step now.1.kept (Service.step_cases moved)⟩)
        ⟨start, start.spent jobId exhausted⟩ went
    rcases job_of_sets held.kept.scope found pending sets with own | impossible
    · obtain ⟨received, outcome, program, rfl⟩ :=
        still.2.handled index task found (tenant_of_pending own pending)
      cases own
      have quiet : program.Uses (Op.LeavesOpen received.body.jobId) :=
        held.guarded.commits _ (List.mem_of_getElem? found)
      exact (quiet.pending pending).2 sets
    · cases impossible

/-! ## Runs of one job -/

/-- A run, its continuation and the step after it, as checked. -/
theorem step_of_any (permits : Action → Service → Bool) (earlier later : List Action)
    (action : Action) (begins : Service → Bool) (check : Service → Op → Bool)
    (checked : (runWithin (Service.step Sample.environment) permits earlier Sample.cold).any
      fun reached => begins reached &&
        (runWithin (Service.step Sample.environment) permits later reached).any fun service =>
          (action.ends service).any (check service)) :
    ∃ reached service op,
      runWithin (Service.step Sample.environment) permits earlier Sample.cold = some reached ∧
      runWithin (Service.step Sample.environment) permits later reached = some service ∧
      action.ends service = some op ∧ begins reached = true ∧ check service op = true := by
  obtain ⟨reached, ran, checked⟩ := (Option.any_eq_true _ _).mp checked
  obtain ⟨begun, checked⟩ := (Bool.and_eq_true _ _).mp checked
  obtain ⟨service, went, checked⟩ := (Option.any_eq_true _ _).mp checked
  obtain ⟨op, ends, checked⟩ := (Option.any_eq_true _ _).mp checked
  exact ⟨reached, service, op, ran, went, ends, begun, checked⟩

/-- `FailedFinally`, decided for the sample job. -/
def failedFinally (service : Service) : Bool :=
  (service.store.jobs "job-1").any (fun row => row.status = .failed) &&
    service.tasks.any fun
      | .settle received _ _ =>
          received.body.jobId = "job-1" &&
            Sample.environment.settings.maxQueueAttempts ≤ received.receiveCount
      | _ => false

theorem failedFinally_of_check {service : Service} (checked : failedFinally service = true) :
    service.FailedFinally Sample.environment.settings "job-1" := by
  obtain ⟨failed, exhausted⟩ := (Bool.and_eq_true _ _).mp checked
  obtain ⟨row, stored, status⟩ := (Option.any_eq_true _ _).mp failed
  obtain ⟨task, member, exhausted⟩ := List.any_eq_true.mp exhausted
  refine ⟨⟨row, stored, of_decide_eq_true status⟩, ?_⟩
  split at exhausted
  · obtain ⟨named, last⟩ := (Bool.and_eq_true _ _).mp exhausted
    exact ⟨_, _, _, member, of_decide_eq_true named, of_decide_eq_true last⟩
  · cases exhausted

/-- The calls of a worker up to the completion of the row. -/
def completing : List Outcome :=
  Sample.fetched ++ [.done (.time Sample.noon), .ok, .failed (.llmUnavailable "down")] ++
    Sample.completed.take 7

/-- Two attempts whose workers die at once. -/
def abandonedTwice : List Action :=
  Sample.submission ++
    [.deliver 0, .crash 1, .timeout 0, .deliver 0, .crash 2, .timeout 0, .deliver 0]

/-- The snapshot of a completed job is set, and the message of a failed one is
released. -/
theorem terminal_states_absorbing_finished :
    (∃ reached service op,
      runWithin (Service.step Sample.environment) (keepsTerminal Sample.environment.settings)
        (Sample.submission ++ .deliver 0 :: Sample.calls 1 completing) Sample.cold =
        some reached ∧
      runWithin (Service.step Sample.environment) (keepsTerminal Sample.environment.settings)
        (Sample.calls 1 [.ok, .done (.time Sample.noon)]) reached = some service ∧
      (Action.resume 1 .ok).ends service = some op ∧ op.Sets "job-1" .completed ∧
      ¬ op.Sets "job-1" .processing ∧ ¬ op.Sets "job-1" .failed) ∧
    ∃ reached service op,
      runWithin (Service.step Sample.environment) (keepsTerminal Sample.environment.settings)
        (abandonedTwice ++ Sample.calls 3 (Sample.fetched.take 6 ++ [.failed Sample.fault, .ok,
          .done (.flag true), .ok])) Sample.cold = some reached ∧
      runWithin (Service.step Sample.environment) (keepsTerminal Sample.environment.settings)
        (Sample.calls 3 [.ok, .ok, .done (.time Sample.noon)]) reached = some service ∧
      (Action.resume 3 .ok).ends service = some op ∧ op.Sets "job-1" .failed ∧
      ¬ op.Sets "job-1" .processing := by
  constructor
  · obtain ⟨reached, service, op, ran, went, ends, completed, sets⟩ :=
      step_of_any (keepsTerminal Sample.environment.settings)
        (Sample.submission ++ .deliver 0 :: Sample.calls 1 completing)
        (Sample.calls 1 [.ok, .done (.time Sample.noon)]) (.resume 1 .ok)
        (fun reached => reached.store.isCompleted "job-1")
        (fun _ op => op.Sets "job-1" .completed) (by decide +kernel)
    exact ⟨reached, service, op, ran, went, ends, of_decide_eq_true sets,
      (terminal_states_absorbing ran went ends "job-1").1 completed⟩
  · obtain ⟨reached, service, op, ran, went, ends, failed, sets⟩ :=
      step_of_any (keepsTerminal Sample.environment.settings)
        (abandonedTwice ++ Sample.calls 3 (Sample.fetched.take 6 ++ [.failed Sample.fault, .ok,
          .done (.flag true), .ok]))
        (Sample.calls 3 [.ok, .ok, .done (.time Sample.noon)]) (.resume 3 .ok)
        failedFinally (fun _ op => op.Sets "job-1" .failed) (by decide +kernel)
    exact ⟨reached, service, op, ran, went, ends, of_decide_eq_true sets,
      (terminal_states_absorbing ran went ends "job-1").2 (failedFinally_of_check failed)⟩

/-- A step that may follow in a run gives a completed job another status. -/
def Regresses (earlier later : List Action) (action : Action) (status : JobStatus) : Prop :=
  ∃ reached service op,
    run (Service.step Sample.environment) earlier Sample.cold = some reached ∧
    run (Service.step Sample.environment) later reached = some service ∧
    action.ends service = some op ∧ reached.store.isCompleted "job-1" = true ∧
    (Service.step Sample.environment action service).isSome = true ∧ op.Sets "job-1" status

theorem regresses_of_any {earlier later : List Action} {action : Action} {status : JobStatus}
    (checked : (run (Service.step Sample.environment) earlier Sample.cold).any
      fun reached => reached.store.isCompleted "job-1" &&
        (run (Service.step Sample.environment) later reached).any fun service =>
          (action.ends service).any fun op =>
            (Service.step Sample.environment action service).isSome &&
              decide (op.Sets "job-1" status)) :
    Regresses earlier later action status := by
  obtain ⟨reached, service, op, ran, went, ends, completed, follows⟩ :=
    step_of_any (fun _ _ => true) earlier later action
      (fun reached => reached.store.isCompleted "job-1")
      (fun service op => (Service.step Sample.environment action service).isSome &&
        decide (op.Sets "job-1" status)) checked
  obtain ⟨possible, sets⟩ := (Bool.and_eq_true _ _).mp follows
  exact ⟨reached, service, op, ran, went, ends, completed, possible, of_decide_eq_true sets⟩

/-- The deletion of the message fails, and its visibility ends. -/
def redelivered : List Action :=
  Sample.submission ++ .deliver 0 ::
    Sample.calls 1 (Sample.unanalyzed (.llmUnavailable "down") ++ [.failed Sample.fault])

/-- The visibility of the message ends while the first worker is at work. -/
def outrun : List Action :=
  Sample.submission ++ [.deliver 0, .timeout 0, .deliver 0] ++
    Sample.calls 1 (Sample.unanalyzed (.llmUnavailable "down"))

/-- A completed job is set to `processing` by another execution, after a first one
that could not delete the message or beside it, and to `failed` by the worker of
the last attempt if the snapshot cannot be set. -/
theorem terminal_states_left :
    Regresses redelivered
      ([.timeout 0, .deliver 0] ++ Sample.calls 2 [.ok, .done (.time Sample.noon)])
      (.resume 2 .ok) .processing ∧
    Regresses outrun (Sample.calls 2 [.ok, .done (.time Sample.noon)]) (.resume 2 .ok)
      .processing ∧
    Regresses (abandonedTwice ++ Sample.calls 3 completing)
      (Sample.calls 3 [.ok, .done (.time Sample.noon), .failed Sample.fault, .ok,
        .done (.flag true)]) (.resume 3 .ok) .failed :=
  ⟨regresses_of_any (by decide +kernel), regresses_of_any (by decide +kernel),
    regresses_of_any (by decide +kernel)⟩

end Absorption

end ResearchTool
