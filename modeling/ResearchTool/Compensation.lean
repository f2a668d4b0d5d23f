import ResearchTool.Custody
import ResearchTool.Service

/-!
# Submissions that raise

`submit` creates the job row before it announces the job.  Of the calls that
follow, a `send` that raises marks the row failed; a `set_state` or a cache
read that raises is passed on and leaves the row pending with no message on
the queue.  Every other end of a submission leaves the job finished or queued.
-/

namespace ResearchTool

open Process

/-- The database works; every other party may fail. -/
def databaseWorks (op : Op) (outcome : Outcome) : Bool :=
  op.party != .database || !outcome.faulty

/-- `after` has one row more than `before`. -/
structure Store.Created (before after : Store) (jobId : JobId) (row : ResearchJobRecord) :
    Prop where
  fresh : before.jobs jobId = none
  jobs : after.jobs = Function.update before.jobs jobId (some row)

/-- The job is over: failed, or completed with its report stored. -/
def Store.Finished (store : Store) (jobId : JobId) (row : ResearchJobRecord) : Prop :=
  row.status = .failed ∨ (row.status = .completed ∧ (store.reports jobId).isSome)

/-- What a submission may leave behind. -/
def NoOrphan (before after : Store) : Except Exn JobAcceptedResponse → Prop
  | .error _ =>
      after.jobs = before.jobs ∨
        ∃ jobId row, before.Created after jobId row ∧ after.Finished jobId row
  | .ok response =>
      ∃ row, before.Created after response.jobId row ∧
        ((∃ message : ResearchJobMessage, message.jobId = response.jobId ∧
            after.queue = before.queue.enqueue (.job message)) ∨
          (row.status = .completed ∧ (after.reports response.jobId).isSome))

/-- The calls whose exceptions `submit` neither foresees nor compensates: the
write of the pending snapshot and the look at the AI cache. -/
def Op.IsUncompensated : Op → Bool
  | .setState snapshot => snapshot.status == .pending
  | .getCachedAiResult _ => true
  | _ => false

/-- An uncompensated call raised. -/
def orphans (event : Event Ops Exn) : Bool :=
  event.op.IsUncompensated && event.raised

/-- The row of a submission that raised is still pending. -/
theorem not_noOrphan {before after : Store} {result : Except Exn JobAcceptedResponse}
    {jobId : JobId} (raised : result.isOk = false) (fresh : before.jobs jobId = none)
    (pending : (after.jobs jobId).map ResearchJobRecord.status = some .pending) :
    ¬ NoOrphan before after result := by
  cases result with
  | ok response => cases raised
  | error error =>
      rintro (unchanged | ⟨other, row, created, finished⟩)
      · rw [unchanged, fresh] at pending
        cases pending
      · by_cases same : jobId = other
        · subst same
          rw [created.jobs, Function.update_self, Option.map_some, Option.some.injEq] at pending
          rw [Store.Finished, pending] at finished
          simp at finished
        · rw [created.jobs, Function.update_of_ne same, fresh] at pending
          cases pending

namespace Compensation

/-- The terms of a submission on its own. -/
abbrev terms : Custody :=
  .alone databaseWorks

theorem answered {op : Op} {outcome : Outcome} (stored : op.party = .database)
    (permitted : databaseWorks op outcome = true) : outcome.faulty = false := by
  simpa [databaseWorks, stored] using permitted

theorem database : terms.Sound .database :=
  fun _ _ stored permitted => answered stored permitted

/-- The calls of a branch that are not among the uncompensated ones. -/
def Compensated (op : Op) : Prop :=
  op.IsUncompensated = false

variable {start : Store} {session : Session} {jobId : JobId}

/-- A job that was created and is over. -/
def Ended (start : Store) (jobId : JobId) (status : JobStatus) (now : Store) : Prop :=
  ∃ row, now.jobs = Function.update start.jobs jobId (some row) ∧ row.status = status ∧
    (status = .completed → (now.reports jobId).isSome)

theorem ended_putJob {status : JobStatus} {now : Store} {record : ResearchJobRecord}
    (kept : now.jobs = start.jobs) (written : record.status = status)
    (reported : status = .completed → (now.reports jobId).isSome) :
    Ended start jobId status (now.putJob jobId record) :=
  ⟨record, by rw [Store.putJob, kept], written, reported⟩

/-- Writing a snapshot changes nothing else. -/
theorem ended_setState {status : JobStatus} {snapshot : ResearchJobStateSnapshot}
    {outcome : Outcome} {reply : Except Exn Unit} {now after : Store}
    (ended : Ended start jobId status now)
    (called : exec (.setState snapshot) outcome now = some (reply, after)) :
    Ended start jobId status after := by
  cases written_of_exec called with
  | unchanged => exact ended
  | snapshot => exact ended

/-- The last write of a branch: the snapshot, whether or not it succeeds. -/
theorem safe_announce {status : JobStatus} {snapshot : ResearchJobStateSnapshot}
    {next : Coroutine JobAcceptedResponse} {now : Store}
    {post : Except Exn JobAcceptedResponse → Store → Prop}
    (ended : Ended start jobId status now)
    (raised : ∀ error after, Ended start jobId status after → post (.error error) after)
    (rest : ∀ after, Ended start jobId status after → next.Safe terms.protocol post after) :
    ((await (.setState snapshot)).bind fun _ => next).Safe terms.protocol post now := by
  apply Custody.safe_await
  · rintro value before after outcome rfl - called
    exact rest after (ended_setState ended called)
  · rintro error before after outcome rfl - called
    apply Custody.safe_raise
    rintro later rfl
    exact raised error _ (ended_setState ended called)

/-- A hit in the AI cache completes the job. -/
theorem safe_completeFromCache (rawContext : RepositoryRawContext)
    (snapshot : ResearchJobStateSnapshot) (cachedAi : StructuredAIResponse)
    {row : ResearchJobRecord} (stored : start.jobs jobId = some row)
    (loaded : session.jobs jobId = some row) (unloaded : session.reports jobId = none) :
    (completeFromCache session jobId rawContext snapshot cachedAi).Safe terms.protocol
      (fun result now => Ended start jobId .completed now ∧
        ∀ response, result = .ok response → response.jobId = jobId) start := by
  apply Custody.safe_now
  rintro createdAt now rfl
  apply Custody.safe_saveFinalReport database (Custody.holds_alone _ _) unloaded
  rintro saved record before now rfl rfl - same
  have kept : (before.putReport jobId record).jobs jobId = some row := stored
  apply Custody.safe_updateJobStatus database (Custody.holds_alone _ _) kept (.inr (same ▸ loaded))
  rintro updated before now rfl rfl - -
  apply Custody.safe_now
  rintro time now rfl
  have reported : ((before.putReport jobId record).reports jobId).isSome := by simp
  apply safe_announce (ended_putJob rfl rfl fun _ => reported)
  · intro error after ended
    exact ⟨ended, nofun⟩
  · intro after ended
    apply Custody.safe_pure
    rintro now rfl
    refine ⟨ended, ?_⟩
    rintro response same
    cases same
    rfl

/-- A send that raised marks the job failed. -/
theorem safe_enqueueFailed (snapshot : ResearchJobStateSnapshot) (error : Exn)
    {row : ResearchJobRecord} (stored : start.jobs jobId = some row)
    (loaded : session.jobs jobId = some row) :
    (enqueueFailed session jobId snapshot error).Safe terms.protocol
      (fun result now => Ended start jobId .failed now ∧ ∃ raised, result = .error raised)
        start := by
  apply Custody.safe_updateJobStatus database (Custody.holds_alone _ _) stored (.inr loaded)
  rintro updated before now rfl rfl - -
  apply Custody.safe_now
  rintro time now rfl
  have unreported : ¬ JobStatus.failed = .completed := nofun
  apply safe_announce (ended_putJob rfl rfl fun completed => absurd completed unreported)
  · intro raised after ended
    exact ⟨ended, raised, rfl⟩
  · intro after ended
    apply Custody.safe_raise
    rintro now rfl
    exact ⟨ended, error, rfl⟩

theorem compensated_completeFromCache (rawContext : RepositoryRawContext)
    (snapshot : ResearchJobStateSnapshot) (cachedAi : StructuredAIResponse) :
    (completeFromCache session jobId rawContext snapshot cachedAi).Uses Compensated := by
  apply Program.Uses.perform_bind
  · rfl
  intro createdAt
  apply Program.Uses.bind
  · exact uses_saveFinalReport _ _ _ rfl rfl (fun _ => rfl) (fun _ => rfl) rfl
  intro saved
  apply Program.Uses.bind
  · exact uses_updateJobStatus _ _ _ rfl (fun _ => rfl) rfl
  intro updated
  apply Program.Uses.perform_bind
  · rfl
  intro now
  apply Program.Uses.perform_bind
  · rfl
  intro _
  exact Program.uses_pure _

theorem compensated_enqueueFailed (snapshot : ResearchJobStateSnapshot) (error : Exn) :
    (enqueueFailed session jobId snapshot error).Uses Compensated := by
  apply Program.Uses.bind
  · exact uses_updateJobStatus _ _ _ rfl (fun _ => rfl) rfl
  intro updated
  apply Program.Uses.perform_bind
  · rfl
  intro now
  apply Program.Uses.perform_bind
  · rfl
  intro _
  exact Program.uses_raise _

/-- A branch of compensated calls has no orphaning one. -/
theorem not_orphans {trace : List (Event Ops Exn)}
    (compensated : ∀ event ∈ trace, Compensated event.op) : trace.any orphans = false := by
  rw [List.any_eq_false]
  intro event member
  simp [orphans, show event.op.IsUncompensated = false from compensated event member]

/-! ## From the row to the end -/

/-- The submission ends without an orphan exactly when no uncompensated call
raised. -/
def Tells (origin : Store) (trace : List (Event Ops Exn))
    (result : Except Exn JobAcceptedResponse) (final : Store) : Prop :=
  NoOrphan origin final result ↔ trace.any orphans = false

theorem tells_cons {origin final : Store} {event : Event Ops Exn} {rest : List (Event Ops Exn)}
    {result : Except Exn JobAcceptedResponse} (harmless : orphans event = false) :
    Tells origin (event :: rest) result final ↔ Tells origin rest result final := by
  rw [Tells, Tells, List.any_cons, harmless, Bool.false_or]

/-- One call of a submission, and then the rest. -/
theorem always_await {origin now : Store} {op : Op}
    {next : op.Reply → Coroutine JobAcceptedResponse}
    (returned : ∀ value middle outcome, databaseWorks op outcome →
      exec op outcome now = some (.ok value, middle) →
        (next value).Always (callsWithin databaseWorks) middle (Tells origin))
    (raised : ∀ error middle outcome, databaseWorks op outcome →
      exec op outcome now = some (.error error, middle) →
        (NoOrphan origin middle (.error error) ↔ op.IsUncompensated = false)) :
    ((await op).bind next).Always (callsWithin databaseWorks) now (Tells origin) := by
  apply Program.always_perform_bind
  · rintro value middle ⟨outcome, permitted, called⟩
    apply (returned value middle outcome permitted called).mono
    intro rest result final tells
    exact (tells_cons (by simp [orphans, Event.raised])).mpr tells
  · rintro error middle ⟨outcome, permitted, called⟩
    rw [Tells, raised error middle outcome permitted called]
    simp [orphans, Event.raised]

/-- The clock is always read. -/
theorem always_now {origin now : Store} {next : DateTime → Coroutine JobAcceptedResponse}
    (rest : ∀ time, (next time).Always (callsWithin databaseWorks) now (Tells origin)) :
    ((await .now).bind next).Always (callsWithin databaseWorks) now (Tells origin) := by
  apply always_await
  · intro time middle outcome _ called
    obtain ⟨read, -, rfl⟩ := exec_now called
    exact rest time
  · intro error middle outcome _ called
    obtain ⟨read, impossible, -⟩ := exec_now called
    cases impossible

/-- The row of a job has just been created. -/
structure Registered (origin now : Store) (session : Session) (jobId : JobId)
    (row : ResearchJobRecord) : Prop where
  created : origin.Created now jobId row
  pending : row.status = .pending
  loaded : session.jobs jobId = some row
  unloaded : session.reports jobId = none

namespace Registered

variable {origin now : Store} {row : ResearchJobRecord}

theorem stored (registered : Registered origin now session jobId row) :
    now.jobs jobId = some row := by
  rw [registered.created.jobs, Function.update_self]

/-- The job that was created is the one that is over. -/
theorem created_ended (registered : Registered origin now session jobId row) {status : JobStatus}
    {after : Store} (ended : Ended now jobId status after) :
    ∃ last, origin.Created after jobId last ∧ last.status = status ∧
      (status = .completed → (after.reports jobId).isSome) := by
  obtain ⟨last, jobs, same, reported⟩ := ended
  refine ⟨last, ⟨registered.created.fresh, ?_⟩, same, reported⟩
  rw [jobs, registered.created.jobs, Function.update_idem]

theorem always_completeFromCache (registered : Registered origin now session jobId row)
    (rawContext : RepositoryRawContext) (snapshot : ResearchJobStateSnapshot)
    (cachedAi : StructuredAIResponse) :
    (completeFromCache session jobId rawContext snapshot cachedAi).Always
      (callsWithin databaseWorks) now (Tells origin) := by
  have safe := safe_completeFromCache rawContext snapshot cachedAi registered.stored
    registered.loaded registered.unloaded
  apply ((safe.always trivial).uses (compensated_completeFromCache _ _ _)).mono
  rintro trace result final ⟨⟨ended, named⟩, compensated⟩
  obtain ⟨last, created, completed, reported⟩ := registered.created_ended ended
  apply iff_of_true _ (not_orphans compensated)
  cases result with
  | ok response =>
      rw [NoOrphan, named response rfl]
      exact ⟨last, created, .inr ⟨completed, reported rfl⟩⟩
  | error error => exact .inr ⟨jobId, last, created, .inr ⟨completed, reported rfl⟩⟩

theorem always_enqueueFailed (registered : Registered origin now session jobId row)
    (snapshot : ResearchJobStateSnapshot) (error : Exn) :
    (enqueueFailed session jobId snapshot error).Always
      (callsWithin databaseWorks) now (Tells origin) := by
  have safe := safe_enqueueFailed snapshot error registered.stored registered.loaded
  apply ((safe.always trivial).uses (compensated_enqueueFailed _ _)).mono
  rintro trace result final ⟨⟨ended, raised, rfl⟩, compensated⟩
  obtain ⟨last, created, failed, -⟩ := registered.created_ended ended
  apply iff_of_true _ (not_orphans compensated)
  exact .inr ⟨jobId, last, created, .inl failed⟩

/-- A call that leaves the rows alone. -/
theorem keep (registered : Registered origin now session jobId row) {after : Store}
    (jobs : after.jobs = now.jobs) : Registered origin after session jobId row :=
  { registered with created := ⟨registered.created.fresh, jobs.trans registered.created.jobs⟩ }

/-- Without a hit in the AI cache, the message is sent or the job fails. -/
theorem always_enqueueJob (registered : Registered origin now session jobId row)
    (queue : now.queue = origin.queue) (target : ParsedRepoTarget) (request : ResearchRequest)
    (snapshot : ResearchJobStateSnapshot) :
    (enqueueJob session target request jobId snapshot).Always
      (callsWithin databaseWorks) now (Tells origin) := by
  apply always_now
  intro enqueuedAt
  rw [Program.bind_eq, Program.attempt_perform_bind, Program.always_call]
  rintro reply sent ⟨outcome, -, called⟩
  suffices ending : Program.Always (callsWithin databaseWorks) _ sent (Tells origin) from
    ending.mono fun rest result final tells =>
      (tells_cons (by simp [orphans, Op.IsUncompensated])).mpr tells
  have jobs : sent.jobs = now.jobs := by
    cases written_of_exec called <;> rfl
  have registered := registered.keep jobs
  cases reply with
  | ok value =>
      obtain ⟨supply, -, answered⟩ := answer_of_exec_ok called
      have enqueued := congrArg Store.queue (answer_send answered)
      rw [Store.putQueue_queue, queue] at enqueued
      apply Program.always_pure.mpr
      apply iff_of_true _ rfl
      exact ⟨row, registered.created, .inl ⟨_, rfl, enqueued⟩⟩
  | error error => exact registered.always_enqueueFailed _ _

/-- After the row is created, only the two uncompensated calls can orphan it. -/
theorem always_announceJob (registered : Registered origin now session jobId row)
    (queue : now.queue = origin.queue) (target : ParsedRepoTarget) (request : ResearchRequest)
    (rawContext : RepositoryRawContext) :
    (announceJob session target request rawContext jobId).Always
      (callsWithin databaseWorks) now (Tells origin) := by
  -- an uncompensated call that raises ends the submission where it is
  have orphaned : ∀ {after : Store} (error : Exn), after.jobs = now.jobs →
      ¬ NoOrphan origin after (.error error) := by
    intro after error jobs
    apply not_noOrphan rfl registered.created.fresh
    rw [jobs, registered.stored, Option.map_some, registered.pending]
  apply always_now
  intro time
  apply always_await
  · intro value announced outcome _ called
    have jobs : announced.jobs = now.jobs := by
      cases written_of_exec called <;> rfl
    have announcedQueue : announced.queue = now.queue := by
      cases written_of_exec called <;> rfl
    have registered := registered.keep jobs
    apply always_await
    · intro cached read outcome _ called
      cases written_of_exec called
      cases cached with
      | some cachedAi => exact registered.always_completeFromCache _ _ _
      | none => exact registered.always_enqueueJob (announcedQueue.trans queue) _ _ _
    · intro error read outcome _ called
      cases written_of_exec called
      exact iff_of_false (orphaned error jobs) nofun
  · intro error announced outcome _ called
    have jobs : announced.jobs = now.jobs := by
      cases written_of_exec called <;> rfl
    exact iff_of_false (orphaned error jobs) nofun

end Registered

/-- Before its row is committed a submission has nothing to orphan. -/
theorem tells_unregistered {start after : Store} {op : Op} {error : Exn}
    (compensated : op.IsUncompensated = false) (jobs : after.jobs = start.jobs) :
    NoOrphan start after (.error error) ↔ op.IsUncompensated = false :=
  iff_of_true (.inl jobs) compensated

theorem always_registerJob {start now : Store} (jobs : now.jobs = start.jobs)
    (queue : now.queue = start.queue) (target : ParsedRepoTarget) (request : ResearchRequest)
    (rawContext : RepositoryRawContext) :
    (registerJob target request rawContext).Always
      (callsWithin databaseWorks) now (Tells start) := by
  apply always_await
  · intro (jobId : JobId) middle outcome _ called
    cases written_of_exec called
    rw [Program.bind_eq, createJobRecord_bind]
    apply always_await
    · intro value inserted outcome _ called
      obtain ⟨absent, rfl⟩ := insertJob_ok called
      have fresh : start.jobs jobId = none := jobs ▸ absent
      have stored : (now.putJob jobId (pendingRecord target rawContext jobId)).jobs jobId =
          some (pendingRecord target rawContext jobId) := by simp
      apply always_await
      · intro refreshed read outcome _ called
        obtain ⟨present, rfl⟩ := refreshJob_ok called
        obtain rfl : pendingRecord target rawContext jobId = refreshed :=
          Option.some.inj (stored.symm.trans present)
        have registered :
            Registered start (now.putJob jobId (pendingRecord target rawContext jobId))
            (Session.empty.loadJob jobId (pendingRecord target rawContext jobId)) jobId
            (pendingRecord target rawContext jobId) := {
          created := ⟨fresh, by rw [← jobs]; rfl⟩
          pending := rfl
          loaded := by simp [Session.loadJob]
          unloaded := rfl
        }
        exact registered.always_announceJob queue target request rawContext
      · intro error read outcome permitted called
        obtain ⟨supply, replied⟩ := answer_of_exec (answered rfl permitted) called
        obtain ⟨impossible, -⟩ := answer_refreshJob stored replied
        cases impossible
    · intro error inserted outcome permitted called
      obtain ⟨supply, replied⟩ := answer_of_exec (answered rfl permitted) called
      rcases answer_insertJob replied with ⟨impossible, -⟩ | ⟨-, rfl⟩
      · cases impossible
      · exact tells_unregistered rfl jobs
  · intro error middle outcome _ called
    cases written_of_exec called
    exact tells_unregistered rfl jobs

theorem always_submit (env : Environment) (request : ResearchRequest) (start : Store) :
    (submit env request).Always (callsWithin databaseWorks) start (Tells start) := by
  unfold submit
  cases parseGithubRepositoryUrl env.urlLibrary request.url with
  | error error => exact Program.always_raise.mpr (iff_of_true (.inl rfl) rfl)
  | ok target =>
      apply always_await
      · intro rawContext fetched outcome _ called
        have jobs : fetched.jobs = start.jobs := by
          cases written_of_exec called <;> rfl
        have queue : fetched.queue = start.queue := by
          cases written_of_exec called <;> rfl
        exact always_registerJob jobs queue target request rawContext
      · intro error fetched outcome _ called
        have jobs : fetched.jobs = start.jobs := by
          cases written_of_exec called <;> rfl
        exact tells_unregistered rfl jobs

end Compensation

/-- With the database working, a submission leaves no orphan if and only if
neither the write of the pending snapshot nor the look at the AI cache
raises. -/
theorem submit_leaves_no_orphan_iff {env : Environment} {request : ResearchRequest}
    {start final : Store} {trace : List (Event Ops Exn)}
    {result : Except Exn JobAcceptedResponse}
    (runs : (submit env request).Runs (callsWithin databaseWorks) start trace result final) :
    NoOrphan start final result ↔ trace.any orphans = false :=
  runs.meets (Compensation.always_submit env request start)

/-- A send that fails is compensated: the row ends as failed. -/
theorem submit_leaves_no_orphan_send_failed :
    ∃ trace result final,
      (submit Sample.environment Sample.request).Runs (callsWithin databaseWorks)
        Sample.cold.store trace result final ∧
      (final.jobs "job-1").map ResearchJobRecord.status = some .failed ∧
      NoOrphan Sample.cold.store final result := by
  have checked : (playback databaseWorks Sample.unsent
      (submit Sample.environment Sample.request) Sample.cold.store).any fun played =>
        played.1.any orphans = false ∧
          (played.2.2.jobs "job-1").map ResearchJobRecord.status = some .failed := by
    decide +kernel
  obtain ⟨trace, result, final, runs, compensated, failed⟩ := runs_of_any checked
  exact ⟨trace, result, final, runs, failed, (submit_leaves_no_orphan_iff runs).mpr compensated⟩

/-- Redis fails at the pending snapshot: the submission raises, and its row
stays pending with no message on the queue. -/
theorem submit_orphans_job :
    ∃ trace result final,
      (submit Sample.environment Sample.request).Runs (callsWithin databaseWorks)
        Sample.cold.store trace result final ∧
      result.isOk = false ∧
      (final.jobs "job-1").map ResearchJobRecord.status = some .pending ∧
      final.queue.messages.length = 0 ∧
      ¬ NoOrphan Sample.cold.store final result := by
  have checked : (playback databaseWorks Sample.unannounced
      (submit Sample.environment Sample.request) Sample.cold.store).any fun played =>
        played.2.1.isOk = false ∧ played.2.2.queue.messages.length = 0 ∧
          (played.2.2.jobs "job-1").map ResearchJobRecord.status = some .pending := by
    decide +kernel
  obtain ⟨trace, result, final, runs, raised, unsent, pending⟩ := runs_of_any checked
  exact ⟨trace, result, final, runs, raised, pending, unsent, not_noOrphan raised rfl pending⟩

end ResearchTool
