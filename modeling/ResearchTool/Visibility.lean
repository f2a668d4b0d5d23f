import ResearchTool.Process.Logic
import ResearchTool.Service

/-!
# Reports come first

A job is shown as completed only after its report row is committed.  Four code
paths write `completed` or acknowledge a message, and any of them may run
beside the others, be repeated or stop at any call; the invariant holds
because each of them commits the report before, and nothing deletes a report.
-/

namespace ResearchTool

open Process

/-- Whatever shows a job as completed, its report row is there. -/
structure ReportsFirst (store : Store) : Prop where
  row : ∀ jobId row, store.jobs jobId = some row → row.status = .completed →
    (store.reports jobId).isSome
  snapshot : ∀ jobId snapshot, store.snapshots jobId = some snapshot →
    snapshot.status = .completed → (store.reports jobId).isSome
  deleted : ∀ id jobId, store.queue.jobAt id = some jobId →
    store.queue.messages[id]?.map QueueMessage.place = some .deleted →
    (store.reports jobId).isSome
  snapshotKey : ∀ jobId snapshot, store.snapshots jobId = some snapshot → snapshot.jobId = jobId
  reportKey : ∀ jobId report, store.reports jobId = some report → report.jobId = jobId

/-- The operation shows a job as completed only when its report row is there. -/
def Op.Honest (store : Store) : Op → Prop
  | .insertJob record => record.status ≠ .completed
  | .updateJob jobId changes =>
      changes.status = some .completed → (store.reports jobId).isSome
  | .setState snapshot => snapshot.status = .completed → (store.reports snapshot.jobId).isSome
  | .delete handle =>
      ∀ jobId, store.queue.jobAt handle.message = some jobId → (store.reports jobId).isSome
  | _ => True

namespace ReportsFirst

/-- Moves of messages that delete none keep the invariant. -/
theorem putQueue {store : Store} (first : ReportsFirst store) {queue : Queue} {id : Nat}
    (moves : store.queue.Moves id queue)
    (kept : queue.messages[id]?.map QueueMessage.place = some .deleted →
      store.queue.messages[id]?.map QueueMessage.place = some .deleted ∨
        ∀ jobId, store.queue.jobAt id = some jobId → (store.reports jobId).isSome) :
    ReportsFirst (store.putQueue queue) where
  row := first.row
  snapshot := first.snapshot
  snapshotKey := first.snapshotKey
  reportKey := first.reportKey
  deleted other jobId about gone := by
    rw [Store.putQueue_queue, moves.jobAt] at about
    rw [Store.putQueue_queue] at gone
    by_cases same : other = id
    · subst same
      rcases kept gone with already | reported
      · exact first.deleted other jobId about already
      · exact reported jobId about
    · rw [moves.others other same] at gone
      exact first.deleted other jobId about gone

/-- A change of message `id` that does not delete it. -/
theorem update {store : Store} (first : ReportsFirst store) (id : Nat)
    {change : QueueMessage → QueueMessage}
    (keepsBody : ∀ message, (change message).body = message.body)
    (undeleted : ∀ message, (change message).place = .deleted → message.place = .deleted) :
    ReportsFirst (store.putQueue (store.queue.update id change)) := by
  refine first.putQueue (Queue.moves_update _ id keepsBody) fun gone => .inl ?_
  rw [Queue.messages_update, if_pos rfl] at gone
  cases found : store.queue.messages[id]? with
  | none => simp [found] at gone
  | some message =>
      simp only [found, Option.map_some, Option.some.injEq] at gone
      simp [undeleted message gone]

theorem delete {store : Store} (first : ReportsFirst store) (handle : ReceiptHandle)
    (honoured : Bool)
    (reported : ∀ jobId, store.queue.jobAt handle.message = some jobId →
      (store.reports jobId).isSome) :
    ReportsFirst (store.putQueue (store.queue.delete handle honoured)) :=
  first.putQueue (Queue.moves_delete _ _ _) fun _ => .inr reported

theorem changeVisibility {store : Store} (first : ReportsFirst store) (handle : ReceiptHandle)
    (timeoutSeconds : Nat) (honoured : Bool) :
    ReportsFirst
      (store.putQueue (store.queue.changeVisibility handle timeoutSeconds honoured)) := by
  unfold Queue.changeVisibility
  split
  · refine first.update _ (fun message => ?_) fun message gone => ?_
    · split <;> rfl
    · split at gone
      · cases gone
      · exact gone
  · exact first

theorem timeout {store : Store} (first : ReportsFirst store) (id : Nat) :
    ReportsFirst (store.putQueue (store.queue.timeout id)) := by
  refine first.update id (fun message => ?_) fun message gone => ?_
  · split <;> rfl
  · split at gone
    · cases gone
    · exact gone

theorem redrive {store : Store} (first : ReportsFirst store) (id : Nat) :
    ReportsFirst (store.putQueue (store.queue.redrive id)) := by
  refine first.update id (fun message => ?_) fun message gone => ?_
  · split <;> rfl
  · split at gone
    · cases gone
    · exact gone

theorem markReceived {store : Store} (first : ReportsFirst store) (id : Nat) :
    ReportsFirst (store.putQueue (store.queue.markReceived id)) :=
  first.update id (fun _ => rfl) fun _ gone => by cases gone

theorem enqueue {store : Store} (first : ReportsFirst store) (body : MessageBody) :
    ReportsFirst (store.putQueue (store.queue.enqueue body)) where
  row := first.row
  snapshot := first.snapshot
  snapshotKey := first.snapshotKey
  reportKey := first.reportKey
  deleted id jobId about gone := by
    rw [Store.putQueue_queue, jobAt_enqueue] at about
    rw [Store.putQueue_queue, Queue.enqueue] at gone
    by_cases last : id = store.queue.messages.length
    · simp [last] at gone
    · rw [if_neg last] at about
      have within : id < store.queue.messages.length := by
        by_contra beyond
        simp [jobAt_eq_none_of_length_le (Nat.le_of_not_lt beyond)] at about
      rw [List.getElem?_append_left within] at gone
      exact first.deleted id jobId about gone

theorem dropSnapshot {store : Store} (first : ReportsFirst store) (jobId : JobId) :
    ReportsFirst (store.dropSnapshot jobId) where
  row := first.row
  deleted := first.deleted
  reportKey := first.reportKey
  snapshot other snapshot found := by
    rcases update_eq_some found with ⟨-, dropped⟩ | ⟨-, found⟩
    · cases dropped
    · exact first.snapshot other snapshot found
  snapshotKey other snapshot found := by
    rcases update_eq_some found with ⟨-, dropped⟩ | ⟨-, found⟩
    · cases dropped
    · exact first.snapshotKey other snapshot found

theorem putSnapshot {store : Store} (first : ReportsFirst store)
    (snapshot : ResearchJobStateSnapshot)
    (reported : snapshot.status = .completed → (store.reports snapshot.jobId).isSome) :
    ReportsFirst (store.putSnapshot snapshot) where
  row := first.row
  deleted := first.deleted
  reportKey := first.reportKey
  snapshot other stored found completed := by
    rcases update_eq_some found with ⟨rfl, written⟩ | ⟨-, found⟩
    · cases written
      exact reported completed
    · exact first.snapshot other stored found completed
  snapshotKey other stored found := by
    rcases update_eq_some found with ⟨rfl, written⟩ | ⟨-, found⟩
    · cases written
      rfl
    · exact first.snapshotKey other stored found

theorem putJob {store : Store} (first : ReportsFirst store) (jobId : JobId)
    (record : ResearchJobRecord)
    (reported : record.status = .completed → (store.reports jobId).isSome) :
    ReportsFirst (store.putJob jobId record) where
  snapshot := first.snapshot
  deleted := first.deleted
  snapshotKey := first.snapshotKey
  reportKey := first.reportKey
  row other stored found completed := by
    rcases update_eq_some found with ⟨rfl, written⟩ | ⟨-, found⟩
    · cases written
      exact reported completed
    · exact first.row other stored found completed

theorem putReport {store : Store} (first : ReportsFirst store) {jobId : JobId}
    {record : FinalResearchReportRecord} (keyed : record.jobId = jobId) :
    ReportsFirst (store.putReport jobId record) where
  snapshotKey := first.snapshotKey
  row other row found completed := isSome_update _ _ _ _ (first.row other row found completed)
  snapshot other snapshot found completed :=
    isSome_update _ _ _ _ (first.snapshot other snapshot found completed)
  deleted id other about gone := isSome_update _ _ _ _ (first.deleted id other about gone)
  reportKey other stored found := by
    rcases update_eq_some found with ⟨rfl, written⟩ | ⟨-, found⟩
    · cases written
      exact keyed
    · exact first.reportKey other stored found

end ReportsFirst

/-- An honest operation keeps the invariant, however its call ends. -/
theorem Written.reportsFirst {op : Op} {store after : Store} (written : Written store op after)
    (honest : op.Honest store) (first : ReportsFirst store) : ReportsFirst after := by
  cases written with
  | unchanged => exact first
  | fetched | cached => exact { first with }
  | snapshot snapshot => exact first.putSnapshot snapshot honest
  | inserted record absent =>
      exact first.putJob _ record fun completed => absurd completed honest
  | updated jobId changes row present =>
      refine first.putJob jobId _ fun completed => ?_
      cases assigned : changes.status with
      | none =>
          rw [JobChanges.apply_status, assigned] at completed
          exact first.row jobId row present completed
      | some status =>
          rw [JobChanges.apply_status, assigned] at completed
          exact honest (assigned.trans (congrArg some completed))
  | reported record absent => exact first.putReport rfl
  | revised jobId changes row present =>
      exact first.putReport (first.reportKey jobId row present)
  | sent message => exact first.enqueue _
  | deleted handle honoured => exact first.delete handle honoured honest
  | revealed handle timeoutSeconds honoured => exact first.changeVisibility _ _ _

/-! ## The programs -/

namespace Visibility

/-- Every process keeps the invariant, and counts on the others to do so. -/
def visibility : Protocol Ops Exn Store where
  invariant := ReportsFirst
  rely := Store.Grows
  effect op now reply after := ∃ outcome, exec op outcome now = some (reply, after)
  guarantee := Store.Grows
  rely_refl := Store.Grows.refl
  rely_trans := Store.Grows.trans

/-- A postcondition on returned values only. -/
def Returning {α : Type} (fact : α → Store → Prop) : Except Exn α → Store → Prop
  | .ok value, now => fact value now
  | .error _, _ => True

section

variable {α β : Type}

theorem safe_pure {value : α} {fact : α → Store → Prop} {state : Store}
    (holds : ∀ now, ReportsFirst now → state.Grows now → fact value now) :
    (Program.pure value : Coroutine α).Safe visibility (Returning fact) state :=
  Program.safe_pure.mpr holds

theorem safe_raise {error : Exn} {fact : α → Store → Prop} {state : Store} :
    (Program.raise error : Coroutine α).Safe visibility (Returning fact) state :=
  Program.safe_raise.mpr fun _ _ _ => trivial

/-- An honest call, and then the rest of the program. -/
theorem safe_await {op : Op} {next : op.Reply → Coroutine α} {fact : α → Store → Prop}
    {state : Store} (honest : ∀ now, state.Grows now → op.Honest now)
    (rest : ∀ value now after outcome, ReportsFirst after → state.Grows after →
      exec op outcome now = some (.ok value, after) →
      (next value).Safe visibility (Returning fact) after) :
    ((await op).bind next).Safe visibility (Returning fact) state := by
  refine Program.Safe.perform_bind fun now reply after first grown ⟨outcome, called⟩ => ?_
  have written := written_of_exec called
  have kept := written.reportsFirst (honest now grown) first
  refine ⟨kept, written.grows, ?_, ?_⟩
  · rintro value rfl
    exact rest value now after outcome kept (grown.trans written.grows) called
  · rintro error -
    exact Program.safe_raise.mpr fun _ _ _ => trivial

/-- An honest call at the end of a program. -/
theorem safe_last (op : Op) {fact : op.Reply → Store → Prop} {state : Store}
    (honest : ∀ now, state.Grows now → op.Honest now)
    (holds : ∀ value now, state.Grows now → fact value now) :
    (await op).Safe visibility (Returning fact) state := by
  rw [← Program.bind_pure (await op)]
  exact safe_await honest fun value _ _ _ _ reached _ => safe_pure fun now _ later =>
    holds value now (reached.trans later)

/-- Sequencing, when only returned values matter. -/
theorem safe_bind {program : Coroutine α} {next : α → Coroutine β} {middle : α → Store → Prop}
    {fact : β → Store → Prop} {state : Store} (first : ReportsFirst state)
    (head : program.Safe visibility (Returning middle) state)
    (rest : ∀ value now, ReportsFirst now → state.Grows now → middle value now →
      (next value).Safe visibility (Returning fact) now) :
    (program.bind next).Safe visibility (Returning fact) state :=
  (head.frame id).bind first
    (fun value now kept reached => rest value now kept reached.1 reached.2)
    fun _ _ _ _ => trivial

/-- A session is closed after its body, whose outcome is passed on. -/
theorem safe_withSession {body : Session → Coroutine α} {fact : α → Store → Prop}
    {state : Store} (first : ReportsFirst state)
    (safe : (body .empty).Safe visibility (Returning fact) state)
    (stable : ∀ value {before after : Store}, before.Grows after → fact value before →
      fact value after) :
    (withSession body).Safe visibility (Returning fact) state := by
  have attempted : (body .empty).attempt.Safe visibility (Returning (Returning fact)) state :=
    safe.attempt
  refine safe_bind first attempted fun outcome now first _ ended => ?_
  refine safe_await (fun _ _ => trivial) fun _ _ _ _ _ grown _ => ?_
  cases outcome with
  | ok value => exact safe_pure fun _ _ later => stable value (grown.trans later) ended
  | error error => exact safe_raise

end

/-- `save_final_report` returns only when the report row is there. -/
theorem safe_saveFinalReport (session : Session) (jobId : JobId) (content : ReportContent)
    (state : Store) :
    (saveFinalReport session jobId content).Safe visibility
      (Returning fun _ now => (now.reports jobId).isSome) state := by
  -- both branches end with the refresh of a row that is there
  have refreshed : ∀ now : Store, (now.reports jobId).isSome →
      ((await (.refreshReport jobId)).bind fun refreshed =>
        .pure (session.loadReport jobId refreshed)).Safe visibility
          (Returning fun _ now => (now.reports jobId).isSome) now :=
    fun now present => safe_await (fun _ _ => trivial) fun _ _ _ _ _ grown _ =>
      safe_pure fun _ _ later => (grown.trans later).reports jobId present
  refine safe_await (fun _ _ => trivial) fun selected _ _ _ _ _ _ => ?_
  cases identify (session.reports jobId) selected with
  | none =>
      refine safe_await (fun _ _ => trivial) fun createdTime _ _ _ _ _ _ => ?_
      refine safe_await (fun _ _ => trivial) fun _ _ after _ _ _ called => ?_
      obtain ⟨-, rfl⟩ := insertReport_ok called
      exact refreshed _ (by simp)
  | some loaded =>
      refine safe_await (fun _ _ => trivial) fun _ _ after _ _ _ called => ?_
      obtain ⟨row, -, rfl⟩ := updateReport_ok called
      exact refreshed _ (by simp)

/-- `update_job_status` needs the report row to be there when it assigns
`completed`. -/
theorem safe_updateJobStatus (session : Session) (jobId : JobId) (changes : JobChanges)
    {state : Store}
    (reported : changes.status = some .completed → (state.reports jobId).isSome) :
    (updateJobStatus session jobId changes).Safe visibility (Returning fun _ _ => True) state := by
  rw [updateJobStatus_eq]
  refine safe_await (fun _ _ => trivial) fun selected _ _ _ _ reached _ => ?_
  cases identify (session.jobs jobId) selected with
  | none => exact safe_pure fun _ _ _ => trivial
  | some loaded =>
      refine safe_await (fun now later completed => ?_) fun _ _ _ _ _ _ _ => ?_
      · rcases changes.against_status loaded with unassigned | assigned
        · rw [unassigned] at completed
          cases completed
        · exact (reached.trans later).reports jobId (reported (assigned ▸ completed))
      · exact safe_await (fun _ _ => trivial) fun _ _ _ _ _ _ _ =>
          safe_pure fun _ _ _ => trivial

/-- A program that only calls operations that are honest in every state. -/
theorem safe_of_uses {α : Type} {program : Coroutine α} {state : Store}
    (uses : program.Uses fun op : Op => ∀ now, op.Honest now) :
    program.Safe visibility (Returning fun _ _ => True) state := by
  induction program generalizing state with
  | pure value => exact safe_pure fun _ _ _ => trivial
  | raise error => exact safe_raise
  | call op resume ih =>
      obtain ⟨honest, rest⟩ := Program.uses_call.mp uses
      refine Program.safe_call.mpr fun now reply after first grown ⟨outcome, called⟩ => ?_
      have written := written_of_exec called
      exact ⟨written.reportsFirst (honest now) first, written.grows, ih reply (rest reply)⟩

/-- The analysis shows nothing as completed. -/
theorem safe_analysisStage (env : Environment) (jobId : JobId)
    (rawContext : RepositoryRawContext) (cacheKey : String) (state : Store) :
    (analysisStage env jobId rawContext cacheKey).Safe visibility
      (Returning fun _ _ => True) state := by
  refine safe_of_uses ((uses_analysisStage env jobId rawContext cacheKey).mono ?_)
  intro op analysis now
  cases op with
  | setState snapshot =>
      intro completed
      rw [analysis.2] at completed
      cases completed
  | _ => trivial

/-- The completion saves the report and then shows the job as completed. -/
theorem safe_completionStage (session : Session) (jobId : JobId)
    (rawContext : RepositoryRawContext) (cacheKey : String) (analysis : Analysis) (state : Store) :
    (completionStage session jobId rawContext cacheKey analysis).Safe visibility
      (Returning fun _ now => (now.reports jobId).isSome) state := by
  refine safe_await (fun _ _ => trivial) fun createdAt _ _ _ first _ _ => ?_
  refine safe_bind first (safe_saveFinalReport _ _ _ _) fun session saved first _ reported => ?_
  refine safe_bind first (safe_updateJobStatus _ _ _ fun _ => reported)
    fun _ completed first grown _ => ?_
  have reported := grown.reports jobId reported
  refine safe_await (fun _ _ => trivial) fun now _ _ _ _ later _ => ?_
  have reported := later.reports jobId reported
  exact safe_last (.setState _) (fun _ later _ => later.reports jobId reported)
    fun _ _ later => later.reports jobId reported

/-- The pipeline returns only when the report row is there. -/
theorem safe_pipelineSession (env : Environment) (jobId : JobId) (target : ParsedRepoTarget)
    (session : Session) {state : Store} (first : ReportsFirst state) :
    (pipelineSession env jobId target session).Safe visibility
      (Returning fun _ now => (now.reports jobId).isSome) state := by
  refine safe_bind first (safe_updateJobStatus _ _ _ nofun) fun session _ first _ _ => ?_
  refine safe_await (fun _ _ => trivial) fun rawContext _ _ _ first _ _ => ?_
  refine safe_await (fun _ _ => trivial) fun now _ _ _ first _ _ => ?_
  refine safe_await (fun _ _ => nofun) fun _ _ _ _ first _ _ => ?_
  refine safe_bind first (safe_updateJobStatus _ _ _ nofun) fun session _ first _ _ => ?_
  exact safe_bind first (safe_analysisStage _ _ _ _ _) fun analysis _ _ _ _ =>
    safe_completionStage _ _ _ _ _ _

theorem safe_executeResearchPipeline (env : Environment) (message : ResearchJobMessage)
    {state : Store} (first : ReportsFirst state) :
    (executeResearchPipeline env message).Safe visibility
      (Returning fun _ now => (now.reports message.jobId).isSome) state := by
  unfold executeResearchPipeline
  generalize parseGithubRepositoryUrl env.urlLibrary message.repoUrl = parsed
  refine safe_bind first (safe_of_uses (Program.uses_ofExcept _)) fun target _ first _ _ => ?_
  refine safe_await (fun _ _ => trivial) fun existing _ _ _ first _ _ => ?_
  refine safe_await (fun _ _ => trivial) fun now _ _ _ first _ _ => ?_
  refine safe_await (fun _ _ => nofun) fun _ _ _ _ first _ _ => ?_
  exact safe_withSession first (safe_pipelineSession _ _ _ _ first)
    fun _ _ _ grown => grown.reports message.jobId

/-- The failure branch of the worker shows nothing as completed. -/
theorem safe_markFailed (jobId : JobId) (error : Exn) {state : Store}
    (first : ReportsFirst state) :
    (markFailed jobId error).Safe visibility (Returning fun _ _ => True) state := by
  refine safe_bind first (safe_withSession first (safe_updateJobStatus _ _ _ nofun)
    fun _ _ _ _ _ => trivial) fun _ _ first _ _ => ?_
  refine safe_await (fun _ _ => trivial) fun now _ _ _ _ _ _ => ?_
  exact safe_last (.setState _) (fun _ _ => nofun) fun _ _ _ => trivial

/-- A worker deletes a message only after its pipeline has returned. -/
theorem safe_settle (settings : Settings) (received : ReceivedMessage)
    (outcome : Except Exn Unit) {state : Store} (first : ReportsFirst state)
    (about : state.queue.jobAt received.receiptHandle.message = some received.body.jobId)
    (reported : outcome = .ok () → (state.reports received.body.jobId).isSome) :
    (settle settings received outcome).Safe visibility (Returning fun _ _ => True) state := by
  cases outcome with
  | ok value =>
      refine safe_last (.delete _) (fun now later jobId named => ?_) fun _ _ _ => trivial
      rw [later.jobAt about, Option.some.injEq] at named
      exact named ▸ later.reports _ (reported rfl)
  | error error =>
      have revealed : ∀ now : Store, (await (.changeVisibility received.receiptHandle 0)).Safe
          visibility (Returning fun _ _ => True) now :=
        fun now => safe_last (.changeVisibility _ _) (fun _ _ => trivial) fun _ _ _ => trivial
      by_cases last : settings.maxQueueAttempts ≤ received.receiveCount
      · rw [settle_exhausted last]
        exact safe_bind first (safe_markFailed _ _ first) fun _ _ _ _ _ => revealed _
      · rw [settle_retry last]
        exact revealed _

/-- Submission shows a job as completed only after it has saved the report. -/
theorem safe_completeFromCache (session : Session) (jobId : JobId)
    (rawContext : RepositoryRawContext) (snapshot : ResearchJobStateSnapshot)
    (keyed : snapshot.jobId = jobId) (cachedAi : StructuredAIResponse) (state : Store) :
    (completeFromCache session jobId rawContext snapshot cachedAi).Safe visibility
      (Returning fun _ _ => True) state := by
  refine safe_await (fun _ _ => trivial) fun createdAt _ _ _ first _ _ => ?_
  refine safe_bind first (safe_saveFinalReport _ _ _ _) fun session _ first _ reported => ?_
  refine safe_bind first (safe_updateJobStatus _ _ _ fun _ => reported)
    fun _ _ first grown _ => ?_
  have reported := grown.reports jobId reported
  refine safe_await (fun _ _ => trivial) fun now _ _ _ _ later _ => ?_
  have reported := later.reports jobId reported
  exact safe_await (fun _ later _ => keyed ▸ later.reports jobId reported)
    fun _ _ _ _ _ _ _ => safe_pure fun _ _ _ => trivial

theorem safe_enqueueJob (session : Session) (target : ParsedRepoTarget)
    (request : ResearchRequest) (jobId : JobId) (snapshot : ResearchJobStateSnapshot)
    (state : Store) :
    (enqueueJob session target request jobId snapshot).Safe visibility
      (Returning fun _ _ => True) state := by
  refine safe_await (fun _ _ => trivial) fun enqueuedAt _ _ _ first _ _ => ?_
  refine safe_bind first (safe_of_uses (Program.Uses.attempt (.perform fun _ => trivial)))
    fun sent _ first _ _ => ?_
  cases sent with
  | ok _ => exact safe_pure fun _ _ _ => trivial
  | error error =>
      refine safe_bind first (safe_updateJobStatus _ _ _ nofun) fun _ _ _ _ _ => ?_
      refine safe_await (fun _ _ => trivial) fun now _ _ _ _ _ _ => ?_
      exact safe_await (fun _ _ => nofun) fun _ _ _ _ _ _ _ => safe_raise

theorem safe_submit (env : Environment) (request : ResearchRequest) {state : Store}
    (first : ReportsFirst state) :
    (submit env request).Safe visibility (Returning fun _ _ => True) state := by
  unfold submit
  generalize parseGithubRepositoryUrl env.urlLibrary request.url = parsed
  refine safe_bind first (safe_of_uses (Program.uses_ofExcept _)) fun target _ _ _ _ => ?_
  refine safe_await (fun _ _ => trivial) fun rawContext _ _ _ _ _ _ => ?_
  refine safe_await (fun _ _ => trivial) fun jobId _ _ _ first _ _ => ?_
  refine safe_bind first (safe_of_uses (.bind (.perform fun _ => nofun) fun _ =>
    .bind (.perform fun _ => trivial) fun _ => Program.uses_pure _)) fun session _ _ _ _ => ?_
  refine safe_await (fun _ _ => trivial) fun now _ _ _ _ _ _ => ?_
  refine safe_await (fun _ _ => nofun) fun _ _ _ _ _ _ _ => ?_
  refine safe_await (fun _ _ => trivial) fun cached _ _ _ _ _ _ => ?_
  cases cached with
  | some cachedAi =>
      exact safe_completeFromCache session jobId rawContext
        (pendingSnapshot jobId now rawContext.instantData) rfl cachedAi _
  | none => exact safe_enqueueJob _ _ _ _ _ _

/-- An endpoint answers with what its body returned, or with a problem. -/
theorem safe_answering {α : Type} (context : RequestContext) (respond : α → Answer)
    {body : Coroutine α} {fact : α → Store → Prop} {state : Store} (first : ReportsFirst state)
    (safe : body.Safe visibility (Returning fact) state)
    (stable : ∀ value {before after : Store}, before.Grows after → fact value before →
      fact value after) :
    (answering context respond body).Safe visibility
      (Returning fun answer now => (∃ value, answer = respond value ∧ fact value now) ∨
        ∃ error, answer = .problem (exceptionResponse context error)) state := by
  have attempted : body.attempt.Safe visibility (Returning (Returning fact)) state := safe.attempt
  refine safe_bind first attempted fun outcome now _ _ ended => ?_
  cases outcome with
  | ok value =>
      exact safe_pure fun _ _ later => .inl ⟨value, rfl, stable value later ended⟩
  | error error => exact safe_pure fun _ _ _ => .inr ⟨error, rfl⟩

/-- What a poll response says about its report. -/
def ReportMatches (jobId : JobId) (response : PollingStatusResponse) : Prop :=
  response.jobId = jobId ∧
    (response.status = .completed →
      ∃ report, response.report = some report ∧ report.jobId = jobId) ∧
    (response.status ≠ .completed → response.report = none)

/-- The report a poll loads is the one of its job, and it is there once
the row is. -/
theorem safe_loadReport {α : Type} (jobId : JobId) {next : Option ResearchReport → Coroutine α}
    {fact : α → Store → Prop} {state : Store}
    (rest : ∀ report now, (∀ found, report = some found → found.jobId = jobId) →
      ((state.reports jobId).isSome → report.isSome) →
      (next report).Safe visibility (Returning fact) now) :
    ((loadReport .empty jobId).bind next).Safe visibility (Returning fact) state := by
  rw [loadReport_bind]
  refine safe_await (fun _ _ => trivial) fun selected now after _ first reached called => ?_
  obtain ⟨selectedRow, rfl⟩ := selectReport_ok called
  rw [selectedRow]
  refine rest _ _ (fun found loaded => ?_) fun present => ?_
  · obtain ⟨record, stored, rfl⟩ := Option.map_eq_some_iff.mp loaded
    exact first.reportKey jobId record stored
  · rw [Option.isSome_map]
    exact reached.reports jobId present

/-- What a poll responds agrees with the report table. -/
theorem safe_pollJob (jobId : JobId) (state : Store) :
    (pollJob jobId).Safe visibility (Returning fun response _ => ReportMatches jobId response)
      state := by
  refine safe_await (fun _ _ => trivial) fun snapshot _ now _ first _ called => ?_
  obtain ⟨rfl, rfl⟩ := getState_ok called
  cases found : now.snapshots jobId with
  | none =>
      refine safe_loadReport jobId fun report _ keyed _ => ?_
      cases report with
      | none => exact safe_raise
      | some report =>
          exact safe_pure fun _ _ _ =>
            ⟨rfl, fun _ => ⟨report, rfl, keyed report rfl⟩, fun other => absurd rfl other⟩
  | some snapshot =>
      have named := first.snapshotKey jobId snapshot found
      change (pollWithSnapshot jobId snapshot).Safe visibility _ now
      unfold pollWithSnapshot
      by_cases completed : snapshot.status = .completed
      · rw [if_pos completed]
        have reported := first.snapshot jobId snapshot found completed
        refine safe_loadReport jobId fun report _ keyed loaded => ?_
        obtain ⟨report, rfl⟩ := Option.isSome_iff_exists.mp (loaded reported)
        exact safe_pure fun _ _ _ =>
          ⟨named, fun _ => ⟨report, rfl, keyed report rfl⟩, fun other => absurd completed other⟩
      · rw [if_neg completed]
        exact safe_pure fun _ _ _ => ⟨named, fun shown => absurd shown completed, fun _ => rfl⟩

end Visibility

/-! ## The invariant of the service -/

open Visibility

/-- What holds of a task while the others run beside it. -/
def Task.Honest (store : Store) : Task → Prop
  | submit _ program => program.Safe visibility (Returning fun _ _ => True) store
  | poll jobId _ program =>
      program.Safe visibility
        (Returning fun answer _ => ∀ response, answer = .status response →
          ReportMatches jobId response) store
  | execute received program =>
      store.queue.jobAt received.receiptHandle.message = some received.body.jobId ∧
        program.Safe visibility
          (Returning fun _ now => (now.reports received.body.jobId).isSome) store
  | settle received outcome program =>
      store.queue.jobAt received.receiptHandle.message = some received.body.jobId ∧
        (outcome = .ok () → (store.reports received.body.jobId).isSome) ∧
        program.Safe visibility (Returning fun _ _ => True) store
  | crashed => True

/-- What a task relies on survives whatever the others do. -/
theorem Task.Honest.grow {task : Task} {before after : Store} (honest : task.Honest before)
    (grows : before.Grows after) : task.Honest after := by
  cases task with
  | submit job program => exact honest.interfere grows
  | poll jobId known program => exact honest.interfere grows
  | execute received program => exact ⟨grows.jobAt honest.1, honest.2.interfere grows⟩
  | settle received outcome program =>
      exact ⟨grows.jobAt honest.1, fun returned => grows.reports _ (honest.2.1 returned),
        honest.2.2.interfere grows⟩
  | crashed => trivial

/-- A worker's task is honest as soon as its pipeline is. -/
theorem Task.Honest.working (settings : Settings) (received : ReceivedMessage) {store : Store}
    (first : ReportsFirst store)
    (about : store.queue.jobAt received.receiptHandle.message = some received.body.jobId)
    {program : Coroutine Unit}
    (safe : program.Safe visibility
      (Returning fun _ now => (now.reports received.body.jobId).isSome) store) :
    (Task.working settings received program).Honest store := by
  cases program with
  | call op resume => exact ⟨about, safe⟩
  | pure value =>
      have reported := Program.safe_pure.mp safe store first (.refl store)
      exact ⟨about, fun _ => reported, safe_settle _ _ _ first about fun _ => reported⟩
  | raise error => exact ⟨about, nofun, safe_settle _ _ _ first about nofun⟩

/-- One call of an honest task keeps the invariant and leaves the task honest. -/
theorem Task.Resumes.honest {settings : Settings} {outcome : Outcome} {store after : Store}
    {task next : Task} (resumes : task.Resumes settings outcome store after next)
    (first : ReportsFirst store) (honest : task.Honest store) :
    ReportsFirst after ∧ next.Honest after := by
  cases resumes with
  | submit job op resume reply called =>
      obtain ⟨kept, -, rest⟩ := Program.safe_call.mp honest store reply after first (.refl store)
        ⟨outcome, called⟩
      exact ⟨kept, rest⟩
  | poll jobId known op resume reply called =>
      obtain ⟨kept, -, rest⟩ := Program.safe_call.mp honest store reply after first (.refl store)
        ⟨outcome, called⟩
      exact ⟨kept, rest⟩
  | execute received op resume reply called =>
      obtain ⟨about, safe⟩ := honest
      obtain ⟨kept, grows, rest⟩ := Program.safe_call.mp safe store reply after first (.refl store)
        ⟨outcome, called⟩
      exact ⟨kept, .working settings received kept (grows.jobAt about) rest⟩
  | settle received ended op resume reply called =>
      obtain ⟨about, reported, safe⟩ := honest
      obtain ⟨kept, grows, rest⟩ := Program.safe_call.mp safe store reply after first (.refl store)
        ⟨outcome, called⟩
      exact ⟨kept, grows.jobAt about, fun returned => grows.reports _ (reported returned), rest⟩

/-- The invariant of the whole service. -/
structure Service.Visible (service : Service) : Prop where
  store : ReportsFirst service.store
  tasks : ∀ task ∈ service.tasks, task.Honest service.store

theorem Service.visible_initial (settings : Settings) (dlqArn : String)
    (aiCache : String → Option CachedPayload) :
    (Service.initial settings dlqArn aiCache).Visible where
  store := {
    row := fun _ _ found => by cases found
    snapshot := fun _ _ found => by cases found
    deleted := fun _ _ about => by simp [Service.initial, Queue.jobAt, Queue.bodies] at about
    snapshotKey := fun _ _ found => by cases found
    reportKey := fun _ _ found => by cases found
  }
  tasks := fun _ member => by cases member

/-- Every step keeps the invariant, whichever task or party takes it. -/
theorem Step.visible {env : Environment} {action : Action} {service after : Service}
    (moved : Step env service action after) (visible : service.Visible) : after.Visible := by
  have kept : ∀ task ∈ service.tasks, task.Honest after.store :=
    fun task member => (visible.tasks task member).grow moved.grows
  cases moved with
  | submit context request =>
      refine ⟨visible.store, fun task member => ?_⟩
      rcases List.mem_append.mp member with old | new
      · exact kept task old
      · rw [List.mem_singleton.mp new]
        exact (safe_answering context .accepted visible.store
          (safe_submit env request visible.store) fun _ _ _ _ _ => trivial).weaken
            fun outcome _ _ _ => by cases outcome <;> trivial
  | poll context jobId =>
      refine ⟨visible.store, fun task member => ?_⟩
      rcases List.mem_append.mp member with old | new
      · exact kept task old
      · rw [List.mem_singleton.mp new]
        refine (safe_answering context .status visible.store (safe_pollJob jobId _)
          fun _ _ _ _ matched => matched).weaken fun outcome _ _ ended => ?_
        cases outcome with
        | error error => trivial
        | ok answer =>
            rintro response rfl
            rcases ended with ⟨value, same, matched⟩ | ⟨error, other⟩
            · cases same
              exact matched
            · cases other
  | deliver id message body found visible' below named =>
      have first := visible.store.markReceived id
      refine ⟨first, fun task member => ?_⟩
      rcases List.mem_append.mp member with old | new
      · exact kept task old
      · rw [List.mem_singleton.mp new]
        refine .working env.settings _ first ?_ (safe_executeResearchPipeline env body first)
        have about : service.store.queue.jobAt id = some body.jobId := by
          simp [Queue.jobAt, Queue.bodies, found, named, MessageBody.jobId?]
        exact (Store.Grows.of_moves (Queue.moves_markReceived _ _)).jobAt about
  | reject id message error found visible' below malformed =>
      exact ⟨visible.store.markReceived id, kept⟩
  | resume index outcome task next store found resumes =>
      obtain ⟨first, honest⟩ := resumes.honest visible.store
        (visible.tasks task (List.mem_of_getElem? found))
      refine ⟨first, fun other member => ?_⟩
      rcases List.mem_or_eq_of_mem_set member with old | rfl
      · exact kept other old
      · exact honest
  | crash index task found live =>
      refine ⟨visible.store, fun other member => ?_⟩
      rcases List.mem_or_eq_of_mem_set member with old | rfl
      · exact kept other old
      · trivial
  | expireSnapshot jobId => exact ⟨visible.store.dropSnapshot jobId, kept⟩
  | expireCached cacheKey => exact ⟨{ visible.store with }, kept⟩
  | timeout message => exact ⟨visible.store.timeout message, kept⟩
  | redrive message => exact ⟨visible.store.redrive message, kept⟩

/-- The invariant holds in every reachable state. -/
theorem Service.visible_of_run {env : Environment} {permits : Action → Service → Bool}
    {dlqArn : String} {aiCache : String → Option CachedPayload} {actions : List Action}
    {service : Service}
    (ran : runWithin (Service.step env) permits actions
      (Service.initial env.settings dlqArn aiCache) = some service) : service.Visible :=
  runWithin_induction _ (fun _ _ _ _ moved => (Service.step_cases moved).visible)
    (Service.visible_initial _ _ _) ran

/-- A report row for the job is committed. -/
def Store.HasReport (store : Store) (jobId : JobId) : Prop :=
  ∃ report, store.reports jobId = some report ∧ report.jobId = jobId

theorem ReportsFirst.hasReport {store : Store} (first : ReportsFirst store) {jobId : JobId}
    (present : (store.reports jobId).isSome) : store.HasReport jobId := by
  obtain ⟨report, found⟩ := Option.isSome_iff_exists.mp present
  exact ⟨report, found, first.reportKey jobId report found⟩

/-- Report before visible: in every reachable state, a job whose row or
snapshot says `completed`, whose message is deleted or whose pipeline has
returned to the worker has its report row, and every poll response carries the
report exactly when it says `completed`. -/
theorem report_before_visible {env : Environment} {dlqArn : String}
    {aiCache : String → Option CachedPayload} {actions : List Action} {service : Service}
    (ran : run (Service.step env) actions
      (Service.initial env.settings dlqArn aiCache) = some service) :
    (∀ (jobId : JobId) (row : ResearchJobRecord), service.store.jobs jobId = some row →
      row.status = .completed → service.store.HasReport jobId) ∧
    (∀ (jobId : JobId) (snapshot : ResearchJobStateSnapshot),
      service.store.snapshots jobId = some snapshot → snapshot.status = .completed →
      service.store.HasReport jobId) ∧
    (∀ (id : Nat) (message : QueueMessage) (body : ResearchJobMessage),
      service.store.queue.messages[id]? = some message → message.body = .job body →
      message.place = .deleted → service.store.HasReport body.jobId) ∧
    (∀ (received : ReceivedMessage) (program : Coroutine Unit),
      .settle received (.ok ()) program ∈ service.tasks →
      service.store.HasReport received.body.jobId) ∧
    (∀ (jobId : JobId) (known : Bool) (response : PollingStatusResponse),
      .poll jobId known (.pure (.status response)) ∈ service.tasks →
      ReportMatches jobId response) := by
  have visible := Service.visible_of_run ran
  refine ⟨fun jobId row found completed => ?_, fun jobId snapshot found completed => ?_,
    fun id message body found named deleted => ?_, fun received program member => ?_,
    fun jobId known response member => ?_⟩
  · exact visible.store.hasReport (visible.store.row jobId row found completed)
  · exact visible.store.hasReport (visible.store.snapshot jobId snapshot found completed)
  · refine visible.store.hasReport (visible.store.deleted id body.jobId ?_ ?_)
    · simp [Queue.jobAt, Queue.bodies, found, named, MessageBody.jobId?]
    · simp [found, deleted]
  · exact visible.store.hasReport ((visible.tasks _ member).2.1 rfl)
  · have honest := visible.tasks _ member
    exact Program.safe_pure.mp honest service.store visible.store (.refl _) response rfl

/-- A submission answered from the AI cache leaves a completed row with its
report. -/
theorem report_before_visible_cache_hit :
    ∃ service, run (Service.step Sample.environment) Sample.cachedSubmission Sample.warm =
        some service ∧
      (service.store.jobs "job-1").map ResearchJobRecord.status = some .completed ∧
      service.store.HasReport "job-1" :=
  ⟨_, Sample.ran_after (by decide), by decide,
    (report_before_visible (Sample.ran_after (by decide))).1 "job-1" _ rfl rfl⟩

end ResearchTool
