import Mathlib.Logic.Function.Basic
import Mathlib.Tactic.Simps.Basic
import ResearchTool.Process.Program
import ResearchTool.Queue
import ResearchTool.Records

/-!
# Operations and stores

Every `await` of the research package that leaves the process is one operation:
a call of a port adapter or one database statement.  `answer` says what the
stores reply and how they change; `exec` adds the two ways a call can fail,
before and after it took effect.
-/

namespace ResearchTool

open Process

/-- An entry of the AI cache, as far as `StructuredAIResponse.model_validate`
can tell. -/
inductive CachedPayload where
  | valid (insights : StructuredAIResponse)
  | invalid (validationError : String)
  deriving DecidableEq, Repr

/-- The reply to a `SELECT` through a session.  The identity map references
its instances weakly: `alive` tells whether an instance that the session loaded
earlier still exists. -/
structure Selected (ρ : Type) where
  row : Option ρ
  alive : Bool

inductive Op where
  /-- `timezone.now()` -/
  | now
  /-- `uuid4()` -/
  | uuid4
  /-- `IGitHubClient.fetch_repository_context` -/
  | fetchRepositoryContext (target : ParsedRepoTarget)
  /-- `ILLMClient.analyze` -/
  | analyze (payload : LLMPromptPayload)
  /-- `IStateCache.set_state` -/
  | setState (snapshot : ResearchJobStateSnapshot)
  /-- `IStateCache.get_state` -/
  | getState (jobId : JobId)
  /-- `IStateCache.get_cached_ai_result` -/
  | getCachedAiResult (cacheKey : String)
  /-- `IStateCache.set_cached_ai_result` -/
  | setCachedAiResult (cacheKey : String) (insights : StructuredAIResponse)
  /-- `SELECT` of a job row by `job_id` -/
  | selectJob (jobId : JobId)
  /-- flush and commit of a new job row -/
  | insertJob (record : ResearchJobRecord)
  /-- flush and commit of the changed columns of a job row -/
  | updateJob (jobId : JobId) (changes : JobChanges)
  /-- `session.refresh` of a job row -/
  | refreshJob (jobId : JobId)
  /-- `SELECT` of a report row by `job_id` -/
  | selectReport (jobId : JobId)
  /-- flush and commit of a new report row -/
  | insertReport (record : FinalResearchReportRecord)
  /-- flush and commit of the changed columns of a report row -/
  | updateReport (jobId : JobId) (changes : ReportChanges)
  /-- `session.refresh` of a report row -/
  | refreshReport (jobId : JobId)
  /-- leaving `async with session_factory()` -/
  | closeSession
  /-- `IMessageQueue.send` -/
  | send (message : ResearchJobMessage)
  /-- `IMessageQueue.delete` -/
  | delete (handle : ReceiptHandle)
  /-- `IMessageQueue.change_visibility` -/
  | changeVisibility (handle : ReceiptHandle) (timeoutSeconds : Nat)

/-- What an operation returns. -/
def Op.Reply : Op → Type
  | now => DateTime
  | uuid4 => JobId
  | fetchRepositoryContext _ => RepositoryRawContext
  | analyze _ => StructuredAIResponse
  | getState _ => Option ResearchJobStateSnapshot
  | getCachedAiResult _ => Option StructuredAIResponse
  | selectJob _ => Selected ResearchJobRecord
  | refreshJob _ => ResearchJobRecord
  | selectReport _ => Selected FinalResearchReportRecord
  | refreshReport _ => FinalResearchReportRecord
  | _ => Unit

abbrev Ops : Signature where
  Op := Op
  Reply := Op.Reply

/-- Coroutines of the research package. -/
abbrev Coroutine := Program Ops Exn

/-- `await` of one operation. -/
abbrev await (op : Op) : Coroutine op.Reply :=
  @Program.perform Ops Exn op

/-- The shared stores.  `fetched` records the contexts GitHub has returned,
newest first. -/
structure Store where
  jobs : JobId → Option ResearchJobRecord
  reports : JobId → Option FinalResearchReportRecord
  snapshots : JobId → Option ResearchJobStateSnapshot
  aiCache : String → Option CachedPayload
  queue : Queue
  fetched : List (ParsedRepoTarget × RepositoryRawContext)

/-- What an outside party contributes to the reply of an operation: the clock,
GitHub, the language model, or a free choice of the database driver or the
broker. -/
inductive Supply where
  | nothing
  | time (now : DateTime)
  | uuid (value : JobId)
  | context (rawContext : RepositoryRawContext)
  | insights (value : StructuredAIResponse)
  | flag (value : Bool)

namespace Store

@[simps]
def putJob (store : Store) (jobId : JobId) (record : ResearchJobRecord) : Store :=
  { store with jobs := Function.update store.jobs jobId (some record) }

@[simps]
def putReport (store : Store) (jobId : JobId) (record : FinalResearchReportRecord) : Store :=
  { store with reports := Function.update store.reports jobId (some record) }

@[simps]
def putSnapshot (store : Store) (snapshot : ResearchJobStateSnapshot) : Store :=
  { store with snapshots := Function.update store.snapshots snapshot.jobId (some snapshot) }

@[simps]
def putCached (store : Store) (cacheKey : String) (payload : CachedPayload) : Store :=
  { store with aiCache := Function.update store.aiCache cacheKey (some payload) }

@[simps]
def putQueue (store : Store) (queue : Queue) : Store :=
  { store with queue }

end Store

/-- A `UNIQUE` constraint of the database rejects a row. -/
def integrityError : Exn :=
  .other "IntegrityError" "duplicate key value violates unique constraint"

/-- `session.refresh` of a row that no longer exists. -/
def missingRow : Exn :=
  .other "InvalidRequestError" "Could not refresh instance"

/-- `UPDATE` of a row that no longer exists. -/
def staleRow : Exn :=
  .other "StaleDataError" "UPDATE statement on table expected to update 1 row(s); 0 were matched."

open Store in
/-- The reply and the effect of an operation that is carried out.  Nothing is
answered when the outside contribution is not of the kind the operation needs. -/
def answer (op : Op) (supply : Supply) (store : Store) :
    Option (Except Exn op.Reply × Store) :=
  match op, supply with
  | .now, .time now => some (.ok now, store)
  | .uuid4, .uuid value => some (.ok value, store)
  | .fetchRepositoryContext target, .context rawContext =>
      some (.ok rawContext, { store with fetched := (target, rawContext) :: store.fetched })
  | .analyze _, .insights insights => some (.ok insights, store)
  | .setState snapshot, .nothing => some (.ok (), store.putSnapshot snapshot)
  | .getState jobId, .nothing => some (.ok (store.snapshots jobId), store)
  | .getCachedAiResult cacheKey, .nothing =>
      match store.aiCache cacheKey with
      | none => some (.ok none, store)
      | some (.valid insights) => some (.ok (some insights), store)
      | some (.invalid message) => some (.error (validationError message), store)
  | .setCachedAiResult cacheKey insights, .nothing =>
      some (.ok (), store.putCached cacheKey (.valid insights))
  | .selectJob jobId, .flag alive => some (.ok ⟨store.jobs jobId, alive⟩, store)
  | .insertJob record, .nothing =>
      match store.jobs record.jobId with
      | none => some (.ok (), store.putJob record.jobId record)
      | some _ => some (.error integrityError, store)
  | .updateJob jobId changes, .nothing =>
      match store.jobs jobId with
      | some row => some (.ok (), store.putJob jobId (changes.apply row))
      | none => some (.error staleRow, store)
  | .refreshJob jobId, .nothing =>
      match store.jobs jobId with
      | some row => some (.ok row, store)
      | none => some (.error missingRow, store)
  | .selectReport jobId, .flag alive => some (.ok ⟨store.reports jobId, alive⟩, store)
  | .insertReport record, .nothing =>
      match store.reports record.jobId with
      | none => some (.ok (), store.putReport record.jobId record)
      | some _ => some (.error integrityError, store)
  | .updateReport jobId changes, .nothing =>
      match store.reports jobId with
      | some row =>
          some (.ok (), store.putReport jobId { row with content := changes.apply row.content })
      | none => some (.error staleRow, store)
  | .refreshReport jobId, .nothing =>
      match store.reports jobId with
      | some row => some (.ok row, store)
      | none => some (.error missingRow, store)
  | .closeSession, .nothing => some (.ok (), store)
  | .send message, .nothing =>
      some (.ok (), store.putQueue (store.queue.enqueue (.job message)))
  | .delete handle, .flag honoured =>
      some (.ok (), store.putQueue (store.queue.delete handle honoured))
  | .changeVisibility handle timeoutSeconds, .flag honoured =>
      some (.ok (), store.putQueue (store.queue.changeVisibility handle timeoutSeconds honoured))
  | _, _ => none

theorem answer_now {supply : Supply} {store after : Store} {reply : Except Exn DateTime}
    (answered : answer .now supply store = some (reply, after)) :
    ∃ now, reply = .ok now ∧ after = store := by
  cases supply <;> simp only [answer, reduceCtorEq] at answered
  cases answered
  exact ⟨_, rfl, rfl⟩

/-- The parties of the outside world. -/
inductive Party where
  | process
  | github
  | languageModel
  | redis
  | database
  | sqs
  deriving DecidableEq, Repr

/-- Who carries out an operation. -/
def Op.party : Op → Party
  | now => .process
  | uuid4 => .process
  | fetchRepositoryContext _ => .github
  | analyze _ => .languageModel
  | setState _ => .redis
  | getState _ => .redis
  | getCachedAiResult _ => .redis
  | setCachedAiResult _ _ => .redis
  | send _ => .sqs
  | delete _ => .sqs
  | changeVisibility _ _ => .sqs
  | _ => .database

/-- The exceptions a party may raise.  The clock and the random generator do
not fail; only the adapters of GitHub and of the language model raise the
exception classes of the package. -/
def Party.mayRaise : Party → Exn → Bool
  | process, _ => false
  | github, .researchProblem _ => true
  | languageModel, .llmUnavailable _ => true
  | languageModel, .contentPolicy _ => true
  | _, .other _ _ => true
  | _, _ => false

/-- How one call ends: carried out, failed without effect, or carried out with
the reply lost on the way back. -/
inductive Outcome where
  | done (supply : Supply)
  | failed (error : Exn)
  | lost (supply : Supply) (error : Exn)

namespace Outcome

/-- The outcome of a call whose reply depends on the stores only. -/
abbrev ok : Outcome :=
  .done .nothing

/-- Whether the environment makes the call raise. -/
def faulty : Outcome → Bool
  | done _ => false
  | failed _ => true
  | lost _ _ => true

/-- The call is carried out, whether or not its reply gets back. -/
def takesEffect : Outcome → Bool
  | done _ => true
  | failed _ => false
  | lost _ _ => true

end Outcome

/-- One call under a chosen outcome: its reply and the store afterwards. -/
def exec (op : Op) (outcome : Outcome) (store : Store) :
    Option (Except Exn op.Reply × Store) :=
  match outcome with
  | .done supply => answer op supply store
  | .failed error => if op.party.mayRaise error then some (.error error, store) else none
  | .lost supply error =>
      if op.party.mayRaise error then
        (answer op supply store).map fun result => (.error error, result.2)
      else
        none

end ResearchTool
