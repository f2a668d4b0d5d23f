import ResearchTool.Pipeline

/-!
# Submission

`ResearchOrchestrationService.submit` and the endpoint around it.  The session
is the request's; it is not closed by `submit`.
-/

namespace ResearchTool

open Process

/-- The snapshot of a job that is not queued yet. -/
def pendingSnapshot (jobId : JobId) (now : DateTime) (instantData : InstantMetadata) :
    ResearchJobStateSnapshot where
  jobId := jobId
  status := .pending
  progressMsg := "Repository metadata fetched"
  updatedAt := now
  instantData := some instantData

/-- The job row that `submit` creates. -/
def pendingRecord (target : ParsedRepoTarget) (rawContext : RepositoryRawContext)
    (jobId : JobId) : ResearchJobRecord where
  jobId := jobId
  repositoryUrl := rawContext.repositoryUrl
  owner := target.owner
  repo := target.repo
  status := .pending
  commitSha := some rawContext.commitSha
  instantData := some rawContext.instantData
  progressMsg := "Repository metadata fetched"
  aiCacheKey := some (buildAiCacheKey target.owner target.repo rawContext.commitSha)

/-- `submit` when the AI cache already holds the analysis. -/
def completeFromCache (session : Session) (jobId : JobId) (rawContext : RepositoryRawContext)
    (snapshot : ResearchJobStateSnapshot) (cachedAi : StructuredAIResponse) :
    Coroutine JobAcceptedResponse := do
  let createdAt ← await .now
  let report := buildResearchReport createdAt jobId rawContext (some cachedAi) none
  let session ← saveFinalReport session jobId {
    repositoryUrl := report.repositoryUrl
    commitSha := some rawContext.commitSha
    deterministicData := report.deterministicData
    aiInsights := report.aiInsights
    aiFallback := false
    aiFallbackReason := none
    markdownReport := report.markdownReport
  }
  let _ ← updateJobStatus session jobId {
    status := some .completed
    progressMsg := some "Completed from cache"
  }
  let now ← await .now
  await (.setState { snapshot with
    status := .completed
    progressMsg := "Completed from cache"
    updatedAt := now
  })
  pure { jobId }

/-- The compensation of `submit` when the message could not be sent. -/
def enqueueFailed (session : Session) (jobId : JobId) (snapshot : ResearchJobStateSnapshot)
    (error : Exn) : Coroutine JobAcceptedResponse := do
  let _ ← updateJobStatus session jobId {
    status := some .failed
    progressMsg := some "Queue enqueue failed"
    error := some (some error.str)
  }
  let now ← await .now
  await (.setState { snapshot with
    status := .failed
    progressMsg := "Queue enqueue failed"
    updatedAt := now
    error := some error.str
  })
  Program.raise error

/-- `submit` when the job has to be queued. -/
def enqueueJob (session : Session) (target : ParsedRepoTarget) (request : ResearchRequest)
    (jobId : JobId) (snapshot : ResearchJobStateSnapshot) : Coroutine JobAcceptedResponse := do
  let enqueuedAt ← await .now
  let message : ResearchJobMessage := {
    jobId
    repoUrl := target.canonicalUrl
    enqueuedAt
    attempt := 1
    options := request.options
  }
  match ← Program.attempt (await (.send message)) with
  | .ok _ => pure { jobId }
  | .error error => enqueueFailed session jobId snapshot error

/-- `submit` once the job row is committed. -/
def announceJob (session : Session) (target : ParsedRepoTarget) (request : ResearchRequest)
    (rawContext : RepositoryRawContext) (jobId : JobId) : Coroutine JobAcceptedResponse := do
  let now ← await .now
  let snapshot := pendingSnapshot jobId now rawContext.instantData
  await (.setState snapshot)
  let cacheKey := buildAiCacheKey target.owner target.repo rawContext.commitSha
  match ← await (.getCachedAiResult cacheKey) with
  | some cachedAi => completeFromCache session jobId rawContext snapshot cachedAi
  | none => enqueueJob session target request jobId snapshot

/-- `submit` from the choice of the job id on. -/
def registerJob (target : ParsedRepoTarget) (request : ResearchRequest)
    (rawContext : RepositoryRawContext) : Coroutine JobAcceptedResponse := do
  let jobId ← await .uuid4
  let session ← createJobRecord .empty (pendingRecord target rawContext jobId)
  announceJob session target request rawContext jobId

/-- `ResearchOrchestrationService.submit`. -/
def submit (env : Environment) (request : ResearchRequest) : Coroutine JobAcceptedResponse := do
  let target ← Program.ofExcept (parseGithubRepositoryUrl env.urlLibrary request.url)
  let rawContext ← await (.fetchRepositoryContext target)
  registerJob target request rawContext

/-! ## The operations of a submission -/

/-- What every snapshot says that `submit` writes. -/
structure ResearchJobStateSnapshot.OfSubmission (jobId : JobId)
    (snapshot : ResearchJobStateSnapshot) : Prop where
  named : snapshot.jobId = jobId
  carries : snapshot.instantData.isSome
  unflagged : snapshot.aiFallback = none
  unexplained : snapshot.aiFallbackReason = none
  error : snapshot.error.isSome ↔ snapshot.status = .failed

/-- The operations of `submit` once the job has its row. -/
def Op.IsSubmission (jobId : JobId) : Op → Prop
  | .now => True
  | .getCachedAiResult _ => True
  | .setState snapshot => snapshot.OfSubmission jobId
  | .selectJob id => id = jobId
  | .updateJob id _ => id = jobId
  | .refreshJob id => id = jobId
  | .selectReport id => id = jobId
  | .insertReport record => record.jobId = jobId
  | .updateReport id _ => id = jobId
  | .refreshReport id => id = jobId
  | .send message => message.jobId = jobId
  | _ => False

theorem uses_completeFromCache (session : Session) (jobId : JobId)
    (rawContext : RepositoryRawContext) (now : DateTime) (cachedAi : StructuredAIResponse) :
    (completeFromCache session jobId rawContext
      (pendingSnapshot jobId now rawContext.instantData) cachedAi).Uses
        (Op.IsSubmission jobId) := by
  apply Program.Uses.perform_bind
  · trivial
  intro createdAt
  apply Program.Uses.bind
  · exact uses_saveFinalReport _ _ _ rfl trivial (fun _ => rfl) (fun _ => rfl) rfl
  intro saved
  apply Program.Uses.bind
  · exact uses_updateJobStatus _ _ _ rfl (fun _ => rfl) rfl
  intro updated
  apply Program.Uses.perform_bind
  · trivial
  intro later
  apply Program.Uses.perform_bind
  · exact ⟨rfl, rfl, rfl, rfl, iff_of_false nofun nofun⟩
  intro _
  exact Program.uses_pure _

theorem uses_enqueueFailed (session : Session) (jobId : JobId) (now : DateTime)
    (instantData : InstantMetadata) (error : Exn) :
    (enqueueFailed session jobId (pendingSnapshot jobId now instantData) error).Uses
      (Op.IsSubmission jobId) := by
  apply Program.Uses.bind
  · exact uses_updateJobStatus _ _ _ rfl (fun _ => rfl) rfl
  intro updated
  apply Program.Uses.perform_bind
  · trivial
  intro later
  apply Program.Uses.perform_bind
  · exact ⟨rfl, rfl, rfl, rfl, iff_of_true rfl rfl⟩
  intro _
  exact Program.uses_raise _

theorem uses_announceJob (session : Session) (target : ParsedRepoTarget)
    (request : ResearchRequest) (rawContext : RepositoryRawContext) (jobId : JobId) :
    (announceJob session target request rawContext jobId).Uses (Op.IsSubmission jobId) := by
  apply Program.Uses.perform_bind
  · trivial
  intro now
  apply Program.Uses.perform_bind
  · exact ⟨rfl, rfl, rfl, rfl, iff_of_false nofun nofun⟩
  intro _
  apply Program.Uses.perform_bind
  · trivial
  intro cached
  cases cached with
  | some cachedAi => exact uses_completeFromCache _ _ _ _ _
  | none =>
      apply Program.Uses.perform_bind
      · trivial
      intro enqueuedAt
      apply Program.Uses.bind
      · exact Program.Uses.attempt (.perform rfl)
      intro sent
      cases sent with
      | ok _ => exact Program.uses_pure _
      | error error => exact uses_enqueueFailed _ _ _ _ _

/-- The operations of `submit`, whatever id the job gets. -/
def Op.IsSubmit : Op → Prop
  | .fetchRepositoryContext _ => True
  | .uuid4 => True
  | .insertJob record => ∃ target rawContext jobId, record = pendingRecord target rawContext jobId
  | op => ∃ jobId, op.IsSubmission jobId

theorem Op.IsSubmission.isSubmit {jobId : JobId} {op : Op} (submission : op.IsSubmission jobId) :
    op.IsSubmit := by
  cases op with
  | fetchRepositoryContext | uuid4 => trivial
  | insertJob record => cases submission
  | _ => exact ⟨jobId, submission⟩

theorem uses_registerJob (target : ParsedRepoTarget) (request : ResearchRequest)
    (rawContext : RepositoryRawContext) :
    (registerJob target request rawContext).Uses Op.IsSubmit := by
  apply Program.Uses.perform_bind
  · trivial
  intro jobId
  apply Program.Uses.bind
  · apply Program.Uses.perform_bind
    · exact ⟨target, rawContext, jobId, rfl⟩
    intro _
    apply Program.Uses.perform_bind
    · exact ⟨jobId, rfl⟩
    intro refreshed
    exact Program.uses_pure _
  intro session
  exact (uses_announceJob session target request rawContext jobId).mono
    fun _ => Op.IsSubmission.isSubmit

theorem uses_submit (env : Environment) (request : ResearchRequest) :
    (submit env request).Uses Op.IsSubmit := by
  unfold submit
  generalize parseGithubRepositoryUrl env.urlLibrary request.url = parsed
  apply Program.Uses.bind
  · exact Program.uses_ofExcept _
  intro target
  apply Program.Uses.perform_bind
  · trivial
  intro rawContext
  exact uses_registerJob target request rawContext

end ResearchTool
