import ResearchTool.ContextSanitizer
import ResearchTool.Crud
import ResearchTool.ReportRenderer
import ResearchTool.UrlValidator

/-!
# The research pipeline

`execute_research_pipeline`, cut at its milestones: the processing status, the
fetched context, the analysis and the completion.
-/

namespace ResearchTool

open Process

/-- What the deployment fixes: the settings, and the library functions that
the model does not compute. -/
structure Environment where
  settings : Settings := {}
  urlLibrary : Python.UrlLibrary
  renderField : FieldRenderer
  /-- the message of the `ValidationError` with which `model_validate_json`
  refuses the text of a job message, if it does -/
  refusal : ResearchJobMessage → Option String := fun _ => none

/-- The snapshot of a job in progress. -/
def processingSnapshot (jobId : JobId) (progressMsg : String) (now : DateTime)
    (instantData : Option InstantMetadata) : ResearchJobStateSnapshot where
  jobId := jobId
  status := .processing
  progressMsg := progressMsg
  updatedAt := now
  instantData := instantData

/-- `limitations` extended by the warning messages not already among them. -/
def extendLimitations (limitations : List String) (warnings : List PartialAnalysisWarning) :
    List String :=
  warnings.foldl
    (fun existing warning =>
      if existing.contains warning.message then existing else existing ++ [warning.message])
    limitations

/-- The warnings of the prompt become limitations of the insights. -/
def mergeWarnings (insights : StructuredAIResponse) (warnings : List PartialAnalysisWarning) :
    StructuredAIResponse :=
  if warnings.isEmpty then insights
  else
    { insights with
      securityHealth := { insights.securityHealth with
        limitations := extendLimitations insights.securityHealth.limitations warnings } }

/-- What the analysis stage leaves in `ai_insights` and `ai_fallback_reason`. -/
structure Analysis where
  aiInsights : Option StructuredAIResponse
  aiFallbackReason : Option String
  deriving DecidableEq, Repr

/-- `except (LLMUnavailableError, ContentPolicyError)`: `aiInsights` is what had
been assigned when the exception was raised. -/
def recoverAnalysis (aiInsights : Option StructuredAIResponse) (error : Exn) :
    Coroutine Analysis :=
  if error.isAnalysisFault then
    pure { aiInsights, aiFallbackReason := some error.str }
  else
    Program.raise error

/-- The `try` statement around the language model. -/
def analyzeRepository (payload : LLMPromptPayload) (cacheKey : String) : Coroutine Analysis := do
  match ← Program.attempt (await (.analyze payload)) with
  | .error error => recoverAnalysis none error
  | .ok insights =>
      let insights := mergeWarnings insights payload.warnings
      match ← Program.attempt (await (.setCachedAiResult cacheKey insights)) with
      | .error error => recoverAnalysis (some insights) error
      | .ok _ => pure { aiInsights := some insights, aiFallbackReason := none }

/-- `analyzeRepository` as the sequence of its calls. -/
theorem analyzeRepository_eq (payload : LLMPromptPayload) (cacheKey : String) :
    analyzeRepository payload cacheKey =
      .call (.analyze payload) fun
        | .error error => recoverAnalysis none error
        | .ok insights =>
            .call (.setCachedAiResult cacheKey (mergeWarnings insights payload.warnings)) fun
              | .error error =>
                  recoverAnalysis (some (mergeWarnings insights payload.warnings)) error
              | .ok _ => .pure {
                  aiInsights := some (mergeWarnings insights payload.warnings)
                  aiFallbackReason := none
                } := by
  apply (Program.attempt_perform_bind _ _).trans
  congr 1
  funext reply
  cases reply with
  | error error => rfl
  | ok insights =>
      apply (Program.attempt_perform_bind _ _).trans
      congr 1
      funext reply
      cases reply <;> rfl

theorem recoverAnalysis_of_fault {error : Exn} (fault : error.isAnalysisFault = true)
    (aiInsights : Option StructuredAIResponse) :
    recoverAnalysis aiInsights error = .pure ⟨aiInsights, some error.str⟩ :=
  if_pos fault

/-- The analysis stage: a cached result, or a prompt for the language model. -/
def analysisStage (env : Environment) (jobId : JobId) (rawContext : RepositoryRawContext)
    (cacheKey : String) : Coroutine Analysis := do
  match ← await (.getCachedAiResult cacheKey) with
  | some insights => pure { aiInsights := some insights, aiFallbackReason := none }
  | none =>
      let payload ← Program.ofExcept
        (buildPromptPayload env.renderField env.settings.aiTokenBudget rawContext)
      let now ← await .now
      await (.setState
        (processingSnapshot jobId "Running AI analysis" now (some rawContext.instantData)))
      analyzeRepository payload cacheKey

/-- The analysis stage and what follows as the sequence of their calls. -/
theorem analysisStage_bind {α : Type} (env : Environment) (jobId : JobId)
    (rawContext : RepositoryRawContext) (cacheKey : String) (next : Analysis → Coroutine α) :
    (analysisStage env jobId rawContext cacheKey).bind next =
      (await (.getCachedAiResult cacheKey)).bind fun
        | some insights => next ⟨some insights, none⟩
        | none =>
            (Program.ofExcept (buildPromptPayload env.renderField env.settings.aiTokenBudget
              rawContext)).bind fun payload =>
                (await .now).bind fun now =>
                  (await (.setState (processingSnapshot jobId "Running AI analysis" now
                    (some rawContext.instantData)))).bind fun _ =>
                      (analyzeRepository payload cacheKey).bind next := by
  apply (Program.bind_assoc _ _ _).trans
  congr 1
  funext cached
  cases cached with
  | some insights => rfl
  | none =>
      generalize buildPromptPayload env.renderField env.settings.aiTokenBudget rawContext = prompt
      apply (Program.bind_assoc _ _ _).trans
      congr 1
      funext payload
      exact (Program.bind_assoc _ _ _).trans
        (congrArg _ (funext fun now => Program.bind_assoc _ _ _))

/-- `bool(reason)` for an optional string. -/
def isTruthy (value : Option String) : Bool :=
  match value with
  | some text => text ≠ ""
  | none => false

/-- The progress message of a completed job. -/
def completionMessage (aiFallbackReason : Option String) : String :=
  if isTruthy aiFallbackReason then "Completed with deterministic fallback"
  else "Research completed"

/-- The columns of the report row that the pipeline saves. -/
def reportContent (report : ResearchReport) (commitSha : String)
    (aiFallbackReason : Option String) : ReportContent where
  repositoryUrl := report.repositoryUrl
  commitSha := some commitSha
  deterministicData := report.deterministicData
  aiInsights := report.aiInsights
  aiFallback := isTruthy aiFallbackReason
  aiFallbackReason := aiFallbackReason
  markdownReport := report.markdownReport

/-- The snapshot of a completed job. -/
def completedSnapshot (jobId : JobId) (now : DateTime) (instantData : InstantMetadata)
    (aiFallbackReason : Option String) : ResearchJobStateSnapshot where
  jobId := jobId
  status := .completed
  progressMsg := completionMessage aiFallbackReason
  updatedAt := now
  instantData := some instantData
  aiFallback := some (isTruthy aiFallbackReason)
  aiFallbackReason := aiFallbackReason

/-- From the report to the completed snapshot. -/
def completionStage (session : Session) (jobId : JobId) (rawContext : RepositoryRawContext)
    (cacheKey : String) (analysis : Analysis) : Coroutine Unit := do
  let createdAt ← await .now
  let report := buildResearchReport createdAt jobId rawContext analysis.aiInsights
    analysis.aiFallbackReason
  let session ← saveFinalReport session jobId
    (reportContent report rawContext.commitSha analysis.aiFallbackReason)
  let _ ← updateJobStatus session jobId {
    status := some .completed
    progressMsg := some (completionMessage analysis.aiFallbackReason)
    error := some none
    aiCacheKey := some (some cacheKey)
  }
  let now ← await .now
  await (.setState
    (completedSnapshot jobId now rawContext.instantData analysis.aiFallbackReason))

/-- The body of `async with session_factory() as session`. -/
def pipelineSession (env : Environment) (jobId : JobId) (target : ParsedRepoTarget)
    (session : Session) : Coroutine Unit := do
  let session ← updateJobStatus session jobId {
    status := some .processing
    progressMsg := some "Fetching GitHub data"
    error := some none
  }
  let rawContext ← await (.fetchRepositoryContext target)
  let cacheKey := buildAiCacheKey target.owner target.repo rawContext.commitSha
  let now ← await .now
  await (.setState
    (processingSnapshot jobId "Preparing AI analysis" now (some rawContext.instantData)))
  let session ← updateJobStatus session jobId {
    commitSha := some (some rawContext.commitSha)
    instantData := some (some rawContext.instantData)
    progressMsg := some "Preparing AI analysis"
    aiCacheKey := some (some cacheKey)
  }
  let analysis ← analysisStage env jobId rawContext cacheKey
  completionStage session jobId rawContext cacheKey analysis

/-- `execute_research_pipeline`. -/
def executeResearchPipeline (env : Environment) (message : ResearchJobMessage) :
    Coroutine Unit := do
  let target ← Program.ofExcept (parseGithubRepositoryUrl env.urlLibrary message.repoUrl)
  let existingState ← await (.getState message.jobId)
  let now ← await .now
  await (.setState (processingSnapshot message.jobId "Fetching GitHub data" now
    (existingState.bind ResearchJobStateSnapshot.instantData)))
  withSession (pipelineSession env message.jobId target)

/-- What every snapshot says that the pipeline writes once it has fetched the
repository. -/
structure ResearchJobStateSnapshot.OfSession (jobId : JobId)
    (snapshot : ResearchJobStateSnapshot) : Prop where
  named : snapshot.jobId = jobId
  carries : snapshot.instantData.isSome
  unfailed : snapshot.status ≠ .failed
  error : snapshot.error = none

/-- The operations of the analysis stage. -/
def Op.IsAnalysis (jobId : JobId) : Op → Prop
  | .now => True
  | .getCachedAiResult _ => True
  | .setCachedAiResult _ _ => True
  | .analyze _ => True
  | .setState snapshot => snapshot.OfSession jobId ∧ snapshot.status = .processing
  | _ => False

theorem uses_recoverAnalysis {allowed : Op → Prop} (aiInsights : Option StructuredAIResponse)
    (error : Exn) : (recoverAnalysis aiInsights error).Uses allowed := by
  unfold recoverAnalysis
  split
  · exact Program.uses_pure _
  · exact Program.uses_raise _

theorem uses_analyzeRepository (jobId : JobId) (payload : LLMPromptPayload) (cacheKey : String) :
    (analyzeRepository payload cacheKey).Uses (Op.IsAnalysis jobId) := by
  refine Program.Uses.bind (Program.Uses.attempt (.perform trivial)) fun analyzed => ?_
  cases analyzed with
  | error error => exact uses_recoverAnalysis _ _
  | ok insights =>
      refine Program.Uses.bind (Program.Uses.attempt (.perform trivial)) fun cached => ?_
      cases cached with
      | error error => exact uses_recoverAnalysis _ _
      | ok _ => exact Program.uses_pure _

theorem uses_analysisStage (env : Environment) (jobId : JobId)
    (rawContext : RepositoryRawContext) (cacheKey : String) :
    (analysisStage env jobId rawContext cacheKey).Uses (Op.IsAnalysis jobId) := by
  unfold analysisStage
  -- whatever prompt is built
  generalize buildPromptPayload env.renderField env.settings.aiTokenBudget rawContext = prompt
  refine Program.Uses.bind (.perform trivial) fun cached => ?_
  cases cached with
  | some insights => exact Program.uses_pure _
  | none =>
      refine Program.Uses.bind (Program.uses_ofExcept _) fun payload => ?_
      refine Program.Uses.bind (.perform trivial) fun now => ?_
      exact Program.Uses.bind (.perform ⟨⟨rfl, rfl, nofun, rfl⟩, rfl⟩) fun _ =>
        uses_analyzeRepository _ _ _

/-- The operations of the pipeline of a job in its session. -/
def Op.IsSession (jobId : JobId) : Op → Prop
  | .now => True
  | .fetchRepositoryContext _ => True
  | .analyze _ => True
  | .setState snapshot => snapshot.OfSession jobId
  | .getCachedAiResult _ => True
  | .setCachedAiResult _ _ => True
  | .selectJob id => id = jobId
  | .updateJob id _ => id = jobId
  | .refreshJob id => id = jobId
  | .selectReport id => id = jobId
  | .insertReport record => record.jobId = jobId
  | .updateReport id _ => id = jobId
  | .refreshReport id => id = jobId
  | .closeSession => True
  | _ => False

theorem Op.IsAnalysis.isSession {jobId : JobId} {op : Op} (analysis : op.IsAnalysis jobId) :
    op.IsSession jobId := by
  cases op with
  | setState snapshot => exact analysis.1
  | now | getCachedAiResult | setCachedAiResult | analyze => trivial
  | _ => cases analysis

/-- The operations of the pipeline of a job. -/
def Op.IsPipeline (jobId : JobId) : Op → Prop
  | .now => True
  | .fetchRepositoryContext _ => True
  | .analyze _ => True
  | .getState id => id = jobId
  | .setState snapshot => snapshot.jobId = jobId
  | .getCachedAiResult _ => True
  | .setCachedAiResult _ _ => True
  | .selectJob id => id = jobId
  | .updateJob id _ => id = jobId
  | .refreshJob id => id = jobId
  | .selectReport id => id = jobId
  | .insertReport record => record.jobId = jobId
  | .updateReport id _ => id = jobId
  | .refreshReport id => id = jobId
  | .closeSession => True
  | _ => False

theorem Op.IsSession.isPipeline {jobId : JobId} {op : Op} (session : op.IsSession jobId) :
    op.IsPipeline jobId := by
  cases op with
  | setState snapshot => exact session.named
  | uuid4 | getState | insertJob | send | delete | changeVisibility => cases session
  | _ => exact session

theorem uses_completionStage (session : Session) (jobId : JobId)
    (rawContext : RepositoryRawContext) (cacheKey : String) (analysis : Analysis) :
    (completionStage session jobId rawContext cacheKey analysis).Uses (Op.IsSession jobId) := by
  apply Program.Uses.perform_bind
  · trivial
  intro createdAt
  apply Program.Uses.bind
  · exact uses_saveFinalReport _ _ _ rfl trivial (fun _ => rfl) (fun _ => rfl) rfl
  intro saved
  apply Program.Uses.bind
  · exact uses_updateJobStatus _ _ _ rfl (fun _ => rfl) rfl
  intro updated
  apply Program.Uses.perform_bind
  · trivial
  intro now
  exact Program.Uses.perform ⟨rfl, rfl, nofun, rfl⟩

theorem uses_pipelineSession (env : Environment) (jobId : JobId) (target : ParsedRepoTarget)
    (session : Session) :
    (pipelineSession env jobId target session).Uses (Op.IsSession jobId) := by
  apply Program.Uses.bind
  · exact uses_updateJobStatus _ _ _ rfl (fun _ => rfl) rfl
  intro started
  apply Program.Uses.perform_bind
  · trivial
  intro rawContext
  apply Program.Uses.perform_bind
  · trivial
  intro now
  apply Program.Uses.perform_bind
  · exact ⟨rfl, rfl, nofun, rfl⟩
  intro _
  apply Program.Uses.bind
  · exact uses_updateJobStatus _ _ _ rfl (fun _ => rfl) rfl
  intro prepared
  apply Program.Uses.bind
  · exact (uses_analysisStage env jobId rawContext _).mono fun _ => Op.IsAnalysis.isSession
  intro analysis
  exact uses_completionStage _ _ _ _ _

theorem uses_executeResearchPipeline (env : Environment) (message : ResearchJobMessage) :
    (executeResearchPipeline env message).Uses (Op.IsPipeline message.jobId) := by
  unfold executeResearchPipeline
  generalize parseGithubRepositoryUrl env.urlLibrary message.repoUrl = parsed
  apply Program.Uses.bind
  · exact Program.uses_ofExcept _
  intro target
  apply Program.Uses.perform_bind
  · rfl
  intro existing
  apply Program.Uses.perform_bind
  · trivial
  intro now
  apply Program.Uses.perform_bind
  · rfl
  intro _
  exact (uses_withSession (uses_pipelineSession _ _ _ _) trivial).mono fun _ =>
    Op.IsSession.isPipeline

end ResearchTool
