import ResearchTool.Company
import ResearchTool.Service

/-!
# Cache hits

A fresh analysis merges the warnings of its prompt into the insights and then
caches them.  As long as the entry lives, a submission or a pipeline that finds
it stores the very report of the fresh analysis and does not ask the language
model.
-/

namespace ResearchTool

open Process

/-! ## Merged warnings -/

/-- The insights are those of the answer, but for limitations that go on with
every new warning message, once each and in order. -/
structure StructuredAIResponse.Extends (merged answer : StructuredAIResponse)
    (warnings : List PartialAnalysisWarning) : Prop where
  limitations : ∃ added,
    merged.securityHealth.limitations = answer.securityHealth.limitations ++ added ∧
      added.Nodup ∧ added.Sublist (warnings.map PartialAnalysisWarning.message) ∧
      ∀ message, message ∈ added ↔
        message ∈ warnings.map PartialAnalysisWarning.message ∧
          message ∉ answer.securityHealth.limitations
  others : merged = { answer with
    securityHealth := { answer.securityHealth with
      limitations := merged.securityHealth.limitations } }

/-- The loop over the warnings, from the limitations it has reached. -/
theorem extendLimitations_spec (limitations : List String)
    (warnings : List PartialAnalysisWarning) :
    ∃ added, extendLimitations limitations warnings = limitations ++ added ∧ added.Nodup ∧
      added.Sublist (warnings.map PartialAnalysisWarning.message) ∧
      ∀ message, message ∈ added ↔
        message ∈ warnings.map PartialAnalysisWarning.message ∧ message ∉ limitations := by
  induction warnings generalizing limitations with
  | nil => exact ⟨[], by simp [extendLimitations]⟩
  | cons warning rest ih =>
      by_cases known : warning.message ∈ limitations
      · have step : extendLimitations limitations (warning :: rest) =
            extendLimitations limitations rest := by
          simp [extendLimitations, known]
        obtain ⟨added, extended, distinct, ordered, listed⟩ := ih limitations
        refine ⟨added, step.trans extended, distinct, ordered.cons _, ?_⟩
        intro message
        rw [listed, List.map_cons, List.mem_cons]
        constructor
        · rintro ⟨member, new⟩
          exact ⟨.inr member, new⟩
        · rintro ⟨rfl | member, new⟩
          · exact absurd known new
          · exact ⟨member, new⟩
      · have step : extendLimitations limitations (warning :: rest) =
            extendLimitations (limitations ++ [warning.message]) rest := by
          simp [extendLimitations, known]
        obtain ⟨added, extended, distinct, ordered, listed⟩ :=
          ih (limitations ++ [warning.message])
        refine ⟨warning.message :: added, ?_, ?_, ordered.cons_cons _, ?_⟩
        · rw [step, extended, List.append_assoc]
          rfl
        · rw [List.nodup_cons]
          refine ⟨?_, distinct⟩
          intro again
          have new := ((listed _).mp again).2
          simp at new
        · intro message
          rw [List.mem_cons, listed, List.map_cons, List.mem_cons, List.mem_append,
            List.mem_singleton]
          constructor
          · rintro (rfl | ⟨member, new⟩)
            · exact ⟨.inl rfl, known⟩
            · exact ⟨.inr member, fun old => new (.inl old)⟩
          · rintro ⟨rfl | member, new⟩
            · exact .inl rfl
            · by_cases same : message = warning.message
              · exact .inl same
              · exact .inr ⟨member, by simp [new, same]⟩

theorem mergeWarnings_extends (answer : StructuredAIResponse)
    (warnings : List PartialAnalysisWarning) :
    (mergeWarnings answer warnings).Extends answer warnings := by
  have merged : mergeWarnings answer warnings = { answer with
      securityHealth := { answer.securityHealth with
        limitations := extendLimitations answer.securityHealth.limitations warnings } } := by
    cases warnings <;> rfl
  rw [merged]
  exact ⟨extendLimitations_spec _ _, rfl⟩

/-! ## Bookkeeping -/

/-- The operation fetches no context and has nothing to do with the analysis. -/
def Op.IsBookkeeping : Op → Prop
  | .fetchRepositoryContext _ => False
  | .getCachedAiResult _ => False
  | .setCachedAiResult _ _ => False
  | .analyze _ => False
  | _ => True

def Bookkeeping (trace : List (Event Ops Exn)) : Prop :=
  ∀ event ∈ trace, event.op.IsBookkeeping

theorem bookkeeping_nil : Bookkeeping [] := by
  intro event member
  cases member

theorem Bookkeeping.append {first second : List (Event Ops Exn)} (before : Bookkeeping first)
    (after : Bookkeeping second) : Bookkeeping (first ++ second) := by
  intro event member
  rcases List.mem_append.mp member with earlier | later
  · exact before event earlier
  · exact after event later

namespace CacheHits

variable {α β : Type} {jobId : JobId} {state : Store}

/-- What is said of a run says nothing about exceptions, and stays true if
bookkeeping comes before it. -/
structure Tolerant (post : List (Event Ops Exn) → Except Exn α → Store → Prop) : Prop where
  raised : ∀ trace error final, post trace (.error error) final
  prepend : ∀ {earlier later result final}, Bookkeeping earlier → post later result final →
    post (earlier ++ later) result final

variable {post : List (Event Ops Exn) → Except Exn α → Store → Prop}

theorem Tolerant.await_bind (tolerant : Tolerant post) {op : Op} {next : op.Reply → Coroutine α}
    (quiet : op.IsBookkeeping)
    (rest : ∀ value middle, besideOthers jobId op state (.ok value) middle →
      (next value).Always (besideOthers jobId) middle post) :
    ((await op).bind next).Always (besideOthers jobId) state post := by
  apply Program.always_perform_bind
  · intro value middle called
    apply (rest value middle called).mono
    intro trace result final holds
    have called : Bookkeeping [⟨op, .ok value⟩] := by
      intro event member
      rw [List.mem_singleton.mp member]
      exact quiet
    exact tolerant.prepend called holds
  · intro error middle _
    exact tolerant.raised _ _ _

theorem Tolerant.bind (tolerant : Tolerant post) {program : Coroutine β}
    {next : β → Coroutine α} {holds : Except Exn β → Store → Prop}
    (uses : program.Uses Op.IsBookkeeping)
    (always : program.Always (besideOthers jobId) state fun _ => holds)
    (rest : ∀ value middle, holds (.ok value) middle →
      (next value).Always (besideOthers jobId) middle post) :
    (program.bind next).Always (besideOthers jobId) state post := by
  apply Program.always_bind.mpr
  apply (always.uses uses).mono
  rintro trace outcome middle ⟨held, quiet⟩
  cases outcome with
  | error error => exact tolerant.raised _ _ _
  | ok value =>
      apply (rest value middle held).mono
      intro later result final later
      exact tolerant.prepend quiet later

theorem bookkeeping_updateJobStatus (session : Session) (changes : JobChanges) :
    (updateJobStatus session jobId changes).Uses Op.IsBookkeeping :=
  uses_updateJobStatus _ _ _ trivial (fun _ => trivial) trivial

theorem bookkeeping_saveFinalReport (session : Session) (content : ReportContent) :
    (saveFinalReport session jobId content).Uses Op.IsBookkeeping :=
  uses_saveFinalReport _ _ _ trivial trivial (fun _ => trivial) (fun _ => trivial) trivial

/-- A program that writes no report leaves the one of the job. -/
theorem always_reports {program : Coroutine α} (spares : program.Uses Op.SparesReports) :
    program.Always (besideOthers jobId) state
      fun _ _ final => final.reports jobId = state.reports jobId := by
  apply spares.always
  · rintro op before reply after spared ⟨now, outcome, same, called⟩ kept
    rw [(written_of_exec called).sparesReports spared, same.report, kept]
  · rfl

/-! ## How a pipeline ends -/

/-- The calls of an analysis stage that returns. -/
inductive AnalysisCalls (cacheKey : String) : List (Event Ops Exn) → Analysis → Prop where
  | hit (insights : StructuredAIResponse) :
      AnalysisCalls cacheKey [⟨.getCachedAiResult cacheKey, .ok (some insights)⟩]
        ⟨some insights, none⟩
  | fresh (payload : LLMPromptPayload) (answer : StructuredAIResponse)
      {between : List (Event Ops Exn)} (quiet : Bookkeeping between) :
      AnalysisCalls cacheKey (⟨.getCachedAiResult cacheKey, .ok none⟩ :: between ++
        [⟨.analyze payload, .ok answer⟩,
          ⟨.setCachedAiResult cacheKey (mergeWarnings answer payload.warnings), .ok ()⟩])
        ⟨some (mergeWarnings answer payload.warnings), none⟩
  | unavailable (payload : LLMPromptPayload) (error : Exn) {between : List (Event Ops Exn)}
      (quiet : Bookkeeping between) :
      AnalysisCalls cacheKey (⟨.getCachedAiResult cacheKey, .ok none⟩ :: between ++
        [⟨.analyze payload, .error error⟩]) ⟨none, some error.str⟩

/-- Redis raises none of the exceptions the analysis is expected to raise. -/
theorem not_fault_of_setCached {cacheKey : String} {insights : StructuredAIResponse}
    {before after : Store} {error : Exn}
    (called : besideOthers jobId (.setCachedAiResult cacheKey insights) before
      (.error error) after) :
    error.isAnalysisFault = false := by
  obtain ⟨now, outcome, -, called⟩ := called
  rcases exec_error called with ⟨supply, -, answered⟩ | ⟨-, allowed⟩
  · cases (answer_setCachedAiResult answered).1
  · cases error with
    | llmUnavailable | contentPolicy => cases allowed
    | _ => rfl

theorem always_analyzeRepository (payload : LLMPromptPayload) (cacheKey : String) :
    (analyzeRepository payload cacheKey).Always (besideOthers jobId) state
      fun trace result _ => ∀ analysis, result = .ok analysis →
        (∃ answer, trace = [⟨.analyze payload, .ok answer⟩,
            ⟨.setCachedAiResult cacheKey (mergeWarnings answer payload.warnings), .ok ()⟩] ∧
          analysis = ⟨some (mergeWarnings answer payload.warnings), none⟩) ∨
        ∃ error, trace = [⟨.analyze payload, .error error⟩] ∧
          analysis = ⟨none, some error.str⟩ := by
  rw [analyzeRepository_eq, Program.always_call]
  intro reply middle _
  cases reply with
  | error error =>
      by_cases fault : error.isAnalysisFault = true
      · dsimp only
        rw [recoverAnalysis_of_fault fault, Program.always_pure]
        rintro analysis ⟨⟩
        exact .inr ⟨error, rfl, rfl⟩
      · dsimp only
        rw [recoverAnalysis, if_neg fault, Program.always_raise]
        exact nothing_returned
  | ok answer =>
      rw [Program.always_call]
      intro cached after called
      cases cached with
      | error error =>
          dsimp only
          rw [recoverAnalysis, not_fault_of_setCached called, if_neg Bool.false_ne_true,
            Program.always_raise]
          exact nothing_returned
      | ok value =>
          rw [Program.always_pure]
          rintro analysis ⟨⟩
          exact .inl ⟨answer, rfl, rfl⟩

theorem always_analysisStage (env : Environment) (rawContext : RepositoryRawContext)
    (cacheKey : String) :
    (analysisStage env jobId rawContext cacheKey).Always (besideOthers jobId) state
      fun trace result _ => ∀ analysis, result = .ok analysis →
        AnalysisCalls cacheKey trace analysis := by
  unfold analysisStage
  generalize buildPromptPayload env.renderField env.settings.aiTokenBudget rawContext = prompt
  apply Program.always_perform_bind
  · intro cached middle _
    cases cached with
    | some insights =>
        apply Program.always_pure.mpr
        rintro analysis ⟨⟩
        exact .hit insights
    | none =>
        cases prompt with
        | error error => exact Program.always_raise.mpr nothing_returned
        | ok payload =>
            apply Program.always_perform_bind
            · intro now middle _
              apply Program.always_perform_bind
              · intro _ middle _
                apply (always_analyzeRepository payload cacheKey).mono
                intro trace result final ended analysis returned
                have quiet : Bookkeeping [⟨.now, .ok now⟩,
                    ⟨.setState (processingSnapshot jobId "Running AI analysis" now
                      (some rawContext.instantData)), .ok ()⟩] := by
                  intro event member
                  simp only [List.mem_cons, List.not_mem_nil, or_false] at member
                  rcases member with rfl | rfl <;> trivial
                rcases ended analysis returned with ⟨answer, rfl, rfl⟩ | ⟨error, rfl, rfl⟩
                · exact .fresh payload answer quiet
                · exact .unavailable payload error quiet
              · intro error middle _
                exact nothing_returned
            · intro error middle _
              exact nothing_returned
  · intro error middle _
    exact nothing_returned

/-- The columns of a report that depend on the context and the analysis, which
are all of them. -/
def analysisContent (rawContext : RepositoryRawContext) (analysis : Analysis) : ReportContent where
  repositoryUrl := rawContext.repositoryUrl
  commitSha := some rawContext.commitSha
  deterministicData := rawContext.instantData
  aiInsights := analysis.aiInsights
  aiFallback := isTruthy analysis.aiFallbackReason
  aiFallbackReason := analysis.aiFallbackReason
  markdownReport := buildMarkdownReport rawContext analysis.aiInsights analysis.aiFallbackReason

def StoresReport (jobId : JobId) (content : ReportContent) (store : Store) : Prop :=
  ∃ record, store.reports jobId = some record ∧ record.content = content

theorem StoresReport.of_reports {content : ReportContent} {before after : Store}
    (stores : StoresReport jobId content before)
    (same : after.reports jobId = before.reports jobId) : StoresReport jobId content after := by
  obtain ⟨record, stored, written⟩ := stores
  exact ⟨record, same.trans stored, written⟩

/-- Saving the report, and then a program that writes no other. -/
theorem always_saved {session : Session} {content : ReportContent} {next : Session → Coroutine α}
    (unloaded : session.reports jobId = none)
    (spares : ∀ saved, (next saved).Uses Op.SparesReports) :
    ((saveFinalReport session jobId content).bind next).Always (besideOthers jobId) state
      fun _ result final => ∀ value, result = .ok value → StoresReport jobId content final := by
  apply Program.always_bind.mpr
  apply (always_saveFinalReport content unloaded).mono
  intro trace outcome middle saved
  cases outcome with
  | error error => exact nothing_returned
  | ok session =>
      obtain ⟨record, stored, written⟩ := saved session rfl
      apply (always_reports (spares session)).mono
      intro later result final same value _
      exact ⟨record, same.trans stored, written⟩

theorem always_completionStage {session : Session} (rawContext : RepositoryRawContext)
    (cacheKey : String) (analysis : Analysis) (unloaded : session.reports jobId = none) :
    (completionStage session jobId rawContext cacheKey analysis).Always (besideOthers jobId) state
      fun _ result final => ∀ value, result = .ok value →
        StoresReport jobId (analysisContent rawContext analysis) final := by
  apply Program.always_perform_bind
  · intro createdAt middle _
    apply always_saved unloaded
    intro saved
    apply Program.Uses.bind
    · exact uses_updateJobStatus _ _ _ trivial (fun _ => trivial) trivial
    intro updated
    apply Program.Uses.perform_bind
    · trivial
    intro now
    exact Program.Uses.perform trivial
  · intro error middle _
    exact nothing_returned

theorem bookkeeping_completionStage (session : Session) (rawContext : RepositoryRawContext)
    (cacheKey : String) (analysis : Analysis) :
    (completionStage session jobId rawContext cacheKey analysis).Uses Op.IsBookkeeping := by
  apply Program.Uses.perform_bind
  · trivial
  intro createdAt
  apply (bookkeeping_saveFinalReport _ _).bind
  intro saved
  apply (bookkeeping_updateJobStatus _ _).bind
  intro updated
  apply Program.Uses.perform_bind
  · trivial
  intro now
  exact Program.Uses.perform trivial

/-- A returned analysis stage among bookkeeping, and its report. -/
def Concludes (jobId : JobId) (rawContext : RepositoryRawContext) (cacheKey : String)
    (trace : List (Event Ops Exn)) (result : Except Exn Unit) (final : Store) : Prop :=
  ∀ value, result = .ok value → ∃ analysis before stage after,
    trace = before ++ (stage ++ after) ∧ Bookkeeping before ∧
      AnalysisCalls cacheKey stage analysis ∧
      Bookkeeping after ∧ StoresReport jobId (analysisContent rawContext analysis) final

theorem tolerant_concludes (rawContext : RepositoryRawContext) (cacheKey : String) :
    Tolerant (Concludes jobId rawContext cacheKey) where
  raised _ _ _ := nothing_returned
  prepend := by
    rintro earlier later result final quiet concludes value returned
    obtain ⟨analysis, before, stage, after, rfl, rest, calls, behind, stores⟩ :=
      concludes value returned
    exact ⟨analysis, earlier ++ before, stage, after, by simp, quiet.append rest, calls,
      behind, stores⟩

/-- A fetched context and what follows from it, after bookkeeping. -/
def Fetched (jobId : JobId) (target : ParsedRepoTarget) (trace : List (Event Ops Exn))
    (result : Except Exn Unit) (final : Store) : Prop :=
  ∀ value, result = .ok value → ∃ rawContext before rest,
    trace = before ++ ⟨.fetchRepositoryContext target, .ok rawContext⟩ :: rest ∧
      Bookkeeping before ∧ Concludes jobId rawContext
        (buildAiCacheKey target.owner target.repo rawContext.commitSha) rest result final

theorem tolerant_fetched (target : ParsedRepoTarget) : Tolerant (Fetched jobId target) where
  raised _ _ _ := nothing_returned
  prepend := by
    rintro earlier later result final quiet fetched value returned
    obtain ⟨rawContext, before, rest, rfl, silent, concludes⟩ := fetched value returned
    exact ⟨rawContext, earlier ++ before, rest, by simp, quiet.append silent, concludes⟩

theorem always_pipelineSession (env : Environment) (target : ParsedRepoTarget) :
    (pipelineSession env jobId target .empty).Always (besideOthers jobId) state
      (Fetched jobId target) := by
  apply (tolerant_fetched target).bind (bookkeeping_updateJobStatus _ _)
    (always_updateJobStatus _ _)
  rintro session started ⟨-, unloaded⟩
  apply Program.always_perform_bind
  · intro rawContext fetched _
    have concludes : ∀ {program : Coroutine Unit},
        program.Always (besideOthers jobId) fetched (Concludes jobId rawContext
          (buildAiCacheKey target.owner target.repo rawContext.commitSha)) →
        program.Always (besideOthers jobId) fetched fun rest =>
          Fetched jobId target (⟨.fetchRepositoryContext target, .ok rawContext⟩ :: rest) := by
      intro program always
      apply always.mono
      intro trace result final concludes value returned
      exact ⟨rawContext, [], trace, rfl, bookkeeping_nil, concludes⟩
    apply concludes
    have tolerant : Tolerant (Concludes jobId rawContext
        (buildAiCacheKey target.owner target.repo rawContext.commitSha)) :=
      tolerant_concludes rawContext _
    apply tolerant.await_bind
    · trivial
    intro now later _
    apply tolerant.await_bind
    · trivial
    intro _ shown _
    apply tolerant.bind (bookkeeping_updateJobStatus _ _) (always_updateJobStatus _ _)
    rintro prepared updated ⟨-, same⟩
    have empty : prepared.reports jobId = none := by
      rw [same prepared rfl, unloaded session rfl]
      rfl
    apply Program.always_bind.mpr
    apply (always_analysisStage env rawContext _).mono
    intro stage outcome analysed calls
    cases outcome with
    | error error => exact nothing_returned
    | ok analysis =>
        apply ((always_completionStage rawContext _ analysis empty).uses
          (bookkeeping_completionStage _ _ _ _)).mono
        rintro after result final ⟨stores, quiet⟩ value returned
        exact ⟨analysis, [], stage, after, rfl, bookkeeping_nil,
          calls analysis rfl, quiet, stores value returned⟩
  · intro error middle _
    exact nothing_returned

/-- Closing the session is bookkeeping after the report. -/
theorem always_withSession {target : ParsedRepoTarget} {body : Session → Coroutine Unit}
    (always : (body .empty).Always (besideOthers jobId) state (Fetched jobId target)) :
    (withSession body).Always (besideOthers jobId) state (Fetched jobId target) := by
  rw [withSession_eq]
  apply Program.always_bind.mpr
  apply Program.always_attempt.mpr
  apply always.mono
  intro trace outcome middle fetched
  have spares : (((await .closeSession).bind fun _ => Program.ofExcept outcome) :
      Coroutine Unit).Uses Op.SparesReports :=
    .perform_bind trivial fun _ => Program.uses_ofExcept _
  have quiet : (((await .closeSession).bind fun _ => Program.ofExcept outcome) :
      Coroutine Unit).Uses Op.IsBookkeeping :=
    .perform_bind trivial fun _ => Program.uses_ofExcept _
  have ended : (((await .closeSession).bind fun _ => Program.ofExcept outcome) :
      Coroutine Unit).Always (besideOthers jobId) middle
        fun _ result _ => ∀ value, result = .ok value → outcome = .ok value := by
    apply Program.always_perform_bind
    · intro _ closed _
      cases outcome with
      | ok value => exact always_returned rfl
      | error error => exact Program.always_raise.mpr nothing_returned
    · intro error closed _
      exact nothing_returned
  apply (((always_reports spares).and ended).uses quiet).mono
  rintro closing result final ⟨⟨same, returned⟩, silent⟩ value done
  obtain ⟨rawContext, before, rest, rfl, early, concludes⟩ := fetched value (returned value done)
  refine ⟨rawContext, before, rest ++ closing, by simp, early, ?_⟩
  rintro other _
  obtain ⟨analysis, first, stage, after, rfl, prior, calls, later, stores⟩ :=
    concludes value (returned value done)
  exact ⟨analysis, first, stage, after ++ closing, by simp, prior, calls, later.append silent,
    stores.of_reports same⟩

theorem always_executeResearchPipeline (env : Environment) (message : ResearchJobMessage)
    {target : ParsedRepoTarget}
    (parsed : parseGithubRepositoryUrl env.urlLibrary message.repoUrl = .ok target) :
    (executeResearchPipeline env message).Always (besideOthers message.jobId) state
      (Fetched message.jobId target) := by
  unfold executeResearchPipeline
  rw [parsed]
  have tolerant : Tolerant (Fetched message.jobId target) := tolerant_fetched target
  apply tolerant.await_bind
  · trivial
  intro existing read _
  apply tolerant.await_bind
  · trivial
  intro now later _
  apply tolerant.await_bind
  · trivial
  intro _ shown _
  exact always_withSession (always_pipelineSession env target)

/-! ## How a submission ends -/

/-- A submission that returned has fetched a context and looked for a cached
analysis, and it has stored the report if there was one. -/
def Submitted (jobId : JobId) (rawContext : RepositoryRawContext) (cacheKey : String)
    (trace : List (Event Ops Exn)) (result : Except Exn JobAcceptedResponse) (final : Store) :
    Prop :=
  ∀ response, result = .ok response → response.jobId = jobId →
    ∃ cached before after,
      trace = before ++ ⟨.getCachedAiResult cacheKey, .ok cached⟩ :: after ∧
        Bookkeeping before ∧ Bookkeeping after ∧ ∀ insights, cached = some insights →
          StoresReport jobId (analysisContent rawContext ⟨some insights, none⟩) final

theorem tolerant_submitted (rawContext : RepositoryRawContext) (cacheKey : String) :
    Tolerant (Submitted jobId rawContext cacheKey) where
  raised := by
    rintro trace error final response impossible
    cases impossible
  prepend := by
    rintro earlier later result final quiet submitted response returned named
    obtain ⟨cached, before, after, rfl, silent, behind, stores⟩ :=
      submitted response returned named
    exact ⟨cached, earlier ++ before, after, by simp, quiet.append silent, behind, stores⟩

theorem always_completeFromCache {session : Session} (rawContext : RepositoryRawContext)
    (snapshot : ResearchJobStateSnapshot) (cachedAi : StructuredAIResponse)
    (unloaded : session.reports jobId = none) :
    (completeFromCache session jobId rawContext snapshot cachedAi).Always
      (besideOthers jobId) state
      fun _ result final => ∀ value, result = .ok value →
        StoresReport jobId (analysisContent rawContext ⟨some cachedAi, none⟩) final := by
  apply Program.always_perform_bind
  · intro createdAt middle _
    apply always_saved unloaded
    intro saved
    apply Program.Uses.bind
    · exact uses_updateJobStatus _ _ _ trivial (fun _ => trivial) trivial
    intro updated
    apply Program.Uses.perform_bind
    · trivial
    intro now
    apply Program.Uses.perform_bind
    · trivial
    intro _
    exact Program.uses_pure _
  · intro error middle _
    exact nothing_returned

theorem bookkeeping_completeFromCache (session : Session) (rawContext : RepositoryRawContext)
    (snapshot : ResearchJobStateSnapshot) (cachedAi : StructuredAIResponse) :
    (completeFromCache session jobId rawContext snapshot cachedAi).Uses Op.IsBookkeeping := by
  apply Program.Uses.perform_bind
  · trivial
  intro createdAt
  apply (bookkeeping_saveFinalReport _ _).bind
  intro saved
  apply (bookkeeping_updateJobStatus _ _).bind
  intro updated
  apply Program.Uses.perform_bind
  · trivial
  intro now
  apply Program.Uses.perform_bind
  · trivial
  intro _
  exact Program.uses_pure _

theorem bookkeeping_enqueueJob (session : Session) (target : ParsedRepoTarget)
    (request : ResearchRequest) (snapshot : ResearchJobStateSnapshot) :
    (enqueueJob session target request jobId snapshot).Uses Op.IsBookkeeping := by
  apply Program.Uses.perform_bind
  · trivial
  intro enqueuedAt
  apply Program.Uses.bind
  · exact Program.Uses.attempt (.perform trivial)
  intro sent
  cases sent with
  | ok _ => exact Program.uses_pure _
  | error error =>
      apply (bookkeeping_updateJobStatus _ _).bind
      intro updated
      apply Program.Uses.perform_bind
      · trivial
      intro now
      apply Program.Uses.perform_bind
      · trivial
      intro _
      exact Program.uses_raise _

theorem returns_completeFromCache (session : Session) (rawContext : RepositoryRawContext)
    (snapshot : ResearchJobStateSnapshot) (cachedAi : StructuredAIResponse) :
    (completeFromCache session jobId rawContext snapshot cachedAi).Returns
      fun response => response.jobId = jobId := by
  apply Program.Returns.perform_bind
  intro createdAt
  apply (Program.returns_of_forall _ (fun _ => True) fun _ => trivial).bind
  intro saved _
  apply (Program.returns_of_forall _ (fun _ => True) fun _ => trivial).bind
  intro updated _
  apply Program.Returns.perform_bind
  intro now
  apply Program.Returns.perform_bind
  intro _
  exact Program.returns_pure.mpr rfl

theorem returns_enqueueJob (session : Session) (target : ParsedRepoTarget)
    (request : ResearchRequest) (snapshot : ResearchJobStateSnapshot) :
    (enqueueJob session target request jobId snapshot).Returns
      fun response => response.jobId = jobId := by
  apply Program.Returns.perform_bind
  intro enqueuedAt
  apply (Program.returns_of_forall _ (fun _ => True) fun _ => trivial).bind
  intro sent _
  cases sent with
  | ok _ => exact Program.returns_pure.mpr rfl
  | error error =>
      apply (Program.returns_of_forall _ (fun _ => True) fun _ => trivial).bind
      intro updated _
      apply Program.Returns.perform_bind
      intro now
      apply Program.Returns.perform_bind
      intro _
      exact Program.returns_raise

/-- Whatever a submission returns names its own job. -/
theorem returns_announceJob (session : Session) (target : ParsedRepoTarget)
    (request : ResearchRequest) (rawContext : RepositoryRawContext) :
    (announceJob session target request rawContext jobId).Returns
      fun response => response.jobId = jobId := by
  apply Program.Returns.perform_bind
  intro now
  apply Program.Returns.perform_bind
  intro _
  apply Program.Returns.perform_bind
  intro cached
  cases cached with
  | some cachedAi => exact returns_completeFromCache _ _ _ _
  | none => exact returns_enqueueJob _ _ _ _

theorem always_announceJob {session : Session} (target : ParsedRepoTarget)
    (request : ResearchRequest) (rawContext : RepositoryRawContext)
    (unloaded : session.reports jobId = none) :
    (announceJob session target request rawContext jobId).Always (besideOthers jobId) state
      (Submitted jobId rawContext
        (buildAiCacheKey target.owner target.repo rawContext.commitSha)) := by
  have tolerant : Tolerant (Submitted jobId rawContext
      (buildAiCacheKey target.owner target.repo rawContext.commitSha)) :=
    tolerant_submitted rawContext _
  apply tolerant.await_bind
  · trivial
  intro now later _
  apply tolerant.await_bind
  · trivial
  intro _ shown _
  apply Program.always_perform_bind
  · intro cached looked _
    cases cached with
    | some cachedAi =>
        apply ((always_completeFromCache rawContext _ cachedAi unloaded).uses
          (bookkeeping_completeFromCache _ _ _ _)).mono
        rintro after result final ⟨stores, quiet⟩ response returned _
        refine ⟨some cachedAi, [], after, rfl, bookkeeping_nil, quiet, ?_⟩
        rintro insights ⟨⟩
        exact stores response returned
    | none =>
        have anything : (enqueueJob session target request jobId
            (pendingSnapshot jobId now rawContext.instantData)).Always (besideOthers jobId) looked
              fun _ _ _ => True :=
          Program.always_of_forall fun _ _ _ => trivial
        apply (anything.uses (bookkeeping_enqueueJob _ _ _ _)).mono
        rintro after result final ⟨-, quiet⟩ response _ _
        exact ⟨none, [], after, rfl, bookkeeping_nil, quiet, nofun⟩
  · intro error looked _ response impossible
    cases impossible

theorem always_registerJob (target : ParsedRepoTarget) (request : ResearchRequest)
    (rawContext : RepositoryRawContext) :
    (registerJob target request rawContext).Always (besideOthers jobId) state
      (Submitted jobId rawContext
        (buildAiCacheKey target.owner target.repo rawContext.commitSha)) := by
  have tolerant : Tolerant (Submitted jobId rawContext
      (buildAiCacheKey target.owner target.repo rawContext.commitSha)) :=
    tolerant_submitted rawContext _
  apply tolerant.await_bind
  · trivial
  intro id chosen _
  rw [Program.bind_eq, createJobRecord_bind]
  apply tolerant.await_bind
  · trivial
  intro _ inserted _
  apply tolerant.await_bind
  · trivial
  intro refreshed read _
  by_cases named : id = jobId
  · subst named
    exact always_announceJob target request rawContext rfl
  · -- the submission of another job
    apply (returns_announceJob _ target request rawContext).always.mono
    intro trace result final returns response returned same
    exact absurd ((returns response returned).symm.trans same) named

/-- A submission that returns fetched the context of its target first. -/
theorem always_submission (env : Environment) (request : ResearchRequest)
    {target : ParsedRepoTarget}
    (parsed : parseGithubRepositoryUrl env.urlLibrary request.url = .ok target) :
    (submit env request).Always (besideOthers jobId) state
      fun trace result final => ∀ response, result = .ok response → ∃ rawContext rest,
        trace = ⟨.fetchRepositoryContext target, .ok rawContext⟩ :: rest ∧
          Submitted jobId rawContext
            (buildAiCacheKey target.owner target.repo rawContext.commitSha) rest result final := by
  unfold submit
  rw [parsed]
  apply Program.always_perform_bind
  · intro rawContext fetched _
    apply (always_registerJob target request rawContext).mono
    intro rest result final submitted response returned
    exact ⟨rawContext, rest, rfl, submitted⟩
  · intro error fetched _ response impossible
    cases impossible

/-! ## The calls of a stage -/

theorem fetch_not_mem_bookkeeping {trace : List (Event Ops Exn)} (quiet : Bookkeeping trace)
    {target : ParsedRepoTarget} {reply : Except Exn RepositoryRawContext} :
    ⟨.fetchRepositoryContext target, reply⟩ ∉ trace :=
  fun member => quiet _ member

theorem analyze_not_mem_bookkeeping {trace : List (Event Ops Exn)} (quiet : Bookkeeping trace)
    {payload : LLMPromptPayload} {reply : Except Exn StructuredAIResponse} :
    ⟨.analyze payload, reply⟩ ∉ trace :=
  fun member => quiet _ member

variable {cacheKey : String} {stage : List (Event Ops Exn)} {analysis : Analysis}

theorem AnalysisCalls.fetch_not_mem (calls : AnalysisCalls cacheKey stage analysis)
    {target : ParsedRepoTarget} {reply : Except Exn RepositoryRawContext} :
    ⟨.fetchRepositoryContext target, reply⟩ ∉ stage := by
  intro member
  cases calls with
  | hit insights => cases List.mem_singleton.mp member
  | fresh payload answer quiet =>
      rcases List.mem_append.mp member with early | late
      · rcases List.mem_cons.mp early with same | inside
        · cases same
        · exact fetch_not_mem_bookkeeping quiet inside
      · rcases List.mem_cons.mp late with same | last
        · cases same
        · cases List.mem_singleton.mp last
  | unavailable payload error quiet =>
      rcases List.mem_append.mp member with early | late
      · rcases List.mem_cons.mp early with same | inside
        · cases same
        · exact fetch_not_mem_bookkeeping quiet inside
      · cases List.mem_singleton.mp late

/-- A stage in which the model has answered is a fresh analysis. -/
theorem AnalysisCalls.of_answer (calls : AnalysisCalls cacheKey stage analysis)
    {payload : LLMPromptPayload} {answer : StructuredAIResponse}
    (asked : ⟨.analyze payload, .ok answer⟩ ∈ stage) :
    analysis = ⟨some (mergeWarnings answer payload.warnings), none⟩ ∧
      ⟨.setCachedAiResult cacheKey (mergeWarnings answer payload.warnings), .ok ()⟩ ∈ stage := by
  cases calls with
  | hit insights => cases List.mem_singleton.mp asked
  | fresh other given quiet =>
      rcases List.mem_append.mp asked with early | late
      · rcases List.mem_cons.mp early with same | inside
        · cases same
        · exact absurd inside (analyze_not_mem_bookkeeping quiet)
      · rcases List.mem_cons.mp late with same | last
        · cases same
          exact ⟨rfl, by simp⟩
        · cases List.mem_singleton.mp last
  | unavailable other error quiet =>
      rcases List.mem_append.mp asked with early | late
      · rcases List.mem_cons.mp early with same | inside
        · cases same
        · exact absurd inside (analyze_not_mem_bookkeeping quiet)
      · cases List.mem_singleton.mp late

/-- A stage that finds the given insights whenever it looks is a cache hit. -/
theorem AnalysisCalls.of_cached (calls : AnalysisCalls cacheKey stage analysis)
    {insights : StructuredAIResponse}
    (cached : ∀ found, ⟨.getCachedAiResult cacheKey, .ok found⟩ ∈ stage → found = some insights) :
    analysis = ⟨some insights, none⟩ ∧
      ∀ payload reply, ⟨.analyze payload, reply⟩ ∉ stage := by
  cases calls with
  | hit other =>
      cases cached _ List.mem_cons_self
      exact ⟨rfl, fun payload reply member => by cases List.mem_singleton.mp member⟩
  | fresh payload answer quiet => cases cached none (by simp)
  | unavailable payload error quiet => cases cached none (by simp)

end CacheHits

open CacheHits

/-! ## Hits reproduce the fresh analysis -/

/-- The cache key of the repository state that a context describes. -/
def RepositoryRawContext.cacheKey (rawContext : RepositoryRawContext) : String :=
  buildAiCacheKey rawContext.target.owner rawContext.target.repo rawContext.commitSha

/-- A completed pipeline that fetched the context and asked the model. -/
structure FreshRun (env : Environment) (message : ResearchJobMessage)
    (rawContext : RepositoryRawContext) (payload : LLMPromptPayload)
    (answer : StructuredAIResponse) (content : ReportContent) (trace : List (Event Ops Exn)) :
    Prop where
  runs : ∃ start final, (executeResearchPipeline env message).Runs (besideOthers message.jobId)
    start trace (.ok ()) final ∧ StoresReport message.jobId content final
  fetched : ⟨.fetchRepositoryContext rawContext.target, .ok rawContext⟩ ∈ trace
  asked : ⟨.analyze payload, .ok answer⟩ ∈ trace

/-- Calls beside tasks that leave a job alone, while a cache entry lives. -/
def whileCached (cacheKey : String) (insights : StructuredAIResponse) (jobId : JobId) :
    Effect Ops Exn Store :=
  fun op before reply after =>
    ∃ now outcome, before.Undisturbed jobId now ∧
      now.aiCache cacheKey = some (.valid insights) ∧ exec op outcome now = some (reply, after)

/-- A later job on the same context that completes while the entry lives: a
submission or a pipeline. -/
inductive LaterRun (env : Environment) (rawContext : RepositoryRawContext)
    (insights : StructuredAIResponse) : JobId → List (Event Ops Exn) → Store → Prop where
  | submission {request : ResearchRequest} {response : JobAcceptedResponse} {start final : Store}
      {trace : List (Event Ops Exn)}
      (runs : (submit env request).Runs (whileCached rawContext.cacheKey insights response.jobId)
        start trace (.ok response) final)
      (fetched : ⟨.fetchRepositoryContext rawContext.target, .ok rawContext⟩ ∈ trace) :
      LaterRun env rawContext insights response.jobId trace final
  | pipeline {message : ResearchJobMessage} {start final : Store} {trace : List (Event Ops Exn)}
      (runs : (executeResearchPipeline env message).Runs
        (whileCached rawContext.cacheKey insights message.jobId) start trace (.ok ()) final)
      (fetched : ⟨.fetchRepositoryContext rawContext.target, .ok rawContext⟩ ∈ trace) :
      LaterRun env rawContext insights message.jobId trace final

/-- The fetch of a completed pipeline is the one call of its kind. -/
theorem CacheHits.Fetched.of_mem {jobId : JobId} {target : ParsedRepoTarget}
    {rawContext : RepositoryRawContext} {trace : List (Event Ops Exn)} {final : Store}
    (ended : Fetched jobId target trace (.ok ()) final)
    (fetched : ⟨.fetchRepositoryContext rawContext.target, .ok rawContext⟩ ∈ trace) :
    ∃ analysis before middle stage after,
      trace = before ++ ⟨.fetchRepositoryContext rawContext.target, .ok rawContext⟩ ::
        (middle ++ (stage ++ after)) ∧
      Bookkeeping before ∧ Bookkeeping middle ∧ Bookkeeping after ∧
      AnalysisCalls rawContext.cacheKey stage analysis ∧
      StoresReport jobId (analysisContent rawContext analysis) final := by
  obtain ⟨context, before, rest, rfl, early, concludes⟩ := ended () rfl
  obtain ⟨analysis, middle, stage, after, rfl, quiet, calls, late, stores⟩ := concludes () rfl
  rcases List.mem_append.mp fetched with inside | later
  · exact absurd inside (fetch_not_mem_bookkeeping early)
  rcases List.mem_cons.mp later with same | later
  · cases same
    exact ⟨analysis, before, middle, stage, after, rfl, early, quiet, late, calls, stores⟩
  rcases List.mem_append.mp later with inside | later
  · exact absurd inside (fetch_not_mem_bookkeeping quiet)
  rcases List.mem_append.mp later with inside | inside
  · exact absurd inside calls.fetch_not_mem
  · exact absurd inside (fetch_not_mem_bookkeeping late)

theorem besideOthers_of_whileCached {cacheKey : String} {insights : StructuredAIResponse}
    {jobId : JobId} {op : Op} {before after : Store} {reply : Except Exn op.Reply}
    (called : whileCached cacheKey insights jobId op before reply after) :
    besideOthers jobId op before reply after := by
  obtain ⟨now, outcome, same, -, called⟩ := called
  exact ⟨now, outcome, same, called⟩

/-- Whoever looks while the entry lives finds it. -/
theorem found_of_whileCached {α : Type} {program : Coroutine α} {cacheKey : String}
    {insights : StructuredAIResponse} {jobId : JobId} {start final : Store}
    {trace : List (Event Ops Exn)} {result : Except Exn α}
    (runs : program.Runs (whileCached cacheKey insights jobId) start trace result final)
    {found : Option StructuredAIResponse}
    (looked : ⟨.getCachedAiResult cacheKey, .ok found⟩ ∈ trace) : found = some insights := by
  obtain ⟨before, after, now, outcome, -, cached, called⟩ := runs.events _ looked
  obtain ⟨supply, -, answered⟩ := answer_of_exec_ok called
  cases supply <;> simp only [answer, cached, reduceCtorEq] at answered
  cases answered
  rfl

theorem target_of_returned {env : Environment} {url : String} {α : Type}
    {next : ParsedRepoTarget → Coroutine α} {effect : Effect Ops Exn Store} {start final : Store}
    {trace : List (Event Ops Exn)} {value : α}
    (runs : ((Program.ofExcept (parseGithubRepositoryUrl env.urlLibrary url)).bind next).Runs
      effect start trace (.ok value) final) :
    ∃ target, parseGithubRepositoryUrl env.urlLibrary url = .ok target := by
  cases parsed : parseGithubRepositoryUrl env.urlLibrary url with
  | ok target => exact ⟨target, rfl⟩
  | error error =>
      rw [parsed] at runs
      cases runs

/-- The fresh analysis stores merged insights in the report and in the cache. -/
theorem FreshRun.stored {env : Environment} {message : ResearchJobMessage}
    {rawContext : RepositoryRawContext} {payload : LLMPromptPayload}
    {answer : StructuredAIResponse} {content : ReportContent} {trace : List (Event Ops Exn)}
    (fresh : FreshRun env message rawContext payload answer content trace) :
    content = analysisContent rawContext ⟨some (mergeWarnings answer payload.warnings), none⟩ ∧
      ⟨.setCachedAiResult rawContext.cacheKey (mergeWarnings answer payload.warnings), .ok ()⟩ ∈
        trace := by
  obtain ⟨start, final, runs, report, stored, written⟩ := fresh.runs
  obtain ⟨target, parsed⟩ := target_of_returned runs
  have ended : Fetched message.jobId target trace (.ok ()) final :=
    runs.meets (always_executeResearchPipeline env message parsed)
  obtain ⟨analysis, before, middle, stage, after, rfl, early, quiet, late, calls, other, found,
    same⟩ := ended.of_mem fresh.fetched
  have asked : ⟨.analyze payload, .ok answer⟩ ∈ stage := by
    rcases List.mem_append.mp fresh.asked with inside | later
    · exact absurd inside (analyze_not_mem_bookkeeping early)
    rcases List.mem_cons.mp later with impossible | later
    · cases impossible
    rcases List.mem_append.mp later with inside | later
    · exact absurd inside (analyze_not_mem_bookkeeping quiet)
    rcases List.mem_append.mp later with inside | inside
    · exact inside
    · exact absurd inside (analyze_not_mem_bookkeeping late)
  obtain ⟨rfl, cached⟩ := calls.of_answer asked
  obtain rfl := Option.some.inj (stored.symm.trans found)
  exact ⟨written.symm.trans same, by simp [cached]⟩

/-- A later job on the same context stores the report of the cached insights
and asks nobody. -/
theorem LaterRun.stored {env : Environment} {rawContext : RepositoryRawContext}
    {insights : StructuredAIResponse} {jobId : JobId} {trace : List (Event Ops Exn)}
    {final : Store} (later : LaterRun env rawContext insights jobId trace final) :
    StoresReport jobId (analysisContent rawContext ⟨some insights, none⟩) final ∧
      ∀ payload reply, ⟨.analyze payload, reply⟩ ∉ trace := by
  cases later with
  | submission runs fetched =>
      obtain ⟨target, parsed⟩ := target_of_returned runs
      have beside := runs.mono fun _ _ _ _ => besideOthers_of_whileCached
      obtain ⟨context, rest, rfl, submitted⟩ :=
        beside.meets (always_submission env _ parsed) _ rfl
      obtain ⟨cached, before, after, rfl, early, late, stores⟩ := submitted _ rfl rfl
      have same : context = rawContext ∧ target = rawContext.target := by
        rcases List.mem_cons.mp fetched with same | later
        · cases same
          exact ⟨rfl, rfl⟩
        rcases List.mem_append.mp later with inside | later
        · exact absurd inside (fetch_not_mem_bookkeeping early)
        rcases List.mem_cons.mp later with impossible | inside
        · cases impossible
        · exact absurd inside (fetch_not_mem_bookkeeping late)
      have key : buildAiCacheKey target.owner target.repo context.commitSha =
          rawContext.cacheKey := by
        rw [same.1, same.2]
        rfl
      rw [key] at runs
      have found : cached = some insights := found_of_whileCached runs (by simp)
      rw [same.1] at stores
      refine ⟨stores insights found, ?_⟩
      intro payload reply member
      rcases List.mem_cons.mp member with impossible | later
      · cases impossible
      rcases List.mem_append.mp later with inside | later
      · exact analyze_not_mem_bookkeeping early inside
      rcases List.mem_cons.mp later with impossible | inside
      · cases impossible
      · exact analyze_not_mem_bookkeeping late inside
  | @pipeline message _ _ _ runs fetched =>
      obtain ⟨target, parsed⟩ := target_of_returned runs
      have beside := runs.mono fun _ _ _ _ => besideOthers_of_whileCached
      have ended : Fetched message.jobId target trace (.ok ()) final :=
        beside.meets (always_executeResearchPipeline env message parsed)
      obtain ⟨analysis, before, middle, stage, after, rfl, early, quiet, late, calls, stores⟩ :=
        ended.of_mem fetched
      have cached : ∀ found, ⟨.getCachedAiResult rawContext.cacheKey, .ok found⟩ ∈ stage →
          found = some insights := by
        intro found looked
        exact found_of_whileCached runs (by simp [looked])
      obtain ⟨rfl, unasked⟩ := calls.of_cached cached
      refine ⟨stores, ?_⟩
      intro payload reply member
      rcases List.mem_append.mp member with inside | later
      · exact analyze_not_mem_bookkeeping early inside
      rcases List.mem_cons.mp later with impossible | later
      · cases impossible
      rcases List.mem_append.mp later with inside | later
      · exact analyze_not_mem_bookkeeping quiet inside
      rcases List.mem_append.mp later with inside | inside
      · exact unasked payload reply inside
      · exact analyze_not_mem_bookkeeping late inside

/-- A fresh analysis stores and caches the answer with every new warning among
its limitations, and every later job on the same context that completes while
the entry lives stores a report with the same content without asking the
model. -/
theorem cache_hit_reproduces {env : Environment} {message : ResearchJobMessage}
    {rawContext : RepositoryRawContext} {payload : LLMPromptPayload}
    {answer : StructuredAIResponse} {content : ReportContent} {trace : List (Event Ops Exn)}
    (fresh : FreshRun env message rawContext payload answer content trace) :
    (∀ warnings, (mergeWarnings answer warnings).Extends answer warnings) ∧
    ∃ insights, insights.Extends answer payload.warnings ∧ content.aiInsights = some insights ∧
      ⟨.setCachedAiResult rawContext.cacheKey insights, .ok ()⟩ ∈ trace ∧
      ∀ jobId later final, LaterRun env rawContext insights jobId later final →
        StoresReport jobId content final ∧ ∀ payload reply, ⟨.analyze payload, reply⟩ ∉ later := by
  constructor
  · exact mergeWarnings_extends answer
  · obtain ⟨same, cached⟩ := fresh.stored
    refine ⟨_, mergeWarnings_extends answer payload.warnings, ?_, cached, ?_⟩
    · rw [same]
      rfl
    · intro jobId later final run
      rw [same]
      exact run.stored

def RepositoryRawContext.isFetch (rawContext : RepositoryRawContext) (target : ParsedRepoTarget)
    (fetched : RepositoryRawContext) : Bool :=
  target = rawContext.target && fetched = rawContext

def StructuredAIResponse.isAnswer (answer given : StructuredAIResponse) : Bool :=
  given = answer

/-- The event returns this context for its own target. -/
def fetches (rawContext : RepositoryRawContext) : Event Ops Exn → Bool
  | ⟨.fetchRepositoryContext target, .ok fetched⟩ => rawContext.isFetch target fetched
  | _ => false

/-- The event returns this answer of the model. -/
def answers (answer : StructuredAIResponse) : Event Ops Exn → Bool
  | ⟨.analyze _, .ok given⟩ => answer.isAnswer given
  | _ => false

theorem mem_of_fetches {rawContext : RepositoryRawContext} {trace : List (Event Ops Exn)}
    (found : trace.any (fetches rawContext) = true) :
    ⟨.fetchRepositoryContext rawContext.target, .ok rawContext⟩ ∈ trace := by
  obtain ⟨event, member, matched⟩ := List.any_eq_true.mp found
  unfold fetches at matched
  split at matched
  · simp only [RepositoryRawContext.isFetch, Bool.and_eq_true, decide_eq_true_eq] at matched
    rw [matched.1, matched.2] at member
    exact member
  · cases matched

theorem mem_of_answers {answer : StructuredAIResponse} {trace : List (Event Ops Exn)}
    (found : trace.any (answers answer) = true) :
    ∃ payload, ⟨.analyze payload, .ok answer⟩ ∈ trace := by
  obtain ⟨event, member, matched⟩ := List.any_eq_true.mp found
  unfold answers at matched
  split at matched
  · simp only [StructuredAIResponse.isAnswer, decide_eq_true_eq] at matched
    rw [matched] at member
    exact ⟨_, member⟩
  · cases matched

/-- The job of the sample is analysed afresh. -/
theorem cache_hit_reproduces_sample :
    ∃ payload content trace, FreshRun Sample.environment Sample.message Sample.rawContext payload
        Sample.insights content trace ∧
      ∃ insights, insights.Extends Sample.insights payload.warnings ∧
        content.aiInsights = some insights ∧
        ∀ jobId later final,
          LaterRun Sample.environment Sample.rawContext insights jobId later final →
            StoresReport jobId content final ∧
              ∀ payload reply, ⟨.analyze payload, reply⟩ ∉ later := by
  have checked : (playback (fun _ _ => true) (Sample.fetched ++
      ([.done (.time Sample.noon), .ok, .done (.insights Sample.insights), .ok] : List Outcome) ++
        Sample.completed)
      (executeResearchPipeline Sample.environment Sample.message) Sample.pending).any
        fun played => played.2.1.isOk = true ∧ (played.2.2.reports "job-1").isSome = true ∧
          played.1.any (fetches Sample.rawContext) = true ∧
            played.1.any (answers Sample.insights) = true := by
    decide +kernel
  obtain ⟨trace, result, final, runs, returned, stored, fetched, answered⟩ := runs_of_any checked
  obtain ⟨payload, asked⟩ := mem_of_answers answered
  obtain ⟨record, found⟩ := Option.isSome_iff_exists.mp stored
  have ended : result = .ok () := by
    cases result with
    | ok value => rfl
    | error error => cases returned
  subst ended
  have fresh : FreshRun Sample.environment Sample.message Sample.rawContext payload Sample.insights
      record.content trace :=
    ⟨⟨Sample.pending, final, runs.mono fun _ _ _ _ => besideOthers_of_callsWithin, record,
      found, rfl⟩, mem_of_fetches fetched, asked⟩
  obtain ⟨insights, extended, content, -, later⟩ := (cache_hit_reproduces fresh).2
  exact ⟨payload, record.content, trace, fresh, insights, extended, content, later⟩

end ResearchTool
