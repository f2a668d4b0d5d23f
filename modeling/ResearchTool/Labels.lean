import ResearchTool.Custody
import ResearchTool.Service

/-!
# The labels of a completed job

That the AI analysis was unavailable is recorded twice: the report has no
insights, and a reason is given.  The report row, the snapshots, the progress
message and the Markdown are derived from one or the other; they agree unless
the reason is the empty string.
-/

namespace ResearchTool

open Process

/-- GitHub, Redis and the database work; the language model may return or raise
one of the two exceptions of its adapter. -/
def onlyAnalysisFails (op : Op) : Outcome → Bool
  | .done _ => true
  | .failed error => op.party == .languageModel && error.isAnalysisFault
  | .lost _ error => op.party == .languageModel && error.isAnalysisFault

/-- The Markdown has the section that says that there was no analysis. -/
def RendersUnavailable (rawContext : RepositoryRawContext) (markdown : String) : Prop :=
  ∃ reason, markdown = buildMarkdownReport rawContext none reason

/-- All labels of a completed job say whether its report has insights. -/
structure LabelsAgree (jobId : JobId) (rawContext : RepositoryRawContext)
    (row : ResearchJobRecord) (report : FinalResearchReportRecord)
    (snapshot : ResearchJobStateSnapshot) : Prop where
  rowStatus : row.status = .completed
  snapshotStatus : snapshot.status = .completed
  stored : report.content.aiFallback = report.content.aiInsights.isNone
  shown : snapshot.aiFallback = some report.content.aiInsights.isNone
  reconstructed : (reportSnapshot jobId (reportOfRecord report)).aiFallback =
    some report.content.aiInsights.isNone
  rowMessage : row.progressMsg =
    if report.content.aiInsights.isNone then "Completed with deterministic fallback"
    else "Research completed"
  snapshotMessage : snapshot.progressMsg =
    if report.content.aiInsights.isNone then "Completed with deterministic fallback"
    else "Research completed"
  markdown : RendersUnavailable rawContext report.content.markdownReport ↔
    report.content.aiInsights = none

/-- The pipeline returned, and the job is completed with labels that agree. -/
def FinishesLabelled (jobId : JobId) (trace : List (Event Ops Exn)) (result : Except Exn Unit)
    (final : Store) : Prop :=
  result = .ok () ∧ ∃ target rawContext row report snapshot,
    ⟨.fetchRepositoryContext target, .ok rawContext⟩ ∈ trace ∧
    final.jobs jobId = some row ∧ final.reports jobId = some report ∧
    final.snapshots jobId = some snapshot ∧ LabelsAgree jobId rawContext row report snapshot

/-- The AI cache missed. -/
def missesCache : Event Ops Exn → Bool
  | ⟨.getCachedAiResult _, .ok none⟩ => true
  | _ => false

/-- If the event fetched a context, its prompt can be built. -/
def promptBuilds (env : Environment) : Event Ops Exn → Bool
  | ⟨.fetchRepositoryContext _, .ok rawContext⟩ =>
      (buildPromptPayload env.renderField env.settings.aiTokenBudget rawContext).isOk
  | _ => true

theorem promptBuilds_fetched (env : Environment) (target : ParsedRepoTarget)
    (rawContext : RepositoryRawContext) :
    promptBuilds env ⟨.fetchRepositoryContext target, .ok rawContext⟩ =
      (buildPromptPayload env.renderField env.settings.aiTokenBudget rawContext).isOk := by
  simp only [promptBuilds]

/-- The replies that the labels cannot tell: a fault of the analysis without a
message, and a cached result that does not validate. -/
def unlabelled : Event Ops Exn → Bool
  | ⟨.analyze _, .error error⟩ => error.str = ""
  | ⟨.getCachedAiResult _, .error _⟩ => true
  | _ => false

/-! ## What a completed job looks like -/

/-- What the completion stage leaves of an analysis. -/
structure CompletedWith (jobId : JobId) (rawContext : RepositoryRawContext) (analysis : Analysis)
    (store : Store) : Prop where
  row : ∃ row, store.jobs jobId = some row ∧ row.status = .completed ∧
    row.progressMsg = completionMessage analysis.aiFallbackReason
  report : ∃ report createdAt, store.reports jobId = some report ∧ report.content =
    reportContent (buildResearchReport createdAt jobId rawContext analysis.aiInsights
      analysis.aiFallbackReason) rawContext.commitSha analysis.aiFallbackReason
  snapshot : ∃ now, store.snapshots jobId =
    some (completedSnapshot jobId now rawContext.instantData analysis.aiFallbackReason)

/-- The Markdown follows the insights. -/
theorem rendersUnavailable_iff (rawContext : RepositoryRawContext)
    (aiInsights : Option StructuredAIResponse) (reason : Option String) :
    RendersUnavailable rawContext (buildMarkdownReport rawContext aiInsights reason) ↔
      aiInsights = none := by
  cases aiInsights with
  | none => exact iff_of_true ⟨reason, rfl⟩ rfl
  | some insights =>
      apply iff_of_false _ (Option.some_ne_none insights)
      rintro ⟨other, same⟩
      exact buildMarkdownReport_ne rawContext insights reason other same

/-- The labels agree exactly when the reason tells that there are no insights. -/
theorem CompletedWith.finishes_iff {jobId : JobId} {rawContext : RepositoryRawContext}
    {analysis : Analysis} {store : Store} {trace : List (Event Ops Exn)}
    {target : ParsedRepoTarget} (completed : CompletedWith jobId rawContext analysis store)
    (fetched : ⟨.fetchRepositoryContext target, .ok rawContext⟩ ∈ trace) :
    FinishesLabelled jobId trace (.ok ()) store ↔
      isTruthy analysis.aiFallbackReason = analysis.aiInsights.isNone := by
  obtain ⟨row, rowStored, rowStatus, rowMessage⟩ := completed.row
  obtain ⟨report, createdAt, reportStored, content⟩ := completed.report
  obtain ⟨now, snapshotStored⟩ := completed.snapshot
  constructor
  · rintro ⟨-, otherTarget, otherContext, otherRow, other, shown, -, -, otherStored, -, agree⟩
    obtain rfl := Option.some.inj (reportStored.symm.trans otherStored)
    have stored := agree.stored
    rw [content] at stored
    exact stored
  · intro told
    refine ⟨rfl, target, rawContext, row, report, _, fetched, rowStored, reportStored,
      snapshotStored, ?_⟩
    have message : completionMessage analysis.aiFallbackReason =
        if analysis.aiInsights.isNone then "Completed with deterministic fallback"
        else "Research completed" := by
      rw [← told]
      rfl
    constructor
    · exact rowStatus
    · rfl
    · rw [content]
      exact told
    · rw [content]
      exact congrArg some told
    · rw [reportOfRecord, content]
      exact congrArg some told
    · rw [rowMessage, content]
      exact message
    · rw [content]
      exact message
    · rw [content]
      exact rendersUnavailable_iff rawContext analysis.aiInsights analysis.aiFallbackReason

/-! ## The calls that matter -/

/-- The calls that the labels depend on. -/
def Op.IsMarked : Op → Bool
  | .fetchRepositoryContext _ => true
  | .getCachedAiResult _ => true
  | .analyze _ => true
  | _ => false

namespace Labels

/-- The marked calls of a run. -/
def marks (trace : List (Event Ops Exn)) : List (Event Ops Exn) :=
  trace.filter fun event => event.op.IsMarked

/-- Every run of the program alone ends as said of its marked calls. -/
def Marked {α : Type} (program : Coroutine α) (state : Store)
    (post : List (Event Ops Exn) → Except Exn α → Store → Prop) : Prop :=
  program.Always (callsWithin onlyAnalysisFails) state fun trace => post (marks trace)

theorem answered {op : Op} {outcome : Outcome} (permitted : onlyAnalysisFails op outcome = true)
    (other : op.party ≠ .languageModel) : outcome.faulty = false := by
  cases outcome <;> simp_all [onlyAnalysisFails, Outcome.faulty]

theorem database : (Custody.alone onlyAnalysisFails).Sound .database :=
  fun _ _ stored permitted => answered permitted (by rw [stored]; nofun)

section

variable {α β : Type} {state : Store} {post : List (Event Ops Exn) → Except Exn α → Store → Prop}

theorem marked_pure {value : α} :
    Marked (.pure value) state post ↔ post [] (.ok value) state :=
  Program.always_pure

theorem marked_raise {error : Exn} :
    Marked (.raise error) state post ↔ post [] (.error error) state :=
  Program.always_raise

/-- One call and what its reply leads to. -/
theorem marked_call {op : Op} {next : Except Exn op.Reply → Coroutine α}
    (called : ∀ outcome reply after, onlyAnalysisFails op outcome →
      exec op outcome state = some (reply, after) →
        Marked (next reply) after fun rest =>
          post (if op.IsMarked then ⟨op, reply⟩ :: rest else rest)) :
    Marked (.call op next) state post := by
  apply Program.always_call.mpr
  rintro reply after ⟨outcome, permitted, replied⟩
  apply Program.Always.mono (called outcome reply after permitted replied)
  intro rest result final holds
  rw [marks, List.filter_cons]
  exact holds

/-- A call that is not marked and returns. -/
theorem marked_quiet {op : Op} {next : op.Reply → Coroutine α}
    (quiet : op.IsMarked = false) (other : op.party ≠ .languageModel)
    (replied : ∀ supply reply after, answer op supply state = some (reply, after) →
      ∃ value, reply = .ok value ∧ Marked (next value) after post) :
    Marked ((await op).bind next) state post := by
  apply marked_call
  intro outcome reply after permitted called
  obtain ⟨supply, isAnswer⟩ := answer_of_exec (answered permitted other) called
  obtain ⟨value, rfl, rest⟩ := replied supply reply after isAnswer
  rw [quiet]
  exact rest

theorem marked_now {next : DateTime → Coroutine α}
    (rest : ∀ time, Marked (next time) state post) :
    Marked ((await .now).bind next) state post := by
  apply marked_quiet (show Op.IsMarked .now = false from rfl) nofun
  intro supply reply after replied
  obtain ⟨time, rfl, rfl⟩ := answer_now replied
  exact ⟨time, rfl, rest time⟩

theorem marked_setState {snapshot : ResearchJobStateSnapshot} {next : Unit → Coroutine α}
    (rest : Marked (next ()) (state.putSnapshot snapshot) post) :
    Marked ((await (.setState snapshot)).bind next) state post := by
  apply marked_quiet (show Op.IsMarked (.setState snapshot) = false from rfl) nofun
  intro supply reply after replied
  obtain ⟨rfl, rfl⟩ := answer_setState replied
  exact ⟨(), rfl, rest⟩

theorem marked_bind {program : Coroutine β} {next : β → Coroutine α}
    (first : Marked program state fun earlier outcome middle =>
      match outcome with
      | .ok value => Marked (next value) middle fun later => post (earlier ++ later)
      | .error error => post earlier (.error error) middle) :
    Marked (program.bind next) state post := by
  apply Program.always_bind.mpr
  apply Program.Always.mono first
  intro earlier outcome middle holds
  cases outcome with
  | error error => exact holds
  | ok value =>
      apply Program.Always.mono holds
      intro later result final holds
      rw [marks, List.filter_append]
      exact holds

/-- A program that makes no marked call. -/
theorem marked_of_uses {program : Coroutine α} {holds : Except Exn α → Store → Prop}
    (always : program.Always (callsWithin onlyAnalysisFails) state fun _ => holds)
    (uses : program.Uses fun op : Op => op.IsMarked = false) :
    Marked program state fun marked result final => marked = [] ∧ holds result final := by
  apply Program.Always.mono (always.uses uses)
  rintro trace result final ⟨ended, quiet⟩
  refine ⟨?_, ended⟩
  apply List.filter_eq_nil_iff.mpr
  intro event member
  simp [quiet event member]

end

theorem marked_updateJobStatus {session : Session} {jobId : JobId} {changes : JobChanges}
    {row : ResearchJobRecord} {state : Store} (present : state.jobs jobId = some row)
    (loaded : session.jobs jobId = none ∨ session.jobs jobId = some row) :
    Marked (updateJobStatus session jobId changes) state fun marked result final =>
      marked = [] ∧ ∃ updated, result = .ok updated ∧
        updated.jobs jobId = some (changes.apply row) ∧ updated.reports = session.reports ∧
        final = state.putJob jobId (changes.apply row) :=
  marked_of_uses (Custody.always_updateJobStatus database present loaded)
    (uses_updateJobStatus _ _ _ rfl (fun _ => rfl) rfl)

theorem marked_saveFinalReport {session : Session} {jobId : JobId} {content : ReportContent}
    {state : Store} (unloaded : session.reports jobId = none) :
    Marked (saveFinalReport session jobId content) state fun marked result final =>
      marked = [] ∧ ∃ saved record, result = .ok saved ∧ record.content = content ∧
        saved.jobs = session.jobs ∧ final = state.putReport jobId record :=
  marked_of_uses (Custody.always_saveFinalReport database unloaded)
    (uses_saveFinalReport _ _ _ rfl rfl (fun _ => rfl) (fun _ => rfl) rfl)

/-! ## The pipeline -/

/-- How the analysis stage ends, by the replies to its marked calls. -/
inductive Analysed (env : Environment) (rawContext : RepositoryRawContext) :
    List (Event Ops Exn) → Except Exn Analysis → Prop where
  | hit (cacheKey : String) (insights : StructuredAIResponse) :
      Analysed env rawContext [⟨.getCachedAiResult cacheKey, .ok (some insights)⟩]
        (.ok ⟨some insights, none⟩)
  | invalid (cacheKey : String) (error : Exn) :
      Analysed env rawContext [⟨.getCachedAiResult cacheKey, .error error⟩] (.error error)
  | unprompted (cacheKey : String) (error : Exn)
      (failed : buildPromptPayload env.renderField env.settings.aiTokenBudget rawContext =
        .error error) :
      Analysed env rawContext [⟨.getCachedAiResult cacheKey, .ok none⟩] (.error error)
  | returned (cacheKey : String) (payload : LLMPromptPayload)
      (insights merged : StructuredAIResponse) :
      Analysed env rawContext
        [⟨.getCachedAiResult cacheKey, .ok none⟩, ⟨.analyze payload, .ok insights⟩]
        (.ok ⟨some merged, none⟩)
  | raised (cacheKey : String) (payload : LLMPromptPayload) (error : Exn) :
      Analysed env rawContext
        [⟨.getCachedAiResult cacheKey, .ok none⟩, ⟨.analyze payload, .error error⟩]
        (.ok ⟨none, some error.str⟩)

/-- The language model raises only what the pipeline expects. -/
theorem fault_of_analyze {payload : LLMPromptPayload} {outcome : Outcome} {store after : Store}
    {error : Exn} (permitted : onlyAnalysisFails (.analyze payload) outcome = true)
    (called : exec (.analyze payload) outcome store = some (.error error, after)) :
    error.isAnalysisFault = true := by
  cases outcome with
  | done supply => cases supply <;> simp [exec, answer] at called
  | failed raised =>
      simp only [exec, Option.ite_none_right_eq_some] at called
      cases called.2
      simp only [onlyAnalysisFails, Bool.and_eq_true] at permitted
      exact permitted.2
  | lost supply raised =>
      simp only [exec, Option.ite_none_right_eq_some, Option.map_eq_some_iff] at called
      obtain ⟨-, result, -, same⟩ := called
      cases same
      simp only [onlyAnalysisFails, Bool.and_eq_true] at permitted
      exact permitted.2

/-- The model is asked, and its answer cached. -/
theorem marked_analyzeRepository (payload : LLMPromptPayload) (cacheKey : String)
    (state : Store) :
    Marked (analyzeRepository payload cacheKey) state fun marked result final =>
      final.jobs = state.jobs ∧
        ((∃ insights merged, marked = [⟨.analyze payload, .ok insights⟩] ∧
            result = .ok ⟨some merged, none⟩) ∨
          ∃ error, marked = [⟨.analyze payload, .error error⟩] ∧
            result = .ok ⟨none, some error.str⟩) := by
  rw [analyzeRepository_eq]
  apply marked_call
  intro outcome reply after permitted called
  have kept : after = state := by
    cases written_of_exec called
    rfl
  subst kept
  cases reply with
  | error error =>
      have fault := fault_of_analyze permitted called
      simp only [recoverAnalysis_of_fault fault]
      exact marked_pure.mpr ⟨rfl, .inr ⟨error, rfl, rfl⟩⟩
  | ok insights =>
      apply marked_call
      intro outcome reply stored permitted called
      obtain ⟨supply, replied⟩ := answer_of_exec (answered permitted nofun) called
      obtain ⟨rfl, rfl⟩ := answer_setCachedAiResult replied
      exact marked_pure.mpr ⟨rfl, .inl ⟨insights, _, rfl, rfl⟩⟩

theorem marked_analysisStage (env : Environment) (jobId : JobId)
    (rawContext : RepositoryRawContext) (cacheKey : String) (state : Store) :
    Marked (analysisStage env jobId rawContext cacheKey) state fun marked result final =>
      final.jobs = state.jobs ∧ Analysed env rawContext marked result := by
  unfold analysisStage
  -- whatever prompt is built
  generalize prompted : buildPromptPayload env.renderField env.settings.aiTokenBudget rawContext =
    prompt
  apply marked_call
  intro outcome reply after permitted called
  have kept : after = state := by
    cases written_of_exec called
    rfl
  subst kept
  cases reply with
  | error error => exact marked_raise.mpr ⟨rfl, .invalid cacheKey error⟩
  | ok found =>
      cases found with
      | some insights => exact marked_pure.mpr ⟨rfl, .hit cacheKey insights⟩
      | none =>
          cases prompt with
          | error error => exact marked_raise.mpr ⟨rfl, .unprompted cacheKey error prompted⟩
          | ok payload =>
              apply marked_now
              intro time
              apply marked_setState
              apply (marked_analyzeRepository payload cacheKey _).mono
              rintro trace result final ⟨jobs, ended⟩
              refine ⟨jobs, ?_⟩
              rcases ended with ⟨insights, merged, asked, rfl⟩ | ⟨error, asked, rfl⟩
              · rw [asked]
                exact .returned cacheKey payload insights merged
              · rw [asked]
                exact .raised cacheKey payload error

/-- The completion stage stores what the analysis said. -/
theorem marked_completionStage {session : Session} {jobId : JobId}
    (rawContext : RepositoryRawContext) (cacheKey : String) (analysis : Analysis)
    {row : ResearchJobRecord} {state : Store} (present : state.jobs jobId = some row)
    (loaded : session.jobs jobId = some row) (unloaded : session.reports jobId = none) :
    Marked (completionStage session jobId rawContext cacheKey analysis) state
      fun marked result final =>
        marked = [] ∧ result = .ok () ∧ CompletedWith jobId rawContext analysis final := by
  apply marked_now
  intro createdAt
  apply marked_bind
  apply (marked_saveFinalReport unloaded).mono
  rintro trace result saved ⟨quiet, session, record, rfl, content, same, rfl⟩
  rw [quiet]
  have present : (state.putReport jobId record).jobs jobId = some row := present
  apply marked_bind
  apply (marked_updateJobStatus present (.inr (same ▸ loaded))).mono
  rintro trace result updated ⟨quiet, session, rfl, -, -, rfl⟩
  rw [quiet]
  apply marked_now
  intro time
  rw [← Program.bind_pure (await _)]
  apply marked_setState
  apply marked_pure.mpr
  refine ⟨rfl, rfl, ?_⟩
  constructor
  · exact ⟨_, Function.update_self _ _ _, rfl, rfl⟩
  · exact ⟨record, createdAt, by simp, content⟩
  · exact ⟨time, by simp [completedSnapshot]⟩

/-- How the pipeline ends, by the replies to its marked calls. -/
def Pipelined (env : Environment) (jobId : JobId) (target : ParsedRepoTarget)
    (marked : List (Event Ops Exn)) (result : Except Exn Unit) (final : Store) : Prop :=
  ∃ rawContext rest ended, Analysed env rawContext rest ended ∧
    marked = ⟨.fetchRepositoryContext target, .ok rawContext⟩ :: rest ∧
    match ended with
    | .error error => result = .error error
    | .ok analysis => result = .ok () ∧ CompletedWith jobId rawContext analysis final

theorem marked_pipelineSession (env : Environment) {jobId : JobId} (target : ParsedRepoTarget)
    {row : ResearchJobRecord} {state : Store} (present : state.jobs jobId = some row) :
    Marked (pipelineSession env jobId target .empty) state (Pipelined env jobId target) := by
  apply marked_bind
  apply (marked_updateJobStatus present (.inl rfl)).mono
  rintro trace result final ⟨quiet, started, rfl, loaded, unloaded, rfl⟩
  rw [quiet]
  apply marked_call
  intro outcome reply fetched permitted called
  obtain ⟨supply, replied⟩ := answer_of_exec (answered permitted nofun) called
  obtain ⟨rawContext, rfl, rfl⟩ := answer_fetchRepositoryContext replied
  apply marked_now
  intro time
  apply marked_setState
  apply marked_bind
  apply (marked_updateJobStatus (Function.update_self _ _ _) (.inr loaded)).mono
  rintro trace result prepared ⟨quiet, ready, rfl, loaded, same, rfl⟩
  rw [quiet]
  apply marked_bind
  apply (marked_analysisStage env jobId rawContext _ _).mono
  rintro trace ended analysed ⟨jobs, analysis⟩
  cases ended with
  | error error => exact ⟨rawContext, _, _, analysis, rfl, rfl⟩
  | ok value =>
      have present := (congrFun jobs jobId).trans (Function.update_self _ _ _)
      apply (marked_completionStage rawContext _ value present loaded _).mono
      · rintro further result final ⟨quiet, rfl, completed⟩
        rw [quiet, List.append_nil]
        exact ⟨rawContext, _, _, analysis, rfl, rfl, completed⟩
      · rw [same, unloaded]
        rfl

/-- Closing the session changes nothing. -/
theorem marked_withSession {body : Session → Coroutine Unit} {state : Store}
    {post : List (Event Ops Exn) → Except Exn Unit → Store → Prop}
    (marked : Marked (body .empty) state post) : Marked (withSession body) state post := by
  rw [withSession_eq]
  apply marked_bind
  apply Program.always_attempt.mpr
  apply Program.Always.mono marked
  intro trace outcome final holds
  apply marked_quiet (show Op.IsMarked .closeSession = false from rfl) nofun
  intro supply reply after replied
  obtain ⟨rfl, rfl⟩ := answer_closeSession replied
  refine ⟨(), rfl, ?_⟩
  cases outcome with
  | ok value =>
      apply marked_pure.mpr
      rw [List.append_nil]
      exact holds
  | error error =>
      apply marked_raise.mpr
      rw [List.append_nil]
      exact holds

theorem marked_executeResearchPipeline (env : Environment) (message : ResearchJobMessage)
    {target : ParsedRepoTarget} {row : ResearchJobRecord} {state : Store}
    (parses : parseGithubRepositoryUrl env.urlLibrary message.repoUrl = .ok target)
    (present : state.jobs message.jobId = some row) :
    Marked (executeResearchPipeline env message) state (Pipelined env message.jobId target) := by
  unfold executeResearchPipeline
  rw [parses]
  apply marked_quiet (show Op.IsMarked (.getState message.jobId) = false from rfl) nofun
  intro supply reply after replied
  obtain ⟨rfl, rfl⟩ := answer_getState replied
  refine ⟨_, rfl, ?_⟩
  apply marked_now
  intro time
  apply marked_setState
  apply marked_withSession
  exact marked_pipelineSession env target present

theorem mem_marks {trace : List (Event Ops Exn)} {event : Event Ops Exn}
    (marked : event.op.IsMarked = true) : event ∈ marks trace ↔ event ∈ trace := by
  simp [marks, marked]

/-- Only a marked call can be unlabelled. -/
theorem any_unlabelled (trace : List (Event Ops Exn)) :
    (marks trace).any unlabelled = trace.any unlabelled := by
  rw [marks, List.any_filter]
  congr 1
  funext event
  rcases event with ⟨op, reply⟩
  cases op <;> rfl

theorem finishesLabelled_marks {jobId : JobId} {trace : List (Event Ops Exn)}
    {result : Except Exn Unit} {final : Store} :
    FinishesLabelled jobId (marks trace) result final ↔
      FinishesLabelled jobId trace result final := by
  constructor
  · rintro ⟨returned, target, rawContext, row, report, snapshot, fetched, rest⟩
    exact ⟨returned, target, rawContext, row, report, snapshot, (mem_marks rfl).mp fetched, rest⟩
  · rintro ⟨returned, target, rawContext, row, report, snapshot, fetched, rest⟩
    exact ⟨returned, target, rawContext, row, report, snapshot, (mem_marks rfl).mpr fetched, rest⟩

end Labels

open Labels

/-- The pipeline completes the job with labels that agree, if and only if the
analysis does not fail without a message and no invalid result is cached. -/
theorem labels_agree_iff {env : Environment} {message : ResearchJobMessage}
    {target : ParsedRepoTarget} {row : ResearchJobRecord} {start final : Store}
    {trace : List (Event Ops Exn)} {result : Except Exn Unit}
    (parses : parseGithubRepositoryUrl env.urlLibrary message.repoUrl = .ok target)
    (present : start.jobs message.jobId = some row)
    (runs : (executeResearchPipeline env message).Runs (callsWithin onlyAnalysisFails) start
      trace result final)
    (built : trace.any missesCache = true → trace.all (promptBuilds env) = true) :
    FinishesLabelled message.jobId trace result final ↔ trace.any unlabelled = false := by
  obtain ⟨rawContext, rest, ended, analysis, marked, outcome⟩ :=
    runs.meets (marked_executeResearchPipeline env message parses present)
  have fetched : ⟨.fetchRepositoryContext target, .ok rawContext⟩ ∈ marks trace := by
    rw [marked]
    exact List.mem_cons_self
  rw [← any_unlabelled, ← finishesLabelled_marks]
  cases analysis with
  | hit cacheKey insights =>
      obtain ⟨rfl, completed⟩ := outcome
      rw [completed.finishes_iff fetched, marked]
      exact iff_of_true rfl rfl
  | invalid cacheKey error =>
      rw [outcome, marked]
      exact iff_of_false (fun finishes => nomatch finishes.1) nofun
  | unprompted cacheKey error failed =>
      have missed : ⟨.getCachedAiResult cacheKey, .ok none⟩ ∈ marks trace := by
        rw [marked]
        exact List.mem_cons_of_mem _ List.mem_cons_self
      have prompts := built (List.any_eq_true.mpr ⟨_, (mem_marks rfl).mp missed, rfl⟩)
      have prompt := List.all_eq_true.mp prompts _ ((mem_marks rfl).mp fetched)
      rw [promptBuilds_fetched, failed] at prompt
      cases prompt
  | returned cacheKey payload insights merged =>
      obtain ⟨rfl, completed⟩ := outcome
      rw [completed.finishes_iff fetched, marked]
      exact iff_of_true rfl rfl
  | raised cacheKey payload error =>
      obtain ⟨rfl, completed⟩ := outcome
      rw [completed.finishes_iff fetched, marked]
      simp [isTruthy, unlabelled]

/-- A model that is unavailable for a reason is labelled as such. -/
theorem labels_agree_unavailable :
    ∃ trace result final,
      (executeResearchPipeline Sample.environment Sample.message).Runs
        (callsWithin onlyAnalysisFails) Sample.pending trace result final ∧
      FinishesLabelled "job-1" trace result final := by
  have checked : (playback onlyAnalysisFails (Sample.unanalyzed (.llmUnavailable "no quota"))
      (executeResearchPipeline Sample.environment Sample.message) Sample.pending).any
        fun played =>
          played.1.any unlabelled = false ∧ played.1.all (promptBuilds Sample.environment) := by
    decide +kernel
  obtain ⟨trace, result, final, runs, labelled, built⟩ := runs_of_any checked
  have parses : parseGithubRepositoryUrl Sample.environment.urlLibrary Sample.message.repoUrl =
      .ok Sample.rawContext.target := by
    decide +kernel
  exact ⟨trace, result, final, runs,
    (labels_agree_iff parses rfl runs fun _ => built).mpr labelled⟩

/-- The language model fails without a message: the job completes without
insights, and its row and snapshot say that there was no fallback. -/
theorem empty_reason_unlabelled :
    ∃ trace result final,
      (executeResearchPipeline Sample.environment Sample.message).Runs
        (callsWithin onlyAnalysisFails) Sample.pending trace result final ∧
      result.isOk = true ∧
      (final.reports "job-1").any (fun report =>
        report.content.aiInsights = none ∧ report.content.aiFallback = false) = true ∧
      ¬ FinishesLabelled "job-1" trace result final := by
  have checked : (playback onlyAnalysisFails (Sample.unanalyzed (.llmUnavailable ""))
      (executeResearchPipeline Sample.environment Sample.message) Sample.pending).any
        fun played => played.2.1.isOk = true ∧ (played.2.2.reports "job-1").any (fun report =>
          report.content.aiInsights = none ∧ report.content.aiFallback = false) = true := by
    decide +kernel
  obtain ⟨trace, result, final, runs, returned, unlabelled⟩ := runs_of_any checked
  refine ⟨trace, result, final, runs, returned, unlabelled, ?_⟩
  rintro ⟨-, target, rawContext, row, report, snapshot, -, -, stored, -, agree⟩
  have labelled := agree.stored
  simp only [stored, Option.any_some, decide_eq_true_eq] at unlabelled
  rw [unlabelled.1, unlabelled.2] at labelled
  cases labelled

end ResearchTool
