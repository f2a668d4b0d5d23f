import ResearchTool.Sessions

/-!
# Who computed a stored report

An execution computes the columns of its report from the replies to its own
calls.  An insert stores them together; an update writes only those that differ
from the instance the session has loaded.  As long as the columns it leaves out
have not changed since, every stored row is the report of one execution.
-/

namespace ResearchTool

open Process

/-- What the calls of a task came to as the analysis of a repository. -/
inductive Trace.Analyzed (env : Environment) (rawContext : RepositoryRawContext)
    (cacheKey : String) (trace : Trace) : Analysis → Prop where
  | cached (insights : StructuredAIResponse)
      (read : ⟨.getCachedAiResult cacheKey, .ok (some insights)⟩ ∈ trace) :
      Analyzed env rawContext cacheKey trace ⟨some insights, none⟩
  | analyzed (payload : LLMPromptPayload) (insights : StructuredAIResponse)
      (built : buildPromptPayload env.renderField env.settings.aiTokenBudget rawContext =
        .ok payload)
      (asked : ⟨.analyze payload, .ok insights⟩ ∈ trace) :
      Analyzed env rawContext cacheKey trace ⟨some (mergeWarnings insights payload.warnings), none⟩
  | unsaved (payload : LLMPromptPayload) (insights : StructuredAIResponse) (error : Exn)
      (built : buildPromptPayload env.renderField env.settings.aiTokenBudget rawContext =
        .ok payload)
      (asked : ⟨.analyze payload, .ok insights⟩ ∈ trace)
      (kept : ⟨.setCachedAiResult cacheKey (mergeWarnings insights payload.warnings),
        .error error⟩ ∈ trace) :
      Analyzed env rawContext cacheKey trace
        ⟨some (mergeWarnings insights payload.warnings), some error.str⟩
  | unavailable (payload : LLMPromptPayload) (error : Exn)
      (built : buildPromptPayload env.renderField env.settings.aiTokenBudget rawContext =
        .ok payload)
      (asked : ⟨.analyze payload, .error error⟩ ∈ trace) :
      Analyzed env rawContext cacheKey trace ⟨none, some error.str⟩

/-- The content that a task has computed for the report of a job. -/
inductive Trace.Computes (env : Environment) (jobId : JobId) (trace : Trace) :
    ReportContent → Prop where
  | report (target : ParsedRepoTarget) (rawContext : RepositoryRawContext) (analysis : Analysis)
      (createdAt : DateTime) (selected : Selected FinalResearchReportRecord)
      (fetched : ⟨.fetchRepositoryContext target, .ok rawContext⟩ ∈ trace)
      (analyzed : Trace.Analyzed env rawContext
        (buildAiCacheKey target.owner target.repo rawContext.commitSha) trace analysis)
      (dated : ⟨.now, .ok createdAt⟩ ∈ trace)
      (saved : ⟨.selectReport jobId, .ok selected⟩ ∈ trace) :
      Computes env jobId trace
        (reportContent (buildResearchReport createdAt jobId rawContext analysis.aiInsights
          analysis.aiFallbackReason) rawContext.commitSha analysis.aiFallbackReason)

/-- An update of a report writes no column, or the columns that it leaves out
still have the values that the session loaded. -/
def keepsReportWhole (_ : Role) (trace : Trace) (op : Op) (outcome : Outcome) (store : Store) :
    Bool :=
  match op with
  | .updateReport jobId changes =>
      !outcome.takesEffect || decide (changes = .unchanged) ||
        (store.reports jobId).all fun row =>
          ((Trace.session trace).reports jobId).all fun loaded =>
            changes.leavesLoaded loaded.content row.content
  | _ => true

namespace Authorship

/-! ## What a task has computed -/

section

variable {env : Environment} {rawContext : RepositoryRawContext} {cacheKey : String}
  {jobId : JobId} {trace : Trace}

theorem analyzed_mono {more : Trace} {analysis : Analysis}
    (analyzed : Trace.Analyzed env rawContext cacheKey trace analysis) (subset : trace ⊆ more) :
    Trace.Analyzed env rawContext cacheKey more analysis := by
  cases analyzed with
  | cached insights read => exact .cached insights (subset read)
  | analyzed payload insights built asked => exact .analyzed payload insights built (subset asked)
  | unsaved payload insights error built asked kept =>
      exact .unsaved payload insights error built (subset asked) (subset kept)
  | unavailable payload error built asked => exact .unavailable payload error built (subset asked)

theorem analyzed_append {analysis : Analysis}
    (analyzed : Trace.Analyzed env rawContext cacheKey trace analysis) (event : Event Ops Exn) :
    Trace.Analyzed env rawContext cacheKey (trace ++ [event]) analysis :=
  analyzed_mono analyzed (List.subset_append_left _ _)

/-- What has been computed stays computed. -/
theorem computes_append {content : ReportContent}
    (computes : Trace.Computes env jobId trace content) (event : Event Ops Exn) :
    Trace.Computes env jobId (trace ++ [event]) content := by
  cases computes with
  | report target rawContext analysis createdAt selected fetched analyzed dated saved =>
      exact .report target rawContext analysis createdAt selected
        (List.mem_append_left _ fetched) (analyzed_append analyzed event)
        (List.mem_append_left _ dated) (List.mem_append_left _ saved)

end

/-! ## The terms -/

/-- Every column that a call writes has been computed by its task. -/
def terms (env : Environment) : Terms where
  invariant store := ∀ jobId row, store.reports jobId = some row → row.jobId = jobId
  rely _ _ _ _ := True
  allows role trace op outcome store := keepsReportWhole role trace op outcome store = true
  guarantee _ before after := ∀ jobId row, after.1.reports jobId = some row →
    (∃ old, before.1.reports jobId = some old ∧ old.content = row.content) ∨
      Trace.Computes env jobId after.2 row.content
  answers _ _ := True
  rely_refl _ _ _ := trivial
  rely_trans _ _ := trivial

variable {env : Environment} {role : Role}

theorem stable (fact : Store → Trace → Prop) (timeless : ∀ before after trace,
    fact before trace → fact after trace) : (terms env).Stable role fact :=
  fun trace before after _ holds => timeless before after trace holds

/-- A call that writes no report. -/
theorem preserves_of_spares {fact : Store → Trace → Prop} {op : Op} (spares : op.SparesReports)
    (keeps : ∀ before after trace reply, fact before trace → fact after (trace ++ [⟨op, reply⟩])) :
    (terms env).Preserves role fact op := by
  intro trace before outcome reply after stored holds _ called
  have same := (written_of_exec called).sparesReports spares
  refine ⟨?_, ?_, keeps before after trace reply holds⟩
  · intro jobId row found
    rw [same] at found
    exact stored jobId row found
  · intro jobId row found
    rw [show after.reports = before.reports from same] at found
    exact .inl ⟨row, found, rfl⟩

theorem harmless_of_spares {op : Op} (spares : op.SparesReports) :
    (terms env).Harmless role op :=
  preserves_of_spares spares fun _ _ _ _ _ => trivial

/-! ## Saving -/

section

variable {jobId : JobId} {content : ReportContent} {outcome : Outcome} {store after : Store}
  {trace : Trace}

/-- A row whose content the task has computed is put in. -/
theorem put_computed {record : FinalResearchReportRecord}
    (stored : (terms env).invariant store) (named : record.jobId = jobId)
    (computes : Trace.Computes env jobId trace record.content) (event : Event Ops Exn) :
    (terms env).invariant (store.putReport jobId record) ∧
      (terms env).guarantee role (store, trace)
        (store.putReport jobId record, trace ++ [event]) := by
  constructor
  · intro id row found
    rcases update_eq_some found with ⟨rfl, new⟩ | ⟨-, old⟩
    · cases new
      exact named
    · exact stored id row old
  · intro id row found
    rcases update_eq_some found with ⟨rfl, new⟩ | ⟨-, old⟩
    · cases new
      exact .inr (computes_append computes event)
    · exact .inl ⟨row, old, rfl⟩

theorem inserted {createdTime : DateTime} {reply : Except Exn Unit}
    (stored : (terms env).invariant store) (computes : Trace.Computes env jobId trace content)
    (called : exec (.insertReport { jobId, content, createdTime }) outcome store =
      some (reply, after)) :
    (terms env).invariant after ∧ (terms env).guarantee role (store, trace)
      (after, trace ++ [⟨.insertReport { jobId, content, createdTime }, reply⟩]) := by
  cases written_of_exec called with
  | unchanged => exact ⟨stored, fun _ row found => .inl ⟨row, found, rfl⟩⟩
  | reported record absent => exact put_computed stored rfl computes _

/-- An update stores what the task has computed, or leaves the row as it is. -/
theorem revised {loaded : FinalResearchReportRecord} {reply : Except Exn Unit}
    (stored : (terms env).invariant store) (computes : Trace.Computes env jobId trace content)
    (instance' : (Trace.session trace).reports jobId = some loaded)
    (allowed : keepsReportWhole role trace
      (.updateReport jobId ((ReportChanges.ofContent content).against loaded.content)) outcome
      store = true)
    (called : exec (.updateReport jobId ((ReportChanges.ofContent content).against loaded.content))
      outcome store = some (reply, after)) :
    (terms env).invariant after ∧ (terms env).guarantee role (store, trace) (after,
      trace ++ [⟨.updateReport jobId ((ReportChanges.ofContent content).against loaded.content),
        reply⟩]) := by
  have quiet : ∀ event, (terms env).invariant store ∧
      (terms env).guarantee role (store, trace) (store, trace ++ [event]) :=
    fun _ => ⟨stored, fun _ row found => .inl ⟨row, found, rfl⟩⟩
  by_cases effect : outcome.takesEffect = true
  · cases written_of_exec called with
    | unchanged => exact quiet _
    | revised _ _ row present =>
        have named : { row with content }.jobId = jobId := stored jobId row present
        simp only [keepsReportWhole, effect, present, instance', Bool.not_true, Bool.false_or,
          Option.all_some, Bool.or_eq_true, decide_eq_true_eq] at allowed
        rcases allowed with unwritten | leaves
        · rw [unwritten]
          have same : store.putReport jobId
              { row with content := ReportChanges.unchanged.apply row.content } = store := by
            simp only [ReportChanges.unchanged_apply, Store.putReport]
            rw [← present, Function.update_eq_self]
          rw [same]
          exact quiet _
        · rw [ReportChanges.against_ofContent_apply_of_leavesLoaded leaves]
          exact put_computed stored named computes _
  · rw [eq_of_not_takesEffect called (Bool.eq_false_iff.mpr effect)]
    exact quiet _

/-- `save_final_report` stores what the task has computed. -/
theorem safe_saveFinalReport {α : Type} {session : Session} {next : Session → Coroutine α}
    (follows : (Trace.session trace).reports jobId = session.reports jobId)
    (computes : ∀ selected, Trace.Computes env jobId
      (trace ++ [⟨.selectReport jobId, .ok selected⟩]) content)
    (rest : ∀ saved now seen,
      (next saved).Safe ((terms env).protocol role) (fun _ _ => True) (now, seen)) :
    ((saveFinalReport session jobId content).bind next).Safe ((terms env).protocol role)
      (fun _ _ => True) (store, trace) := by
  have refreshed : ∀ {now : Store} {seen : Trace}, ((await (.refreshReport jobId)).bind
      fun refreshed => next (session.loadReport jobId refreshed)).Safe
        ((terms env).protocol role) (fun _ _ => True) (now, seen) := by
    intro now seen
    apply Terms.safe_harmless
    · exact harmless_of_spares trivial
    · exact fun _ _ => trivial
    · intro record now after _ _ _ _
      exact rest _ after _
  rw [saveFinalReport_eq, Program.bind_assoc]
  apply Terms.safe_harmless
  · exact harmless_of_spares trivial
  · exact fun _ _ => trivial
  intro selected now after outcome stored _ called
  cases found : identify (session.reports jobId) selected with
  | none =>
      simp only [Program.bind_assoc]
      apply Terms.safe_preserved fun _ seen => Trace.Computes env jobId seen content
      · exact preserves_of_spares trivial fun _ _ _ _ held => computes_append held _
      · exact stable _ fun _ _ _ held => held
      · exact computes selected
      · exact fun _ _ _ _ => trivial
      · intro createdTime now before _ _ _ _ _ computes
        apply Terms.safe_await
        · intro store reply after outcome stored _ _ called
          exact inserted stored computes called
        · intros
          exact refreshed
        · intros
          exact Program.safe_raise.mpr fun _ _ _ => trivial
  | some loaded =>
      simp only [Program.bind_assoc]
      have seen := Session.see_selectReport (Trace.session trace) (follows.symm ▸ found)
      apply Terms.safe_await
      · intro store reply after outcome stored _ allowed called
        apply revised stored (computes selected) _ allowed called
        rw [Trace.session_append, seen]
        exact Function.update_self _ _ _
      · intros
        exact refreshed
      · intros
        exact Program.safe_raise.mpr fun _ _ _ => trivial

end

/-! ## The programs -/

/-- The session is the one that follows from the calls, among which are the
given ones. -/
structure Gathered (session : Session) (jobId : JobId) (events trace : Trace) : Prop where
  follows : (Trace.session trace).reports jobId = session.reports jobId
  told : events ⊆ trace

/-- The calls that neither load nor write a report. -/
def Op.IsAside (op : Op) : Prop :=
  op.LeavesReports ∧ op.SparesReports

theorem aside_updateJobStatus (session : Session) (jobId : JobId) (changes : JobChanges) :
    (updateJobStatus session jobId changes).Uses Op.IsAside :=
  uses_updateJobStatus _ _ _ ⟨trivial, trivial⟩ (fun _ => ⟨trivial, trivial⟩) ⟨trivial, trivial⟩

section

variable {session : Session} {jobId : JobId} {target : ParsedRepoTarget}
  {rawContext : RepositoryRawContext} {store : Store} {events trace : Trace} {α : Type}

theorem Gathered.append (gathered : Gathered session jobId events trace) (op : Op)
    (aside : Op.IsAside op) (reply : Except Exn op.Reply) :
    Gathered session jobId events (trace ++ [⟨op, reply⟩]) where
  follows := by
    rw [Trace.session_append, Session.see_reports _ reply aside.1]
    exact gathered.follows
  told := List.subset_append_of_subset_left _ gathered.told

theorem Gathered.of_reports {updated : Session} (gathered : Gathered session jobId events trace)
    (same : updated.reports = session.reports) : Gathered updated jobId events trace where
  follows := same ▸ gathered.follows
  told := gathered.told

/-- One call that neither loads nor writes a report, however it ends. -/
theorem safe_aside (op : Op) {resume : Except Exn op.Reply → Coroutine α} (aside : Op.IsAside op)
    (rest : ∀ reply now, (terms env).invariant now →
      (resume reply).Safe ((terms env).protocol role) (fun _ _ => True)
        (now, trace ++ [⟨op, reply⟩])) :
    (Program.call op resume).Safe ((terms env).protocol role) (fun _ _ => True)
      (store, trace) := by
  apply Program.safe_call.mpr
  rintro ⟨now, seen⟩ reply ⟨after, _⟩ stored ⟨rfl, -⟩ ⟨rfl, outcome, allowed, called⟩
  obtain ⟨kept, owed, -⟩ := harmless_of_spares aside.2 seen now outcome reply after stored trivial
    allowed called
  exact ⟨kept, owed, rest reply after kept⟩

/-- Such a call in a program that ends when it raises. -/
theorem safe_await_aside (op : Op) {next : op.Reply → Coroutine α} (aside : Op.IsAside op)
    (rest : ∀ value now, (terms env).invariant now →
      (next value).Safe ((terms env).protocol role) (fun _ _ => True)
        (now, trace ++ [⟨op, .ok value⟩])) :
    ((await op).bind next).Safe ((terms env).protocol role) (fun _ _ => True) (store, trace) := by
  apply Program.Safe.perform_bind
  rintro ⟨now, seen⟩ reply ⟨after, _⟩ stored ⟨rfl, -⟩ ⟨rfl, outcome, allowed, called⟩
  obtain ⟨kept, owed, -⟩ := harmless_of_spares aside.2 seen now outcome reply after stored trivial
    allowed called
  refine ⟨kept, owed, ?_, ?_⟩
  · rintro value rfl
    exact rest value after kept
  · rintro error rfl
    exact Program.safe_raise.mpr fun _ _ _ => trivial

/-- A program that writes no report. -/
theorem safe_of_spares {program : Coroutine α} {state : Store × Trace}
    (uses : program.Uses Op.SparesReports) :
    program.Safe ((terms env).protocol role) (fun _ _ => True) state :=
  Terms.safe_of_uses (uses.mono fun _ spares => harmless_of_spares spares) fun _ _ => trivial

/-- `update_job_status` in the course of an execution. -/
theorem safe_updateJobStatus {changes : JobChanges} {next : Session → Coroutine α}
    (stored : (terms env).invariant store)
    (gathered : Gathered session jobId events trace)
    (rest : ∀ updated now seen, (terms env).invariant now →
      Gathered updated jobId events seen →
      (next updated).Safe ((terms env).protocol role) (fun _ _ => True) (now, seen)) :
    ((updateJobStatus session jobId changes).bind next).Safe ((terms env).protocol role)
      (fun _ _ => True) (store, trace) := by
  apply Terms.safe_bind_of_preserves
    (fun _ seen => Gathered session jobId events seen) _
    (returns_updateJobStatus session jobId changes)
  · exact stable _ fun _ _ _ held => held
  · exact stored
  · exact gathered
  · exact fun _ _ _ _ => trivial
  · intro updated now seen stored gathered same
    exact rest updated now seen stored (gathered.of_reports same)
  · apply (aside_updateJobStatus _ _ _).mono
    intro op aside
    exact preserves_of_spares aside.2 fun _ _ _ reply held => held.append op aside reply

/-- The exceptions that are recorded as the reason of a fallback. -/
theorem safe_recoverAnalysis {insights : Option StructuredAIResponse} {error : Exn}
    {next : Analysis → Coroutine α}
    (rest : (next ⟨insights, some error.str⟩).Safe ((terms env).protocol role) (fun _ _ => True)
      (store, trace)) :
    ((recoverAnalysis insights error).bind next).Safe ((terms env).protocol role) (fun _ _ => True)
      (store, trace) := by
  unfold recoverAnalysis
  split
  · exact rest
  · exact Program.safe_raise.mpr fun _ _ _ => trivial

theorem safe_analyzeRepository {payload : LLMPromptPayload} {cacheKey : String}
    {next : Analysis → Coroutine α}
    (built : buildPromptPayload env.renderField env.settings.aiTokenBudget rawContext =
      .ok payload)
    (gathered : Gathered session jobId events trace)
    (rest : ∀ analysis now seen, Gathered session jobId events seen →
      Trace.Analyzed env rawContext cacheKey seen analysis →
      (next analysis).Safe ((terms env).protocol role) (fun _ _ => True) (now, seen)) :
    ((analyzeRepository payload cacheKey).bind next).Safe ((terms env).protocol role)
      (fun _ _ => True) (store, trace) := by
  rw [analyzeRepository_eq]
  apply safe_aside (.analyze payload) ⟨trivial, trivial⟩
  intro reply now _
  have gathered := gathered.append (.analyze payload) ⟨trivial, trivial⟩ reply
  have asked : ⟨.analyze payload, reply⟩ ∈ trace ++ [⟨.analyze payload, reply⟩] :=
    List.mem_append_right _ (List.mem_singleton_self _)
  cases reply with
  | error error =>
      apply safe_recoverAnalysis
      exact rest _ now _ gathered (.unavailable payload error built asked)
  | ok insights =>
      apply safe_aside (.setCachedAiResult _ _) ⟨trivial, trivial⟩
      intro reply later _
      have gathered := gathered.append (.setCachedAiResult cacheKey
        (mergeWarnings insights payload.warnings)) ⟨trivial, trivial⟩ reply
      cases reply with
      | error error =>
          apply safe_recoverAnalysis
          apply rest _ later _ gathered
          exact .unsaved payload insights error built (List.mem_append_left _ asked)
            (List.mem_append_right _ (List.mem_singleton_self _))
      | ok _ =>
          exact rest _ later _ gathered
            (.analyzed payload insights built (List.mem_append_left _ asked))

/-- The analysis stage comes to an analysis that its calls show. -/
theorem safe_analysisStage {cacheKey : String} {next : Analysis → Coroutine α}
    (gathered : Gathered session jobId events trace)
    (rest : ∀ analysis now seen, Gathered session jobId events seen →
      Trace.Analyzed env rawContext cacheKey seen analysis →
      (next analysis).Safe ((terms env).protocol role) (fun _ _ => True) (now, seen)) :
    ((analysisStage env jobId rawContext cacheKey).bind next).Safe ((terms env).protocol role)
      (fun _ _ => True) (store, trace) := by
  rw [analysisStage_bind]
  apply safe_await_aside (.getCachedAiResult cacheKey) ⟨trivial, trivial⟩
  intro cached now _
  have gathered := gathered.append (.getCachedAiResult cacheKey) ⟨trivial, trivial⟩
    (.ok cached)
  cases cached with
  | some insights =>
      apply rest _ now _ gathered
      exact .cached insights (List.mem_append_right _ (List.mem_singleton_self _))
  | none =>
      cases built : buildPromptPayload env.renderField env.settings.aiTokenBudget rawContext with
      | error error => exact Program.safe_raise.mpr fun _ _ _ => trivial
      | ok payload =>
          apply safe_await_aside .now ⟨trivial, trivial⟩
          intro time now _
          have gathered := gathered.append .now ⟨trivial, trivial⟩ (.ok time)
          apply safe_await_aside (.setState _) ⟨trivial, trivial⟩
          intro _ now _
          apply safe_analyzeRepository built
          · exact gathered.append (.setState _) ⟨trivial, trivial⟩ _
          · exact rest

/-- The completion stage saves what the calls came to. -/
theorem safe_completionStage {cacheKey : String} {analysis : Analysis}
    (gathered : Gathered session jobId [⟨.fetchRepositoryContext target, .ok rawContext⟩] trace)
    (analyzed : Trace.Analyzed env rawContext
      (buildAiCacheKey target.owner target.repo rawContext.commitSha) trace analysis) :
    (completionStage session jobId rawContext cacheKey analysis).Safe ((terms env).protocol role)
      (fun _ _ => True) (store, trace) := by
  apply safe_await_aside .now ⟨trivial, trivial⟩
  intro createdAt now _
  have gathered := gathered.append .now ⟨trivial, trivial⟩ (.ok createdAt)
  apply safe_saveFinalReport gathered.follows
  · intro selected
    apply Trace.Computes.report target rawContext analysis createdAt selected
    · exact List.mem_append_left _ (gathered.told (List.mem_singleton_self _))
    · exact analyzed_append (analyzed_append analyzed _) _
    · exact List.mem_append_left _ (List.mem_append_right _ (List.mem_singleton_self _))
    · exact List.mem_append_right _ (List.mem_singleton_self _)
  · intro saved now seen
    apply safe_of_spares
    apply Program.Uses.bind
    · exact uses_updateJobStatus _ _ _ trivial (fun _ => trivial) trivial
    intro updated
    apply Program.Uses.perform_bind
    · trivial
    intro time
    exact Program.Uses.perform trivial

/-- An execution in its session. -/
theorem safe_pipelineSession (stored : (terms env).invariant store)
    (gathered : Gathered .empty jobId [] trace) :
    (pipelineSession env jobId target .empty).Safe ((terms env).protocol role) (fun _ _ => True)
      (store, trace) := by
  apply safe_updateJobStatus stored gathered
  intro started now seen stored gathered
  apply safe_await_aside (.fetchRepositoryContext target) ⟨trivial, trivial⟩
  intro rawContext now stored
  have fetched : Gathered started jobId [⟨.fetchRepositoryContext target, .ok rawContext⟩]
      (seen ++ [⟨.fetchRepositoryContext target, .ok rawContext⟩]) :=
    ⟨(gathered.append (.fetchRepositoryContext target) ⟨trivial, trivial⟩ _).follows,
        List.subset_append_right _ _⟩
  apply safe_await_aside .now ⟨trivial, trivial⟩
  intro time now stored
  have gathered := fetched.append .now ⟨trivial, trivial⟩ (.ok time)
  apply safe_await_aside (.setState _) ⟨trivial, trivial⟩
  intro _ now stored
  apply safe_updateJobStatus stored (gathered.append (.setState _) ⟨trivial, trivial⟩ _)
  intro prepared now seen stored gathered
  apply safe_analysisStage gathered
  intro analysis now seen gathered analyzed
  exact safe_completionStage gathered analyzed

theorem safe_executeResearchPipeline (message : ResearchJobMessage) :
    (executeResearchPipeline env message).Safe ((terms env).protocol role) (fun _ _ => True)
      (store, []) := by
  unfold executeResearchPipeline
  cases parseGithubRepositoryUrl env.urlLibrary message.repoUrl with
  | error error => exact Program.safe_raise.mpr fun _ _ _ => trivial
  | ok target =>
      have gathered : Gathered .empty message.jobId [] [] := ⟨rfl, List.nil_subset _⟩
      apply safe_await_aside (.getState message.jobId) ⟨trivial, trivial⟩
      intro existing now stored
      have gathered := gathered.append (.getState message.jobId) ⟨trivial, trivial⟩ (.ok existing)
      apply safe_await_aside .now ⟨trivial, trivial⟩
      intro time now stored
      have gathered := gathered.append .now ⟨trivial, trivial⟩ (.ok time)
      apply safe_await_aside (.setState _) ⟨trivial, trivial⟩
      intro _ now stored
      apply Program.Safe.weaken
      · apply Terms.safe_withSession stored (harmless_of_spares trivial)
        exact safe_pipelineSession stored (gathered.append (.setState _) ⟨trivial, trivial⟩ _)
      · exact fun _ _ _ _ => trivial

theorem safe_handleReceived (received : ReceivedMessage) (stored : (terms env).invariant store) :
    (handleReceived env received).Safe ((terms env).protocol role) (fun _ _ => True)
      (store, []) := by
  have attempted : (executeResearchPipeline env received.body).attempt.Safe
      ((terms env).protocol role) (fun _ _ => True) (store, []) :=
    Program.Safe.attempt (safe_executeResearchPipeline received.body)
  rw [handleReceived_eq]
  apply attempted.bind stored
  · intro outcome now _ _
    apply safe_of_spares
    apply (uses_settle env.settings received outcome).mono
    intro op settling
    cases op with
    | insertReport | updateReport => cases settling
    | _ => trivial
  · exact fun _ _ _ _ => trivial

/-! ## Submissions -/

/-- A cached analysis completes the job at once. -/
theorem safe_completeFromCache {snapshot : ResearchJobStateSnapshot}
    {cachedAi : StructuredAIResponse}
    (gathered : Gathered session jobId [⟨.fetchRepositoryContext target, .ok rawContext⟩] trace)
    (read : ⟨.getCachedAiResult (buildAiCacheKey target.owner target.repo rawContext.commitSha),
      .ok (some cachedAi)⟩ ∈ trace) :
    (completeFromCache session jobId rawContext snapshot cachedAi).Safe
      ((terms env).protocol role) (fun _ _ => True) (store, trace) := by
  apply safe_await_aside .now ⟨trivial, trivial⟩
  intro createdAt now _
  have gathered := gathered.append .now ⟨trivial, trivial⟩ (.ok createdAt)
  apply safe_saveFinalReport gathered.follows
  · intro selected
    apply Trace.Computes.report target rawContext ⟨some cachedAi, none⟩ createdAt selected
    · exact List.mem_append_left _ (gathered.told (List.mem_singleton_self _))
    · exact analyzed_append (analyzed_append (.cached cachedAi read) _) _
    · exact List.mem_append_left _ (List.mem_append_right _ (List.mem_singleton_self _))
    · exact List.mem_append_right _ (List.mem_singleton_self _)
  · intro saved now seen
    apply safe_of_spares
    apply Program.Uses.bind
    · exact uses_updateJobStatus _ _ _ trivial (fun _ => trivial) trivial
    intro updated
    apply Program.Uses.perform_bind
    · trivial
    intro time
    apply Program.Uses.perform_bind
    · trivial
    intro _
    exact Program.uses_pure _

theorem safe_announceJob (request : ResearchRequest)
    (gathered : Gathered session jobId [⟨.fetchRepositoryContext target, .ok rawContext⟩] trace) :
    (announceJob session target request rawContext jobId).Safe ((terms env).protocol role)
      (fun _ _ => True) (store, trace) := by
  apply safe_await_aside .now ⟨trivial, trivial⟩
  intro time now _
  have gathered := gathered.append .now ⟨trivial, trivial⟩ (.ok time)
  apply safe_await_aside (.setState _) ⟨trivial, trivial⟩
  intro _ now _
  have gathered := gathered.append (.setState (pendingSnapshot jobId time rawContext.instantData))
    ⟨trivial, trivial⟩ (.ok ())
  apply safe_await_aside (.getCachedAiResult _) ⟨trivial, trivial⟩
  intro cached now _
  cases cached with
  | some cachedAi =>
      apply safe_completeFromCache (gathered.append (.getCachedAiResult _) ⟨trivial, trivial⟩ _)
      exact List.mem_append_right _ (List.mem_singleton_self _)
  | none =>
      apply safe_of_spares
      apply Program.Uses.perform_bind
      · trivial
      intro enqueuedAt
      apply Program.Uses.bind
      · exact Program.Uses.attempt (.perform trivial)
      intro sent
      cases sent with
      | ok _ => exact Program.uses_pure _
      | error error =>
          apply Program.Uses.bind
          · exact uses_updateJobStatus _ _ _ trivial (fun _ => trivial) trivial
          intro updated
          apply Program.Uses.perform_bind
          · trivial
          intro failedAt
          apply Program.Uses.perform_bind
          · trivial
          intro _
          exact Program.uses_raise _

theorem safe_createJobRecord {record : ResearchJobRecord} {next : Session → Coroutine α}
    (gathered : Gathered session jobId events trace)
    (rest : ∀ created now seen, Gathered created jobId events seen →
      (next created).Safe ((terms env).protocol role) (fun _ _ => True) (now, seen)) :
    ((createJobRecord session record).bind next).Safe ((terms env).protocol role)
      (fun _ _ => True) (store, trace) := by
  rw [createJobRecord_bind]
  apply safe_await_aside (.insertJob record) ⟨trivial, trivial⟩
  intro _ now _
  have gathered := gathered.append (.insertJob record) ⟨trivial, trivial⟩ (.ok ())
  apply safe_await_aside (.refreshJob _) ⟨trivial, trivial⟩
  intro refreshed now _
  have gathered := gathered.append (.refreshJob record.jobId) ⟨trivial, trivial⟩ (.ok refreshed)
  exact rest _ now _ (gathered.of_reports rfl)

theorem safe_submit (request : ResearchRequest) :
    (submit env request).Safe ((terms env).protocol role) (fun _ _ => True) (store, []) := by
  unfold submit
  cases parseGithubRepositoryUrl env.urlLibrary request.url with
  | error error => exact Program.safe_raise.mpr fun _ _ _ => trivial
  | ok target =>
      apply safe_await_aside (.fetchRepositoryContext target) ⟨trivial, trivial⟩
      intro rawContext now _
      apply safe_await_aside .uuid4 ⟨trivial, trivial⟩
      intro jobId now _
      have gathered : Gathered .empty jobId [⟨.fetchRepositoryContext target, .ok rawContext⟩]
          [⟨.fetchRepositoryContext target, .ok rawContext⟩] := ⟨rfl, List.Subset.refl _⟩
      have gathered := gathered.append .uuid4 ⟨trivial, trivial⟩ (.ok jobId)
      apply safe_createJobRecord gathered
      intro session now seen gathered
      exact safe_announceJob request gathered

theorem safe_submitResearchJob (context : RequestContext) (request : ResearchRequest)
    (stored : (terms env).invariant store) :
    (submitResearchJob env context request).Safe ((terms env).protocol role) (fun result _ =>
      ∀ answer, result = .ok answer → (terms env).answers role answer) (store, []) := by
  have returned : (submit env request).Safe ((terms env).protocol role)
      (fun result _ => ∀ value, result = .ok value → True) (store, []) :=
    (safe_submit request).weaken fun _ _ _ _ _ _ => trivial
  apply (Terms.safe_answering stored returned).weaken
  intros
  trivial

end

/-! ## Runs -/

theorem enforced (env : Environment) :
    (terms env).Enforced env (callsAllowed keepsReportWhole) where
  submits context request store stored := safe_submitResearchJob context request stored
  polls context jobId store stored := by
    apply Terms.safe_of_uses _ fun _ _ _ _ => trivial
    apply (uses_answering context .status (uses_pollJob jobId)).mono
    intro op poll
    cases op with
    | getState | selectReport =>
        apply harmless_of_spares
        trivial
    | _ => cases poll
  works received store stored := safe_handleReceived received stored
  drifts := by
    intro store after drifted stored
    cases drifted with
    | expireSnapshot | expireCached | queue => exact ⟨stored, fun _ _ => trivial⟩
  calls _ permitted found pending := callsAllowed_resume permitted found pending
  others _ _ _ _ _ _ _ _ := trivial

/-- Every stored report has been computed by one task. -/
def Authored (env : Environment) (state : Service × Journal) : Prop :=
  ∀ jobId row, state.1.store.reports jobId = some row →
    ∃ index, Trace.Computes env jobId (state.2 index) row.content

theorem authored_step {env : Environment} {action : Action} {service after : Service}
    {journal : Journal} (kept : (terms env).Kept env.settings (service, journal))
    (permitted : callsAllowed keepsReportWhole action (service, journal))
    (moved : Step env service action after) (authored : Authored env (service, journal)) :
    Authored env (after, journal.note action service) := by
  cases moved with
  | resume index outcome task next store found resumes =>
      obtain ⟨op, reply, pending, called, -, owed, -⟩ :=
        (enforced env).call kept permitted found resumes
      rw [Journal.note_of_resume found pending called]
      intro jobId row stored
      rcases owed jobId row stored with ⟨old, before, same⟩ | computes
      · obtain ⟨author, computes⟩ := authored jobId old before
        rw [same] at computes
        refine ⟨author, ?_⟩
        by_cases self : author = index
        · subst self
          simp only [Function.update_self]
          exact computes_append computes _
        · simp only [Function.update_of_ne self]
          exact computes
      · refine ⟨index, ?_⟩
        simp only [Function.update_self]
        exact computes
  | _ => exact authored

end Authorship

/-- Every stored report, under the id of its job, has been computed by one
execution, in every state of a run in which no update of a report leaves out a
column that has changed since its session loaded the row. -/
theorem report_of_one_execution {env : Environment} {dlqArn : String}
    {aiCache : String → Option CachedPayload} {actions : List Action} {service : Service}
    {journal : Journal}
    (ran : runWithin (Service.noted env) (callsAllowed keepsReportWhole) actions
      (Service.initial env.settings dlqArn aiCache).unnoted = some (service, journal))
    {jobId : JobId} {row : FinalResearchReportRecord}
    (stored : service.store.reports jobId = some row) :
    row.jobId = jobId ∧ ∃ index, Trace.Computes env jobId (journal index) row.content := by
  have initially : (Authorship.terms env).invariant
      (Service.initial env.settings dlqArn aiCache).store := fun _ _ found => by cases found
  have held : (Authorship.terms env).Kept env.settings (service, journal) ∧
      Authorship.Authored env (service, journal) := by
    apply runWithin_induction (fun state => (Authorship.terms env).Kept env.settings state ∧
      Authorship.Authored env state) _ _ ran
    · rintro action ⟨before, noted⟩ ⟨after, next⟩ permitted moved ⟨kept, authored⟩
      obtain ⟨stepped, rfl⟩ := noting_eq_some_iff.mp moved
      have step := Service.step_cases stepped
      exact ⟨(Authorship.enforced env).step kept permitted step,
        Authorship.authored_step kept permitted step authored⟩
    · exact ⟨Terms.Enforced.kept_initial initially, fun _ _ found => by cases found⟩
  exact ⟨held.1.invariant jobId row stored, held.2 jobId row stored⟩

/-! ## Reports that are updated at once -/

/-- The report that the last call of a task has looked up for its session. -/
def Trace.lookedUp (trace : Trace) : Option JobId :=
  match trace.getLast? with
  | some ⟨.selectReport jobId, _⟩ =>
      if ((Trace.session trace.dropLast).reports jobId).isNone then some jobId else none
  | _ => none

/-- A task that waits for the update of a report has just looked the report up,
and moves next. -/
def updatesAtOnce (action : Action) (state : Service × Journal) : Bool :=
  (List.range state.1.tasks.length).all fun index =>
    (state.1.tasks[index]?.bind Task.pending).all fun op =>
      match op with
      | .updateReport jobId _ =>
          decide (Trace.lookedUp (state.2 index) = some jobId) &&
            match action with
            | .resume author _ => author = index
            | _ => false
      | _ => true

/-- Whoever is about to update a report has loaded the row as it is stored. -/
def LoadedRows (state : Service × Journal) : Prop :=
  ∀ index task jobId changes loaded row, state.1.tasks[index]? = some task →
    task.pending = some (.updateReport jobId changes) →
    Trace.lookedUp (state.2 index) = some jobId →
    (Trace.session (state.2 index)).reports jobId = some loaded →
    state.1.store.reports jobId = some row → loaded = row

theorem Trace.lookedUp_append {trace : Trace} {event : Event Ops Exn} {jobId : JobId}
    (looked : Trace.lookedUp (trace ++ [event]) = some jobId) :
    (∃ reply, event = ⟨.selectReport jobId, reply⟩) ∧
      (Trace.session trace).reports jobId = none := by
  obtain ⟨op, reply⟩ := event
  cases op with
  | selectReport id =>
      simp only [lookedUp, List.getLast?_concat, List.dropLast_concat, Option.ite_none_right_eq_some,
        Option.isNone_iff_eq_none, Option.some.injEq] at looked
      obtain ⟨unloaded, rfl⟩ := looked
      exact ⟨⟨reply, rfl⟩, unloaded⟩
  | _ => simp [lookedUp] at looked

/-- Whom the condition lets move while a task waits for an update. -/
theorem updatesAtOnce_pending {action : Action} {service : Service} {journal : Journal}
    (permitted : updatesAtOnce action (service, journal)) {index : Nat} {task : Task}
    {jobId : JobId} {changes : ReportChanges} (found : service.tasks[index]? = some task)
    (pending : task.pending = some (.updateReport jobId changes)) :
    Trace.lookedUp (journal index) = some jobId ∧ ∃ outcome, action = .resume index outcome := by
  have within := (List.getElem?_eq_some_iff.mp found).1
  have asked := List.all_eq_true.mp permitted index (List.mem_range.mpr within)
  simp only [found, pending, Option.bind_some, Option.all_some, Bool.and_eq_true,
    decide_eq_true_eq] at asked
  obtain ⟨looked, mover⟩ := asked
  cases action with
  | resume author outcome =>
      obtain rfl : author = index := by simpa using mover
      exact ⟨looked, outcome, rfl⟩
  | _ => cases mover

/-- A step that meets the condition leaves no stale row behind. -/
theorem LoadedRows.step {env : Environment} {action : Action} {service after : Service}
    {journal : Journal} (recorded : service.Recorded journal)
    (permitted : updatesAtOnce action (service, journal))
    (moved : Step env service action after) :
    LoadedRows (after, journal.note action service) := by
  intro index task jobId changes loaded row found pending looked seen stored
  -- a task that has already waited for its update has moved now
  have waited : service.tasks[index]? = some task → ∃ outcome, action = .resume index outcome :=
    fun old => (updatesAtOnce_pending permitted old pending).2
  have spawned : service.tasks.length = index → Trace.lookedUp (journal index) ≠ some jobId := by
    intro last
    rw [recorded.fresh index (Nat.le_of_eq last)]
    nofun
  cases moved with
  | resume author outcome old next store present resumes =>
      obtain ⟨op, reply, waiting, called⟩ := resumes.exec
      rw [Journal.note_of_resume present waiting called] at looked seen
      rcases Service.replaced_cases found with ⟨rfl, rfl⟩ | ⟨different, before⟩
      · simp only [Function.update_self] at looked seen
        obtain ⟨⟨reply, same⟩, unloaded⟩ := Trace.lookedUp_append looked
        cases same
        rw [Trace.session_append] at seen
        cases reply with
        | error error => exact absurd (unloaded.symm.trans seen) nofun
        | ok selected =>
            obtain ⟨current, rfl⟩ := selectReport_ok called
            have identified : identify ((Trace.session (journal index)).reports jobId) selected =
                some row := by
              rw [unloaded]
              exact (identify_none selected).trans (current.trans stored)
            rw [Session.see_selectReport _ identified] at seen
            simpa [Session.loadReport] using seen.symm
      · obtain ⟨outcome, same⟩ := waited before
        exact absurd (Action.resume.inj same).1.symm different
  | crash author old present live =>
      rcases Service.replaced_cases found with ⟨rfl, rfl⟩ | ⟨different, before⟩
      · cases pending
      · exact absurd (waited before).choose_spec nofun
  | submit | poll =>
      rcases Service.spawned_cases found with before | ⟨last, -⟩
      · exact absurd (waited before).choose_spec nofun
      · exact absurd looked (spawned last.symm)
  | deliver =>
      rcases Service.spawned_cases found with before | ⟨last, -⟩
      · exact absurd (waited before).choose_spec nofun
      · exact absurd looked (spawned last.symm)
  | _ => exact absurd (waited found).choose_spec nofun

/-- A run in which reports are updated as soon as they are looked up keeps them
whole. -/
theorem keepsReportWhole_of_updatesAtOnce {env : Environment} {dlqArn : String}
    {aiCache : String → Option CachedPayload} {actions : List Action} {final : Service × Journal}
    (ran : runWithin (Service.noted env) updatesAtOnce actions
      (Service.initial env.settings dlqArn aiCache).unnoted = some final) :
    runWithin (Service.noted env) (callsAllowed keepsReportWhole) actions
      (Service.initial env.settings dlqArn aiCache).unnoted = some final := by
  refine runWithin_of_invariant
    (fun state => state.1.Recorded state.2 ∧ LoadedRows state) ?_ ?_ ?_ ran
  · rintro action ⟨service, journal⟩ ⟨recorded, current⟩ permitted
    cases action with
    | resume index outcome =>
        simp only [callsAllowed]
        rw [Option.all_eq_true]
        intro task found
        rw [Option.all_eq_true]
        intro op pending
        cases op with
        | updateReport jobId changes =>
            obtain ⟨looked, -⟩ := updatesAtOnce_pending permitted found pending
            simp only [keepsReportWhole, Bool.or_eq_true, Option.all_eq_true]
            right
            intro row stored loaded seen
            rw [current index task jobId changes loaded row found pending looked seen stored]
            exact ReportChanges.leavesLoaded_self changes row.content
        | _ => rfl
    | _ => rfl
  · rintro action ⟨service, journal⟩ ⟨after, noted⟩ permitted moved ⟨recorded, -⟩
    obtain ⟨stepped, rfl⟩ := noting_eq_some_iff.mp moved
    have step := Service.step_cases stepped
    exact ⟨step.recorded recorded, LoadedRows.step recorded permitted step⟩
  · exact ⟨⟨fun _ _ => rfl, fun _ _ _ found => by cases found⟩, fun _ _ _ _ _ _ found => by cases found⟩

namespace Sample

/-- The calls that save the report of a job that has one and complete the job. -/
def resaved : List Outcome :=
  [.ok, .ok, .done (.flag true), .ok, .ok, .done (.time noon), .ok, .ok]

/-- A pipeline whose analysis raises, up to the look at the stored report. -/
def unanalyzedReport (error : Exn) : List Outcome :=
  fetched ++ ([.done (.time noon), .ok, .failed error, .done (.time noon),
    .done (.flag true)] : List Outcome)

/-- A pipeline with a fresh analysis, up to the look at the stored report. -/
def analyzedReport : List Outcome :=
  fetched ++ ([.done (.time noon), .ok, .done (.insights insights), .ok, .done (.time noon),
    .done (.flag true)] : List Outcome)

/-- The first execution falls back, and its worker dies before the message is
deleted. -/
def fallenBack : List Action :=
  submission ++ .deliver 0 :: calls 1 (unanalyzed (.llmUnavailable "down")) ++
    [.crash 1, .timeout 0]

/-- The second execution replaces the report of the first. -/
def replacedReport : List Action :=
  fallenBack ++ .deliver 0 :: calls 2 (analyzedReport ++ resaved)

/-- The third execution has loaded the report of the first when the second one
replaces it. -/
def overlapping : List Action :=
  fallenBack ++ [.deliver 0, .timeout 0, .deliver 0] ++
    calls 3 (unanalyzedReport (.llmUnavailable "rate limited")) ++
    calls 2 (analyzedReport ++ resaved) ++ calls 3 resaved

end Sample

/-- A report that the second execution replaced. -/
theorem report_of_one_execution_replaced :
    ∃ service journal row,
      runWithin (Service.noted Sample.environment) (callsAllowed keepsReportWhole)
        Sample.replacedReport Sample.cold.unnoted = some (service, journal) ∧
      service.store.reports "job-1" = some row ∧ row.jobId = "job-1" ∧
      ∃ index, Trace.Computes Sample.environment "job-1" (journal index) row.content := by
  have checked : (runWithin (Service.noted Sample.environment) updatesAtOnce
      Sample.replacedReport Sample.cold.unnoted).any (fun final =>
        (final.1.store.reports "job-1").isSome) = true := by
    decide +kernel
  obtain ⟨⟨service, journal⟩, atOnce, found⟩ := (Option.any_eq_true _ _).mp checked
  have ran := keepsReportWhole_of_updatesAtOnce atOnce
  obtain ⟨row, stored⟩ := Option.isSome_iff_exists.mp found
  exact ⟨service, journal, row, ran, stored, report_of_one_execution ran stored⟩

/-- The call does not fail to keep an analysis. -/
def Trace.keepsAnalysis : Event Ops Exn → Bool
  | ⟨.setCachedAiResult _ _, .error _⟩ => false
  | _ => true

/-- Only an execution that could not keep its analysis has a reason for a
fallback beside insights. -/
theorem Trace.Computes.reason_eq_none {env : Environment} {jobId : JobId} {trace : Trace}
    {content : ReportContent} (computes : Trace.Computes env jobId trace content)
    (keeps : trace.all Trace.keepsAnalysis = true) (insights : content.aiInsights.isSome) :
    content.aiFallbackReason = none := by
  cases computes with
  | report target rawContext analysis createdAt selected fetched analyzed dated saved =>
      cases analyzed with
      | cached | analyzed => rfl
      | unavailable => cases insights
      | unsaved payload computed error built asked kept =>
          have unkept := List.all_eq_true.mp keeps _ kept
          cases unkept

/-- The insights of the second execution stand beside the fallback reason of
the third. -/
theorem report_of_two_executions :
    ∃ service journal row,
      run (Service.noted Sample.environment) Sample.overlapping Sample.cold.unnoted =
        some (service, journal) ∧
      service.store.reports "job-1" = some row ∧
      ¬ ∃ index, Trace.Computes Sample.environment "job-1" (journal index) row.content := by
  have checked : (run (Service.noted Sample.environment) Sample.overlapping
      Sample.cold.unnoted).any (fun final => final.1.tasks.length == 4 &&
        (List.range 4).all (fun index => (final.2 index).all Trace.keepsAnalysis) &&
        (final.1.store.reports "job-1").any fun row =>
          row.content.aiInsights.isSome && row.content.aiFallbackReason.isSome) = true := by
    decide +kernel
  obtain ⟨⟨service, journal⟩, ran, found⟩ := (Option.any_eq_true _ _).mp checked
  simp only [Bool.and_eq_true, beq_iff_eq] at found
  obtain ⟨⟨counted, keeps⟩, found⟩ := found
  obtain ⟨row, stored, torn⟩ := (Option.any_eq_true _ _).mp found
  obtain ⟨insights, reason⟩ := (Bool.and_eq_true _ _).mp torn
  refine ⟨service, journal, row, ran, stored, ?_⟩
  rintro ⟨index, computes⟩
  have kept : (journal index).all Trace.keepsAnalysis = true := by
    rcases Nat.lt_or_ge index 4 with within | beyond
    · exact List.all_eq_true.mp keeps index (List.mem_range.mpr within)
    · have unused : journal index = [] :=
        (Service.recorded_of_run ran).fresh index (counted ▸ beyond)
      rw [unused]
      rfl
  rw [computes.reason_eq_none kept insights] at reason
  cases reason

end ResearchTool
