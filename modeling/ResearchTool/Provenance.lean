import ResearchTool.Authorship
import ResearchTool.GitHubAdapter
import ResearchTool.Isolation
import ResearchTool.Naming
import ResearchTool.Transport

/-!
# Where insights come from

An entry of the AI cache is the analysis of a prompt that some task built for the
repository and the commit of its key, and so are the insights of a stored report,
unless an update of the report was torn or the canonical URL of the job names
another repository.  What jobs share is that cache; nothing else of a job depends
on other jobs.
-/

namespace ResearchTool

open Process Naming

/-- What the calls of a task came to as insights into a repository at a commit: it
fetched the repository and asked the language model with the prompt built from
what it fetched. -/
inductive Trace.Analyzes (env : Environment) (target : ParsedRepoTarget) (commitSha : String)
    (trace : Trace) : StructuredAIResponse → Prop where
  | analyzed (rawContext : RepositoryRawContext) (payload : LLMPromptPayload)
      (insights : StructuredAIResponse)
      (fetched : ⟨.fetchRepositoryContext target, .ok rawContext⟩ ∈ trace)
      (commit : rawContext.commitSha = commitSha)
      (built : buildPromptPayload env.renderField env.settings.aiTokenBudget rawContext =
        .ok payload)
      (asked : ⟨.analyze payload, .ok insights⟩ ∈ trace) :
      Analyzes env target commitSha trace (mergeWarnings insights payload.warnings)

/-- Some task came to these insights into the repository at the commit. -/
def Journal.Produced (env : Environment) (journal : Journal) (owner repo commitSha : String)
    (insights : StructuredAIResponse) : Prop :=
  ∃ index target, target.owner = owner ∧ target.repo = repo ∧
    Trace.Analyzes env target commitSha (journal index) insights

/-- No update tears a report, and no submission names a repository whose canonical
URL is read as that of another one. -/
def keepsProvenance (env : Environment) (action : Action) (state : Service × Journal) : Bool :=
  callsAllowed keepsReportWhole action state &&
    match action with
    | .submit _ request => !endsInDoubleGit env.urlLibrary request.url
    | _ => true

namespace Provenance

/-! ## Keys -/

/-- A text is read up to the first separator in one way. -/
theorem append_cons_inj_of_absent {α : Type} {separator : α} {left other rest tail : List α}
    (absent : separator ∉ left) (absentToo : separator ∉ other)
    (same : left ++ separator :: rest = other ++ separator :: tail) :
    left = other ∧ rest = tail := by
  induction left generalizing other with
  | nil =>
      cases other with
      | nil => exact ⟨rfl, (List.cons.inj same).2⟩
      | cons first more => exact absurd ((List.cons.inj same).1 ▸ List.mem_cons_self) absentToo
  | cons first letters ih =>
      cases other with
      | nil => exact absurd ((List.cons.inj same).1 ▸ List.mem_cons_self) absent
      | cons second others =>
          obtain ⟨rfl, more⟩ := List.cons.inj same
          obtain ⟨rfl, ends⟩ := ih (fun member => absent (List.mem_cons_of_mem _ member))
            (fun member => absentToo (List.mem_cons_of_mem _ member)) more
          exact ⟨rfl, ends⟩

/-- The owner and the name of an accepted URL consist of slug characters. -/
theorem slugs_of_parse {lib : Python.UrlLibrary} {url : String} {target : ParsedRepoTarget}
    (accepted : parseGithubRepositoryUrl lib url = .ok target) :
    (∀ c ∈ target.owner.toList, isSlugChar c = true) ∧
      ∀ c ∈ target.repo.toList, isSlugChar c = true := by
  obtain ⟨owner, segment, -, parsed, ownerLine, segmentLine⟩ := segments_of_parse accepted
  have accepted := acceptedSegments_of_parseSegments parsed
  have repoLine : '\n' ∉ Python.removeSuffix gitSuffix segment :=
    fun member => segmentLine (Python.removeSuffix_subset _ _ member)
  rw [accepted.owner, accepted.repo, String.toList_ofList, String.toList_ofList]
  exact ⟨((slugMatches_iff ownerLine).mp accepted.ownerSlug).2,
    ((slugMatches_iff repoLine).mp accepted.repoSlug).2⟩

/-- The alphabets of owners and names keep the parts of a key apart. -/
theorem key_parts {lib : Python.UrlLibrary} {url other : String}
    {target another : ParsedRepoTarget} {commitSha otherSha : String}
    (accepted : parseGithubRepositoryUrl lib url = .ok target)
    (also : parseGithubRepositoryUrl lib other = .ok another)
    (same : buildAiCacheKey target.owner target.repo commitSha =
      buildAiCacheKey another.owner another.repo otherSha) :
    target.owner = another.owner ∧ target.repo = another.repo ∧ commitSha = otherSha := by
  have letters : ∀ (owner repo sha : String), (buildAiCacheKey owner repo sha).toList =
      owner.toList ++ '/' :: (repo.toList ++ '@' :: sha.toList) := by
    intro owner repo sha
    have at' : "@".toList = ['@'] := by decide +kernel
    simp [buildAiCacheKey, String.toList_append, slash_toList, at']
  have foreign : ∀ {text : List Char} {c : Char}, isSlugChar c = false →
      (∀ d ∈ text, isSlugChar d = true) → c ∉ text := by
    intro text c foreign slugs member
    rw [slugs c member] at foreign
    cases foreign
  obtain ⟨owners, repos⟩ := slugs_of_parse accepted
  obtain ⟨otherOwners, otherRepos⟩ := slugs_of_parse also
  have lists := congrArg String.toList same
  rw [letters, letters] at lists
  have slash : isSlugChar '/' = false := by decide
  have sign : isSlugChar '@' = false := by decide
  obtain ⟨owner, rest⟩ := append_cons_inj_of_absent (foreign slash owners)
    (foreign slash otherOwners) lists
  obtain ⟨repo, sha⟩ := append_cons_inj_of_absent (foreign sign repos)
    (foreign sign otherRepos) rest
  exact ⟨String.toList_injective owner, String.toList_injective repo,
    String.toList_injective sha⟩

/-! ## Writing to the cache -/

/-- What the calls of a task show about an entry of the AI cache. -/
def Supports (env : Environment) (cacheKey : String) (payload : CachedPayload) (trace : Trace) :
    Prop :=
  ∃ url target commitSha insights, parseGithubRepositoryUrl env.urlLibrary url = .ok target ∧
    cacheKey = buildAiCacheKey target.owner target.repo commitSha ∧ payload = .valid insights ∧
    Trace.Analyzes env target commitSha trace insights

/-- Every entry that a call puts into the AI cache is supported by the calls of its
task. -/
def terms (env : Environment) : Terms where
  invariant _ := True
  rely _ _ _ _ := True
  allows _ _ _ _ _ := True
  guarantee _ before after := ∀ cacheKey payload, after.1.aiCache cacheKey = some payload →
    before.1.aiCache cacheKey = some payload ∨ Supports env cacheKey payload after.2
  answers _ _ := True
  rely_refl _ _ _ := trivial
  rely_trans _ _ := trivial

/-- The operation writes nothing to the AI cache. -/
def Op.SparesCache : Op → Prop
  | .setCachedAiResult _ _ => False
  | _ => True

section

variable {env : Environment} {role : Role} {store : Store} {trace : Trace} {α β : Type}

theorem sparesCache {op : Op} {after : Store} (written : Written store op after)
    (spares : Op.SparesCache op) : after.aiCache = store.aiCache := by
  cases written with
  | cached => cases spares
  | _ => rfl

theorem preserves_of_spares {fact : Store → Trace → Prop} {op : Op} (spares : Op.SparesCache op)
    (keeps : ∀ before after trace reply, fact before trace → fact after (trace ++ [⟨op, reply⟩])) :
    (terms env).Preserves role fact op := by
  intro trace before outcome reply after _ holds _ called
  refine ⟨trivial, ?_, keeps before after trace reply holds⟩
  intro cacheKey payload found
  rw [show after.aiCache = before.aiCache from sparesCache (written_of_exec called) spares]
    at found
  exact .inl found

theorem harmless_of_spares {op : Op} (spares : Op.SparesCache op) :
    (terms env).Harmless role op :=
  preserves_of_spares spares fun _ _ _ _ _ => trivial

theorem safe_of_spares {program : Coroutine α} {state : Store × Trace}
    (uses : program.Uses Op.SparesCache) :
    program.Safe ((terms env).protocol role) (fun _ _ => True) state :=
  Terms.safe_of_uses (uses.mono fun _ => harmless_of_spares) fun _ _ => trivial

/-- What a program adds to the calls of its task if it does not write to the
cache. -/
theorem safe_after (fact : Trace → Prop) {program : Coroutine β} {next : β → Coroutine α}
    (uses : program.Uses Op.SparesCache) (holds : fact trace)
    (grows : ∀ trace event, fact trace → fact (trace ++ [event]))
    (rest : ∀ value now seen, fact seen →
      (next value).Safe ((terms env).protocol role) (fun _ _ => True) (now, seen)) :
    (program.bind next).Safe ((terms env).protocol role) (fun _ _ => True) (store, trace) := by
  apply Terms.safe_bind_of_preserves (fun _ seen => fact seen) _
    (Program.returns_of_forall program (fun _ => True) fun _ => trivial)
  · exact fun _ _ _ _ held => held
  · trivial
  · exact holds
  · exact fun _ _ _ _ => trivial
  · exact fun value now seen _ held _ => rest value now seen held
  · apply uses.mono
    intro op spares
    exact preserves_of_spares spares fun _ _ trace reply holds => grows trace _ holds

/-- One call that does not write to the cache, in a program that ends when it
raises. -/
theorem safe_await {op : Op} {next : op.Reply → Coroutine α} (spares : Op.SparesCache op)
    (rest : ∀ value now, (next value).Safe ((terms env).protocol role) (fun _ _ => True)
      (now, trace ++ [⟨op, .ok value⟩])) :
    ((await op).bind next).Safe ((terms env).protocol role) (fun _ _ => True) (store, trace) := by
  apply Terms.safe_harmless (harmless_of_spares spares) fun _ _ => trivial
  intro value now after _ _ _ _
  exact rest value after

/-! ## The pipeline -/

section

variable {url : String} {target : ParsedRepoTarget} {rawContext : RepositoryRawContext}

theorem spares_saveFinalReport (session : Session) (jobId : JobId) (content : ReportContent) :
    (saveFinalReport session jobId content).Uses Op.SparesCache :=
  uses_saveFinalReport _ _ _ trivial trivial (fun _ => trivial) (fun _ => trivial) trivial

theorem spares_updateJobStatus (session : Session) (jobId : JobId) (changes : JobChanges) :
    (updateJobStatus session jobId changes).Uses Op.SparesCache :=
  uses_updateJobStatus _ _ _ trivial (fun _ => trivial) trivial

theorem spares_completionStage (session : Session) (jobId : JobId)
    (rawContext : RepositoryRawContext) (cacheKey : String) (analysis : Analysis) :
    (completionStage session jobId rawContext cacheKey analysis).Uses Op.SparesCache := by
  apply Program.Uses.perform_bind
  · trivial
  intro createdAt
  apply Program.Uses.bind
  · exact spares_saveFinalReport _ _ _
  intro saved
  apply Program.Uses.bind
  · exact spares_updateJobStatus _ _ _
  intro updated
  apply Program.Uses.perform_bind
  · trivial
  intro now
  exact Program.Uses.perform trivial

/-- The language model is asked, and its insights are put into the cache. -/
theorem safe_analyzeRepository {payload : LLMPromptPayload} {next : Analysis → Coroutine α}
    (accepted : parseGithubRepositoryUrl env.urlLibrary url = .ok target)
    (fetched : ⟨.fetchRepositoryContext target, .ok rawContext⟩ ∈ trace)
    (built : buildPromptPayload env.renderField env.settings.aiTokenBudget rawContext =
      .ok payload)
    (spares : ∀ analysis, (next analysis).Uses Op.SparesCache) :
    ((analyzeRepository payload
      (buildAiCacheKey target.owner target.repo rawContext.commitSha)).bind next).Safe
        ((terms env).protocol role) (fun _ _ => True) (store, trace) := by
  have recovered : ∀ (insights : Option StructuredAIResponse) (error : Exn)
      (state : Store × Trace), ((recoverAnalysis insights error).bind next).Safe
        ((terms env).protocol role) (fun _ _ => True) state := by
    intro insights error state
    exact safe_of_spares (Program.Uses.bind (uses_recoverAnalysis _ _) spares)
  rw [analyzeRepository_eq]
  apply Program.safe_call.mpr
  rintro ⟨now, seen⟩ reply ⟨after, _⟩ - ⟨rfl, -⟩ ⟨rfl, outcome, -, called⟩
  have harmless : (terms env).Harmless role (.analyze payload) := harmless_of_spares trivial
  obtain ⟨-, owed, -⟩ := harmless seen now outcome reply after trivial trivial trivial called
  refine ⟨trivial, owed, ?_⟩
  cases reply with
  | error error => exact recovered _ _ _
  | ok insights =>
      apply Program.safe_call.mpr
      rintro ⟨later, noted⟩ reply ⟨final, _⟩ - ⟨rfl, -⟩ ⟨rfl, outcome, -, called⟩
      refine ⟨trivial, ?_, ?_⟩
      · intro cacheKey entry found
        cases written_of_exec called with
        | unchanged => exact .inl found
        | cached =>
            rcases update_eq_some found with ⟨rfl, same⟩ | ⟨-, old⟩
            · cases same
              refine .inr ⟨url, target, rawContext.commitSha, _, accepted, rfl, rfl, ?_⟩
              apply Trace.Analyzes.analyzed rawContext payload insights _ rfl built
              · exact List.mem_append_left _ (List.mem_append_right _ (List.mem_singleton_self _))
              · exact List.mem_append_left _ (List.mem_append_left _ fetched)
            · exact .inl old
      · cases reply with
        | error error => exact recovered _ _ _
        | ok _ => exact safe_of_spares (spares _)

theorem safe_analysisStage {jobId : JobId} {next : Analysis → Coroutine α}
    (accepted : parseGithubRepositoryUrl env.urlLibrary url = .ok target)
    (fetched : ⟨.fetchRepositoryContext target, .ok rawContext⟩ ∈ trace)
    (spares : ∀ analysis, (next analysis).Uses Op.SparesCache) :
    ((analysisStage env jobId rawContext
      (buildAiCacheKey target.owner target.repo rawContext.commitSha)).bind next).Safe
        ((terms env).protocol role) (fun _ _ => True) (store, trace) := by
  rw [analysisStage_bind]
  apply safe_await
  · trivial
  intro cached now
  cases cached with
  | some insights => exact safe_of_spares (spares _)
  | none =>
      cases built : buildPromptPayload env.renderField env.settings.aiTokenBudget rawContext with
      | error error => exact Program.safe_raise.mpr fun _ _ _ => trivial
      | ok payload =>
          apply safe_await
          · trivial
          intro time later
          apply safe_await
          · trivial
          intro _ last
          apply safe_analyzeRepository accepted _ built spares
          exact List.mem_append_left _ (List.mem_append_left _ (List.mem_append_left _ fetched))

theorem safe_pipelineSession {jobId : JobId} {session : Session}
    (accepted : parseGithubRepositoryUrl env.urlLibrary url = .ok target) :
    (pipelineSession env jobId target session).Safe ((terms env).protocol role) (fun _ _ => True)
      (store, trace) := by
  apply safe_after (fun _ => True) (spares_updateJobStatus _ _ _) trivial fun _ _ _ => trivial
  intro started now seen _
  apply safe_await
  · trivial
  intro rawContext now
  have fetched : ∀ trace : Trace, ⟨.fetchRepositoryContext target, .ok rawContext⟩ ∈
      trace ++ [(⟨.fetchRepositoryContext target, .ok rawContext⟩ : Event Ops Exn)] :=
    fun _ => List.mem_append_right _ (List.mem_singleton_self _)
  apply safe_await
  · trivial
  intro time now
  apply safe_await
  · trivial
  intro _ now
  apply safe_after (⟨.fetchRepositoryContext target, .ok rawContext⟩ ∈ ·)
    (spares_updateJobStatus _ _ _)
    (List.mem_append_left _ (List.mem_append_left _ (fetched seen)))
    fun _ _ held => List.mem_append_left _ held
  intro prepared now seen fetched
  exact safe_analysisStage accepted fetched fun _ => spares_completionStage _ _ _ _ _

theorem safe_handleReceived (received : ReceivedMessage) :
    (handleReceived env received).Safe ((terms env).protocol role) (fun _ _ => True)
      (store, []) := by
  have executed : (executeResearchPipeline env received.body).Safe ((terms env).protocol role)
      (fun _ _ => True) (store, []) := by
    unfold executeResearchPipeline
    cases accepted : parseGithubRepositoryUrl env.urlLibrary received.body.repoUrl with
    | error error => exact Program.safe_raise.mpr fun _ _ _ => trivial
    | ok target =>
        apply safe_await
        · trivial
        intro existing now
        apply safe_await
        · trivial
        intro time now
        apply safe_await
        · trivial
        intro _ now
        apply Program.Safe.weaken
        · exact Terms.safe_withSession trivial (harmless_of_spares trivial)
            (safe_pipelineSession accepted)
        · exact fun _ _ _ _ => trivial
  have attempted : (executeResearchPipeline env received.body).attempt.Safe
      ((terms env).protocol role) (fun _ _ => True) (store, []) := Program.Safe.attempt executed
  rw [handleReceived_eq]
  apply attempted.bind trivial
  · intro outcome now _ _
    apply safe_of_spares
    apply (uses_settle env.settings received outcome).mono
    intro op settling
    cases op with
    | setCachedAiResult => cases settling
    | _ => trivial
  · exact fun _ _ _ _ => trivial

end

end

theorem enforced (env : Environment) : (terms env).Enforced env fun _ _ => true where
  submits context request store _ := by
    apply Terms.safe_of_uses _ fun _ _ _ _ => trivial
    apply (uses_answering context .accepted (uses_submit env request)).mono
    intro op submission
    apply harmless_of_spares
    cases op with
    | setCachedAiResult =>
        obtain ⟨jobId, impossible⟩ := submission
        cases impossible
    | _ => trivial
  polls context jobId store _ := by
    apply Terms.safe_of_uses _ fun _ _ _ _ => trivial
    apply (uses_answering context .status (uses_pollJob jobId)).mono
    intro op poll
    apply harmless_of_spares
    cases op with
    | setCachedAiResult => cases poll
    | _ => trivial
  works received store _ := safe_handleReceived received
  drifts _ _ := ⟨trivial, fun _ _ => trivial⟩
  calls _ _ _ _ := trivial
  others _ _ _ _ _ _ _ _ := trivial

/-! ## What is stored -/

section

variable {env : Environment} {trace more : Trace}

theorem analyzes_mono {target : ParsedRepoTarget} {commitSha : String}
    {insights : StructuredAIResponse}
    (analyzes : Trace.Analyzes env target commitSha trace insights)
    (subset : trace ⊆ more) : Trace.Analyzes env target commitSha more insights := by
  cases analyzes with
  | analyzed rawContext payload insights fetched commit built asked =>
      exact .analyzed rawContext payload insights (subset fetched) commit built (subset asked)

theorem supports_mono {cacheKey : String} {payload : CachedPayload}
    (supports : Supports env cacheKey payload trace) (subset : trace ⊆ more) :
    Supports env cacheKey payload more := by
  obtain ⟨url, target, commitSha, insights, accepted, key, valid, analyzes⟩ := supports
  exact ⟨url, target, commitSha, insights, accepted, key, valid, analyzes_mono analyzes subset⟩

end

/-- The calls of a task computed the content as a report on the repository. -/
structure Reports (env : Environment) (owner repo : String) (content : ReportContent)
    (target : ParsedRepoTarget) (rawContext : RepositoryRawContext) (analysis : Analysis)
    (trace : Trace) : Prop where
  accepted : ∃ url, parseGithubRepositoryUrl env.urlLibrary url = .ok target
  owner : target.owner = owner
  repo : target.repo = repo
  fetched : ⟨.fetchRepositoryContext target, .ok rawContext⟩ ∈ trace
  analyzed : Trace.Analyzed env rawContext
    (buildAiCacheKey target.owner target.repo rawContext.commitSha) trace analysis
  commit : content.commitSha = some rawContext.commitSha
  insights : content.aiInsights = analysis.aiInsights

/-- Every entry of the AI cache, every entry that a task has read there, and every
stored report comes from the calls of some task. -/
structure Sourced (env : Environment) (service : Service) (journal : Journal) : Prop where
  cached : ∀ cacheKey payload, service.store.aiCache cacheKey = some payload →
    ∃ index, Supports env cacheKey payload (journal index)
  read : ∀ index cacheKey insights,
    ⟨.getCachedAiResult cacheKey, .ok (some insights)⟩ ∈ journal index →
      ∃ author, Supports env cacheKey (.valid insights) (journal author)
  reports : ∀ jobId report, service.store.reports jobId = some report →
    ∃ row, service.store.jobs jobId = some row ∧ ∃ index target rawContext analysis,
      Reports env row.owner row.repo report.content target rawContext analysis (journal index)

/-- A cached result is the entry of its key. -/
theorem cached_of_exec {cacheKey : String} {outcome : Outcome} {store after : Store}
    {insights : StructuredAIResponse}
    (called : exec (.getCachedAiResult cacheKey) outcome store =
      some (.ok (some insights), after)) :
    store.aiCache cacheKey = some (.valid insights) := by
  obtain ⟨supply, -, answered⟩ := answer_of_exec_ok called
  cases supply with
  | nothing =>
      simp only [answer] at answered
      cases found : store.aiCache cacheKey with
      | none =>
          rw [found] at answered
          cases answered
      | some payload =>
          rw [found] at answered
          cases payload <;> cases answered
          rfl
  | _ => cases answered

section

variable {env : Environment} {service after : Service} {journal : Journal} {action : Action}

/-- A task that writes the report of a job works on the repository that the row of
the job names. -/
theorem names_of_author {index : Nat} {task : Task} {op : Op}
    (described : Described env service journal) (scope : service.Scoped)
    (found : service.tasks[index]? = some task) (pending : task.pending = some op)
    (writes : ¬ op.SparesReports) {jobId : JobId} (affects : op.Affects service.store jobId) :
    ∃ url, Names env jobId url service.store ∧
      ∀ event ∈ journal index, Op.About env url event.op := by
  have held := scope.tasks index task found
  have follows := described.tasks index task found
  rcases (held.may pending).of_affects affects with ⟨record, rfl, -⟩ | ⟨program, rfl, -⟩ |
    ⟨received, delivery, named, -⟩
  · exact absurd trivial writes
  · obtain ⟨url, -, -, told, names⟩ := follows
    exact ⟨url, names jobId rfl, told⟩
  · cases task with
    | execute other program =>
        cases delivery
        exact ⟨received.body.repoUrl, named ▸ follows.2.2, follows.2.1⟩
    | settle other outcome program =>
        have settling := held.2.pending pending
        cases op with
        | insertReport | updateReport => cases settling
        | _ => exact absurd trivial writes
    | submit | poll | crashed => cases delivery

theorem Reports.keep {row kept : ResearchJobRecord} {content : ReportContent}
    {target : ParsedRepoTarget} {rawContext : RepositoryRawContext} {analysis : Analysis}
    {trace more : Trace}
    (reports : Reports env row.owner row.repo content target rawContext analysis trace)
    (owner : kept.owner = row.owner) (repo : kept.repo = row.repo) (subset : trace ⊆ more) :
    Reports env kept.owner kept.repo content target rawContext analysis more where
  accepted := reports.accepted
  owner := reports.owner.trans owner.symm
  repo := reports.repo.trans repo.symm
  fetched := subset reports.fetched
  analyzed := Authorship.analyzed_mono reports.analyzed subset
  commit := reports.commit
  insights := reports.insights

/-- Old reports stay sourced. -/
theorem Sourced.reports_kept (sourced : Sourced env service journal)
    (moved : Step env service action after) {jobId : JobId} {report : FinalResearchReportRecord}
    (stored : service.store.reports jobId = some report) :
    ∃ row, after.store.jobs jobId = some row ∧ ∃ index target rawContext analysis,
      Reports env row.owner row.repo report.content target rawContext analysis
        (journal.note action service index) := by
  obtain ⟨row, present, index, target, rawContext, analysis, reports⟩ :=
    sourced.reports jobId report stored
  obtain ⟨kept, still, owner, repo⟩ := keepsNames_of_step moved jobId row present
  exact ⟨kept, still, index, target, rawContext, analysis,
    reports.keep owner repo (journal.subset_note action service index)⟩

/-- A call of a task leaves the entries of the AI cache supported. -/
theorem Sourced.cached_resume (sourced : Sourced env service journal)
    (analysts : (terms env).Kept env.settings (service, journal)) {index : Nat}
    {outcome : Outcome} {task next : Task} {store : Store}
    (found : service.tasks[index]? = some task)
    (resumes : task.Resumes env.settings outcome service.store store next) {cacheKey : String}
    {payload : CachedPayload} (stored : store.aiCache cacheKey = some payload) :
    ∃ author, Supports env cacheKey payload
      (journal.note (.resume index outcome) service author) := by
  obtain ⟨op, reply, pending, called, -, owed, -⟩ := (enforced env).call analysts rfl found resumes
  rcases owed cacheKey payload stored with old | supports
  · obtain ⟨author, supports⟩ := sourced.cached cacheKey payload old
    exact ⟨author, supports_mono supports (journal.subset_note _ _ _)⟩
  · refine ⟨index, ?_⟩
    rw [Journal.note_of_resume found pending called, Function.update_self]
    exact supports

/-- What a task reads in the AI cache is supported. -/
theorem Sourced.read_resume (sourced : Sourced env service journal) {index : Nat}
    {outcome : Outcome} {task next : Task} {store : Store}
    (found : service.tasks[index]? = some task)
    (resumes : task.Resumes env.settings outcome service.store store next) {reader : Nat}
    {cacheKey : String} {insights : StructuredAIResponse}
    (read : ⟨.getCachedAiResult cacheKey, .ok (some insights)⟩ ∈
      journal.note (.resume index outcome) service reader) :
    ∃ author, Supports env cacheKey (.valid insights)
      (journal.note (.resume index outcome) service author) := by
  have grown : (∃ author, Supports env cacheKey (.valid insights) (journal author)) →
      ∃ author, Supports env cacheKey (.valid insights)
        (journal.note (.resume index outcome) service author) := by
    rintro ⟨author, supports⟩
    exact ⟨author, supports_mono supports (journal.subset_note _ _ _)⟩
  obtain ⟨op, reply, pending, called⟩ := resumes.exec
  rw [Journal.note_of_resume found pending called] at read
  by_cases own : reader = index
  · subst own
    rw [Function.update_self] at read
    rcases List.mem_append.mp read with old | new
    · exact grown (sourced.read reader cacheKey insights old)
    · cases List.mem_singleton.mp new
      exact grown (sourced.cached cacheKey _ (cached_of_exec called))
  · rw [Function.update_of_ne own] at read
    exact grown (sourced.read reader cacheKey insights read)

/-- A call of a task leaves the stored reports sourced. -/
theorem Sourced.reports_resume (sourced : Sourced env service journal)
    (described : Described env service journal)
    (authors : (Authorship.terms env).Kept env.settings (service, journal)) {index : Nat}
    {outcome : Outcome}
    (permitted : callsAllowed keepsReportWhole (.resume index outcome) (service, journal) = true)
    {task next : Task} {store : Store} (found : service.tasks[index]? = some task)
    (resumes : task.Resumes env.settings outcome service.store store next) {jobId : JobId}
    {report : FinalResearchReportRecord} (stored : store.reports jobId = some report) :
    ∃ row, store.jobs jobId = some row ∧ ∃ author target rawContext analysis,
      Reports env row.owner row.repo report.content target rawContext analysis
        (journal.note (.resume index outcome) service author) := by
  have moved : Step env service (.resume index outcome)
      { service.setTask index next with store := store } :=
    .resume index outcome task next store found resumes
  obtain ⟨op, reply, pending, called, -, owed, -⟩ :=
    (Authorship.enforced env).call authors permitted found resumes
  have written := written_of_exec called
  by_cases same : store.reports jobId = service.store.reports jobId
  · exact sourced.reports_kept moved (same.symm.trans stored)
  have writes : ¬ op.SparesReports :=
    fun spares => same (congrFun (written.sparesReports spares) jobId)
  have affects : op.Affects service.store jobId := by
    by_contra foreign
    exact same (written.spares foreign).report
  rcases owed jobId report stored with ⟨old, before, content⟩ | computes
  · rw [← content]
    exact sourced.reports_kept moved before
  · obtain ⟨url, names, told⟩ :=
      names_of_author described authors.scope found pending writes affects
    have noted : journal.note (.resume index outcome) service index =
        journal index ++ [⟨op, reply⟩] := by
      rw [Journal.note_of_resume found pending called, Function.update_self]
    generalize report.content = content at computes ⊢
    cases computes with
    | report target rawContext analysis createdAt selected fetched analyzed dated saved =>
        have accepted : parseGithubRepositoryUrl env.urlLibrary url = .ok target := by
          rcases List.mem_append.mp fetched with old | new
          · exact told _ old
          · cases List.mem_singleton.mp new
            exact absurd trivial writes
        obtain ⟨row, present, owner, repo⟩ := names target accepted
        obtain ⟨kept, still, sameOwner, sameRepo⟩ :=
          keepsNames_of_written written jobId row present
        refine ⟨kept, still, index, target, rawContext, analysis, ?_⟩
        rw [noted]
        exact ⟨⟨url, accepted⟩, (sameOwner.trans owner).symm, (sameRepo.trans repo).symm, fetched,
          analyzed, rfl, rfl⟩

/-- Every step leaves what is stored sourced. -/
theorem Sourced.step (sourced : Sourced env service journal)
    (described : Described env service journal)
    (authors : (Authorship.terms env).Kept env.settings (service, journal))
    (analysts : (terms env).Kept env.settings (service, journal))
    (permitted : keepsProvenance env action (service, journal) = true)
    (moved : Step env service action after) :
    Sourced env after (journal.note action service) := by
  have whole := ((Bool.and_eq_true _ _).mp permitted).1
  cases moved with
  | resume index outcome task next store found resumes =>
      constructor
      · exact fun _ _ => sourced.cached_resume analysts found resumes
      · exact fun _ _ _ => sourced.read_resume found resumes
      · exact fun _ _ => sourced.reports_resume described authors whole found resumes
  | expireCached dropped =>
      refine ⟨fun cacheKey payload stored => ?_, sourced.read, sourced.reports⟩
      rcases update_eq_some stored with ⟨-, impossible⟩ | ⟨-, old⟩
      · cases impossible
      · exact sourced.cached cacheKey payload old
  | _ => exact ⟨sourced.cached, sourced.read, sourced.reports⟩

end

/-- What holds in every state of a run under the condition. -/
structure Held (env : Environment) (state : Service × Journal) : Prop where
  authors : (Authorship.terms env).Kept env.settings state
  analysts : (terms env).Kept env.settings state
  described : Described env state.1 state.2
  sourced : Sourced env state.1 state.2

theorem held_of_run {env : Environment} {dlqArn : String} {actions : List Action}
    {final : Service × Journal}
    (ran : runWithin (Service.noted env) (keepsProvenance env) actions
      (Service.initial env.settings dlqArn fun _ => none).unnoted = some final) :
    Held env final := by
  apply runWithin_induction (Held env) _ _ ran
  · rintro action ⟨service, journal⟩ ⟨after, noted⟩ permitted moved held
    obtain ⟨stepped, rfl⟩ := noting_eq_some_iff.mp moved
    have step := Service.step_cases stepped
    have whole := ((Bool.and_eq_true _ _).mp permitted).1
    constructor
    · exact (Authorship.enforced env).step held.authors whole step
    · exact (enforced env).step held.analysts rfl step
    · apply held.described.step held.authors.scope held.authors.recorded _ step
      rintro context request rfl
      exact (Bool.not_eq_true' _).mp ((Bool.and_eq_true _ _).mp permitted).2
    · exact held.sourced.step held.described held.authors held.analysts permitted step
  · constructor
    · apply Terms.Enforced.kept_initial
      intro _ _ found
      cases found
    · exact Terms.Enforced.kept_initial trivial
    · exact {
        tasks := fun _ _ found => nomatch found
        queued := fun _ member => nomatch member
      }
    · exact {
        cached := fun _ _ found => nomatch found
        read := fun _ _ _ member => nomatch member
        reports := fun _ _ found => nomatch found
      }

theorem Supports.produced {env : Environment} {journal : Journal} {index : Nat} {url : String}
    {target : ParsedRepoTarget} {commitSha : String} {payload : CachedPayload}
    (supports : Supports env (buildAiCacheKey target.owner target.repo commitSha) payload
      (journal index))
    (accepted : parseGithubRepositoryUrl env.urlLibrary url = .ok target) :
    ∃ insights, payload = .valid insights ∧
      journal.Produced env target.owner target.repo commitSha insights := by
  obtain ⟨other, another, otherSha, insights, also, key, valid, analyzes⟩ := supports
  obtain ⟨owner, repo, rfl⟩ := key_parts accepted also key
  exact ⟨insights, valid, index, another, owner.symm, repo.symm, analyzes⟩

theorem Sourced.produced {env : Environment} {service : Service} {journal : Journal}
    (sourced : Sourced env service journal) {owner repo : String} {content : ReportContent}
    {index : Nat} {target : ParsedRepoTarget} {rawContext : RepositoryRawContext}
    {analysis : Analysis}
    (reports : Reports env owner repo content target rawContext analysis (journal index))
    {insights : StructuredAIResponse} (shown : content.aiInsights = some insights) :
    ∃ commitSha, content.commitSha = some commitSha ∧
      journal.Produced env owner repo commitSha insights := by
  refine ⟨rawContext.commitSha, reports.commit, ?_⟩
  have shown : analysis.aiInsights = some insights := reports.insights.symm.trans shown
  have asked : ∀ (payload : LLMPromptPayload) (reply : StructuredAIResponse),
      buildPromptPayload env.renderField env.settings.aiTokenBudget rawContext = .ok payload →
      ⟨.analyze payload, .ok reply⟩ ∈ journal index →
        journal.Produced env owner repo rawContext.commitSha
          (mergeWarnings reply payload.warnings) := by
    intro payload reply built asked
    exact ⟨index, target, reports.owner, reports.repo,
      .analyzed rawContext payload reply reports.fetched rfl built asked⟩
  cases reports.analyzed with
  | cached cachedAi read =>
      cases shown
      obtain ⟨author, supports⟩ := sourced.read index _ _ read
      obtain ⟨url, accepted⟩ := reports.accepted
      obtain ⟨insights, same, produced⟩ := supports.produced accepted
      cases same
      rwa [← reports.owner, ← reports.repo]
  | analyzed payload reply built answered =>
      cases shown
      exact asked payload reply built answered
  | unsaved payload reply error built answered kept =>
      cases shown
      exact asked payload reply built answered
  | unavailable payload error built answered => cases shown

/-- The keys under which analyses and snapshots are kept. -/
structure KeysApart (env : Environment) : Prop where
  repository : ∀ {url other : String} {target another : ParsedRepoTarget}
    {commitSha otherSha : String}, parseGithubRepositoryUrl env.urlLibrary url = .ok target →
      parseGithubRepositoryUrl env.urlLibrary other = .ok another →
      buildAiCacheKey target.owner target.repo commitSha =
        buildAiCacheKey another.owner another.repo otherSha →
      target.owner = another.owner ∧ target.repo = another.repo ∧ commitSha = otherSha
  prompt : ∀ {runtime : Runtime} {adapter : GitHubGraphQLAdapter} {target : ParsedRepoTarget}
    {reply : GitHubReply} {rawContext : RepositoryRawContext} {payload : LLMPromptPayload},
    adapter.fetchRepositoryContext runtime target reply = .ok rawContext →
      buildPromptPayload env.renderField env.settings.aiTokenBudget rawContext = .ok payload →
      payload.cacheKey = buildAiCacheKey target.owner target.repo rawContext.commitSha
  redis : ∀ jobId cacheKey,
    RedisStateCacheAdapter.stateKey jobId ≠ RedisStateCacheAdapter.aiCacheKey cacheKey

theorem keysApart (env : Environment) : KeysApart env where
  repository := key_parts
  prompt fetched built := by
    rw [cacheKey_of_buildPromptPayload built, target_of_fetchRepositoryContext _ fetched]
  redis := RedisStateCacheAdapter.stateKey_ne_aiCacheKey

/-- In every run in which no update tears a report and no submission names a
repository whose canonical URL is read as that of another one, every entry of the AI
cache and all insights of a stored report are the analysis of a prompt for the
repository and the commit that the key or the row and the report name; what a job
ends with does not depend on what happens to other jobs; and the keys do not
collide. -/
theorem insights_keep_provenance {env : Environment} {dlqArn : String} {actions : List Action}
    {service : Service} {journal : Journal}
    (ran : runWithin (Service.noted env) (keepsProvenance env) actions
      (Service.initial env.settings dlqArn fun _ => none).unnoted = some (service, journal)) :
    (∀ (url : String) (target : ParsedRepoTarget) (commitSha : String) (payload : CachedPayload),
      parseGithubRepositoryUrl env.urlLibrary url = .ok target →
      service.store.aiCache (buildAiCacheKey target.owner target.repo commitSha) = some payload →
      ∃ insights, payload = .valid insights ∧
        journal.Produced env target.owner target.repo commitSha insights) ∧
    (∀ (jobId : JobId) (row : ResearchJobRecord) (report : FinalResearchReportRecord)
      (insights : StructuredAIResponse), service.store.jobs jobId = some row →
      service.store.reports jobId = some report → report.content.aiInsights = some insights →
      ∃ commitSha, report.content.commitSha = some commitSha ∧
        journal.Produced env row.owner row.repo commitSha insights) ∧
    (∀ (others : List Action) (other : Service) (jobId : JobId) (numbers : Renumbering),
      run (Service.step env) others (Service.initial env.settings dlqArn fun _ => none) =
        some other →
      (seen (Service.step env) (Action.sighting env jobId) actions
        (Service.initial env.settings dlqArn fun _ => none)).map (Sighting.renumber numbers) =
          seen (Service.step env) (Action.sighting env jobId) others
            (Service.initial env.settings dlqArn fun _ => none) →
      other.store.jobs jobId = service.store.jobs jobId ∧
        other.store.reports jobId = service.store.reports jobId ∧
        other.store.snapshots jobId = service.store.snapshots jobId) ∧
    KeysApart env := by
  have sourced := (held_of_run ran).sourced
  refine ⟨?_, ?_, ?_, keysApart env⟩
  · intro url target commitSha payload accepted found
    obtain ⟨index, supports⟩ := sourced.cached _ payload found
    exact supports.produced accepted
  · intro jobId row report insights present stored shown
    obtain ⟨same, found, index, target, rawContext, analysis, reports⟩ :=
      sourced.reports jobId report stored
    cases present.symm.trans found
    exact sourced.produced reports shown
  · intro others other jobId numbers went seenAlike
    have same : other.viewOf jobId = (service.viewOf jobId).renumber numbers := by
      apply (Isolation.unwinding env jobId numbers).runs_relabelled (.initial _ _ _)
        (.initial _ _ _) _ (run_of_noting ran) went seenAlike
      exact Isolation.viewOf_initial _ _ _ _ _ _
    have stored := congrArg JobView.store same
    exact ⟨congrArg StoreView.row stored, congrArg StoreView.report stored,
      congrArg StoreView.snapshot stored⟩

/-! ## Runs of one repository -/

/-- A pipeline with a fresh analysis. -/
def analyzed : List Outcome :=
  Sample.fetched ++ [.done (.time Sample.noon), .ok, .done (.insights Sample.insights), .ok] ++
    Sample.completed

/-- `job-1` is analysed, and `job-2` is completed from the AI cache. -/
def reused : List Action :=
  Sample.submission ++ .deliver 0 :: Sample.calls 1 analyzed ++
    .submit Sample.context Sample.request :: Sample.calls 2 (
      [.done (.context Sample.rawContext), .done (.uuid "job-2"), .ok, .ok] ++
        Sample.cached.drop 4)

/-- The report of `job-2` has insights that were produced for its repository, and
`job-1` ends the same with the service to itself and beside another job. -/
theorem insights_keep_provenance_reused :
    (∃ service journal row report insights commitSha,
      runWithin (Service.noted Sample.environment) (keepsProvenance Sample.environment) reused
        Sample.cold.unnoted = some (service, journal) ∧
      service.store.jobs "job-2" = some row ∧ service.store.reports "job-2" = some report ∧
      report.content.aiInsights = some insights ∧ report.content.commitSha = some commitSha ∧
      journal.Produced Sample.environment row.owner row.repo commitSha insights) ∧
    ∃ service journal other,
      runWithin (Service.noted Sample.environment) (keepsProvenance Sample.environment)
        Isolation.alone Sample.cold.unnoted = some (service, journal) ∧
      run (Service.step Sample.environment) Isolation.accompanied Sample.cold = some other ∧
      other.store.jobs "job-1" = service.store.jobs "job-1" ∧
      other.store.reports "job-1" = service.store.reports "job-1" ∧
      other.store.snapshots "job-1" = service.store.snapshots "job-1" := by
  constructor
  · have checked : (runWithin (Service.noted Sample.environment)
        (keepsProvenance Sample.environment) reused Sample.cold.unnoted).any (fun final =>
          (final.1.store.jobs "job-2").isSome && (final.1.store.reports "job-2").any fun report =>
            report.content.aiInsights.isSome) = true := by
      decide +kernel
    obtain ⟨⟨service, journal⟩, ran, found⟩ := (Option.any_eq_true _ _).mp checked
    obtain ⟨present, found⟩ := (Bool.and_eq_true _ _).mp found
    obtain ⟨row, present⟩ := Option.isSome_iff_exists.mp present
    obtain ⟨report, stored, shown⟩ := (Option.any_eq_true _ _).mp found
    obtain ⟨insights, shown⟩ := Option.isSome_iff_exists.mp shown
    obtain ⟨commitSha, commit, produced⟩ :=
      (insights_keep_provenance ran).2.1 "job-2" row report insights present stored shown
    exact ⟨service, journal, row, report, insights, commitSha, ran, present, stored, shown, commit,
      produced⟩
  · have possible : (runWithin (Service.noted Sample.environment)
        (keepsProvenance Sample.environment) Isolation.alone Sample.cold.unnoted).isSome =
          true := by
      decide +kernel
    obtain ⟨⟨service, journal⟩, ran⟩ := Option.isSome_iff_exists.mp possible
    obtain ⟨other, went⟩ : ∃ other, run (Service.step Sample.environment) Isolation.accompanied
        Sample.cold = some other := ⟨_, Sample.ran_after (by decide +kernel)⟩
    exact ⟨service, journal, other, ran, went,
      (insights_keep_provenance ran).2.2.1 Isolation.accompanied other "job-1" Isolation.later
        went rfl⟩

/-- The calls fetched the repository at the commit. -/
def fetches (owner repo commitSha : String) : Event Ops Exn → Bool
  | ⟨.fetchRepositoryContext target, .ok rawContext⟩ =>
      target.owner = owner && target.repo = repo && rawContext.commitSha = commitSha
  | _ => false

/-- The language model came to the insights. -/
def answers (insights : StructuredAIResponse) : Event Ops Exn → Bool
  | ⟨.analyze payload, .ok reply⟩ => mergeWarnings reply payload.warnings = insights
  | _ => false

theorem fetches_of_analyzes {env : Environment} {target : ParsedRepoTarget} {commitSha : String}
    {trace : Trace} {insights : StructuredAIResponse}
    (analyzes : Trace.Analyzes env target commitSha trace insights) :
    trace.any (fetches target.owner target.repo commitSha) = true ∧
      trace.any (answers insights) = true := by
  cases analyzes with
  | analyzed rawContext payload reply fetched commit built asked =>
      constructor
      · apply List.any_eq_true.mpr
        exact ⟨_, fetched, by simp [fetches, commit]⟩
      · apply List.any_eq_true.mpr
        exact ⟨_, asked, by simp [answers]⟩

/-- The report of the job has insights that no task produced for the repository of
its row and the commit of the report. -/
def Strays (actions : List Action) : Prop :=
  ∃ service journal row report insights,
    run (Service.noted Sample.environment) actions Sample.cold.unnoted = some (service, journal) ∧
    service.store.jobs "job-1" = some row ∧ service.store.reports "job-1" = some report ∧
    report.content.aiInsights = some insights ∧
    ∀ commitSha, report.content.commitSha = some commitSha →
      ¬ journal.Produced Sample.environment row.owner row.repo commitSha insights

theorem strays_of_any {actions : List Action}
    (checked : (run (Service.noted Sample.environment) actions Sample.cold.unnoted).any
      fun final => (final.1.store.jobs "job-1").any fun row =>
        (final.1.store.reports "job-1").any fun report => report.content.aiInsights.any
          fun insights => report.content.commitSha.all fun commitSha =>
            (List.range final.1.tasks.length).all fun index =>
              !((final.2 index).any (fetches row.owner row.repo commitSha) &&
                (final.2 index).any (answers insights))) : Strays actions := by
  obtain ⟨⟨service, journal⟩, ran, checked⟩ := (Option.any_eq_true _ _).mp checked
  obtain ⟨row, present, checked⟩ := (Option.any_eq_true _ _).mp checked
  obtain ⟨report, stored, checked⟩ := (Option.any_eq_true _ _).mp checked
  obtain ⟨insights, shown, checked⟩ := (Option.any_eq_true _ _).mp checked
  refine ⟨service, journal, row, report, insights, ran, present, stored, shown, ?_⟩
  rintro commitSha commit ⟨index, target, owner, repo, analyzes⟩
  obtain ⟨fetched, answered⟩ := fetches_of_analyzes analyzes
  rw [owner, repo] at fetched
  rw [commit, Option.all_some, List.all_eq_true] at checked
  rcases Nat.lt_or_ge index service.tasks.length with within | beyond
  · have unfounded := checked index (List.mem_range.mpr within)
    rw [fetched, answered] at unfounded
    cases unfounded
  · have unused : journal index = [] := (Service.recorded_of_run ran).fresh index beyond
    rw [unused] at fetched
    cases fetched

/-- A repository whose name ends in `.git`. -/
def suffixed : List Action :=
  .submit Sample.context { url := "https://github.com/acme/rocket.git.git" } ::
    Sample.calls 0 Sample.queued ++ .deliver 0 :: Sample.calls 1 analyzed

/-- The repository at its next commit. -/
def nextContext : RepositoryRawContext :=
  { Sample.rawContext with commitSha := "beef" }

/-- What the language model says of the next commit. -/
def nextInsights : StructuredAIResponse :=
  { Sample.insights with recommendations := { items := ["Write tests"] } }

/-- The calls of a pipeline that analyses the next commit, up to the look at the
stored report. -/
def analyzedNext : List Outcome :=
  Sample.fetched.take 6 ++ .done (.context nextContext) :: Sample.fetched.drop 7 ++
    [.done (.time Sample.noon), .ok, .done (.insights nextInsights), .ok,
      .done (.time Sample.noon), .done (.flag true)]

/-- The first execution falls back.  The third one has loaded its report when the
second one replaces it by the report on the next commit. -/
def torn : List Action :=
  Sample.fallenBack ++ [.deliver 0, .timeout 0, .deliver 0] ++
    Sample.calls 3 Sample.analyzedReport ++ Sample.calls 2 (analyzedNext ++ Sample.resaved) ++
      Sample.calls 3 Sample.resaved

/-- Insights into another repository, whose name is the one without the suffix, and
insights into another commit, of which an update left out the column. -/
theorem insights_lose_provenance : Strays suffixed ∧ Strays torn :=
  ⟨strays_of_any (by decide +kernel), strays_of_any (by decide +kernel)⟩

end Provenance

end ResearchTool
