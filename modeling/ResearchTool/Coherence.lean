import ResearchTool.Polling
import ResearchTool.Reconstruction

/-!
# Two reads of a poll

A poll reads the snapshot and then, if the snapshot is completed, the report.  A
completed snapshot and the report beside it tell the same as long as one task at
a time works on the job and every analysis that fails says why; what a poll
responds tells the same if the report is not replaced between its two reads.
-/

namespace ResearchTool

open Process

/-- The response says of the analysis and of the fetched data what the report says. -/
structure PollingStatusResponse.Tells (response : PollingStatusResponse)
    (report : ResearchReport) : Prop where
  reason : response.aiFallbackReason = report.aiFallbackReason
  fallback : response.aiFallback = some true ↔ report.aiInsights = none
  data : response.instantData = some report.deterministicData

/-- The analysis fails without saying why. -/
def failsSilently (op : Op) (outcome : Outcome) : Bool :=
  match op, outcome with
  | .analyze _, .failed error => error.isAnalysisFault && error.str = ""
  | .analyze _, .lost _ error => error.isAnalysisFault && error.str = ""
  | _, _ => false

/-- The job whose stored report a call replaces. -/
def Op.replaces : Op → Option JobId
  | updateReport jobId _ => some jobId
  | _ => none

/-- A poll of the job that waits for the report. -/
def Task.awaitsReport (jobId : JobId) : Task → Bool
  | poll id _ program => id = jobId && program.pending.any Op.looksForReport
  | _ => false

/-- A message is delivered only when no task works on its job, no stored report is
replaced while a poll of its job waits for it, and no analysis fails silently. -/
def keepsCoherent (action : Action) (service : Service) : Bool :=
  oneAtATime action service &&
    match action with
    | .resume index outcome =>
        service.tasks[index]?.all fun task => task.pending.all fun op =>
          !failsSilently op outcome && op.replaces.all fun jobId =>
            !outcome.takesEffect || service.tasks.all fun other => !other.awaitsReport jobId
    | _ => true

namespace Coherence

/-- The fallback reason tells whether there are insights. -/
def Labelled (content : ReportContent) : Prop :=
  isTruthy content.aiFallbackReason = content.aiInsights.isNone

/-- The snapshot says of the job what the report says. -/
structure Explains (snapshot : ResearchJobStateSnapshot) (content : ReportContent) : Prop where
  reason : snapshot.aiFallbackReason = content.aiFallbackReason
  fallback : snapshot.aiFallback = some true ↔ content.aiInsights = none
  data : snapshot.instantData = some content.deterministicData

/-- The stored report is labelled, and a completed snapshot explains it. -/
structure Told (jobId : JobId) (store : Store) : Prop where
  labelled : ∀ record, store.reports jobId = some record → Labelled record.content
  shown : ∀ snapshot, store.snapshots jobId = some snapshot → snapshot.status = .completed →
    ∃ record, store.reports jobId = some record ∧ Explains snapshot record.content

/-- The stored report is labelled, and no completed snapshot is shown. -/
structure Underway (jobId : JobId) (store : Store) : Prop where
  labelled : ∀ record, store.reports jobId = some record → Labelled record.content
  unfinished : ¬ store.ShowsCompleted jobId

section

variable {jobId : JobId} {op : Op} {before after : Store}

theorem Underway.told (underway : Underway jobId before) : Told jobId before where
  labelled := underway.labelled
  shown snapshot found completed := absurd ⟨snapshot, found, completed⟩ underway.unfinished

theorem Told.keep (told : Told jobId before) (report : after.reports jobId = before.reports jobId)
    (snapshot : after.snapshots jobId = before.snapshots jobId ∨ after.snapshots jobId = none) :
    Told jobId after where
  labelled record stored := told.labelled record (report.symm.trans stored)
  shown snapshot' found completed := by
    obtain ⟨record, stored, explains⟩ :=
      told.shown snapshot' (Reconstruction.shown_of_expires snapshot found) completed
    exact ⟨record, report.trans stored, explains⟩

theorem Told.leave (left : before.Leaves jobId after) (told : Told jobId before) :
    Told jobId after :=
  told.keep left.report left.snapshot

theorem Underway.leave (left : before.Leaves jobId after) (underway : Underway jobId before) :
    Underway jobId after where
  labelled record stored := underway.labelled record (left.report.symm.trans stored)
  unfinished := Reconstruction.unfinished_leave left underway.unfinished

/-- The operation writes no report and no completed snapshot of the job. -/
def Op.Idle (jobId : JobId) (op : Op) : Prop :=
  op.SparesReports ∧ Reconstruction.Op.Unfinished jobId op

theorem Underway.written (written : Written before op after) (idle : Op.Idle jobId op)
    (underway : Underway jobId before) : Underway jobId after where
  labelled record stored :=
    underway.labelled record ((congrFun (written.sparesReports idle.1) jobId).symm.trans stored)
  unfinished := Reconstruction.unfinished_written written idle.2 underway.unfinished

theorem Told.written (written : Written before op after) (idle : Op.Idle jobId op)
    (told : Told jobId before) : Told jobId after := by
  have report := congrFun (written.sparesReports idle.1) jobId
  cases written with
  | snapshot snapshot =>
      by_cases own : snapshot.jobId = jobId
      · apply Underway.told
        refine ⟨told.labelled, ?_⟩
        rintro ⟨shown, found, completed⟩
        rcases update_eq_some found with ⟨named, same⟩ | ⟨other, -⟩
        · cases same
          exact idle.2 own completed
        · exact other own.symm
      · exact told.keep report (.inl (Function.update_of_ne (Ne.symm own) _ _))
  | _ => exact told.keep report (.inl rfl)

end

/-! ## Terms -/

/-- One task at a time works on a job.  Any call may fail and any task may crash;
an analysis that fails says why. -/
def tenancy : Tenancy where
  permits _ op outcome := !failsSilently op outcome
  mayCrash _ := true
  mayRefuse _ := true
  bears stage := Told stage.job
  rests jobId _ := Told jobId
  bears_of_leaves := .leave
  rests_of_leaves := .leave

/-- The terms of the task that works on a job. -/
def terms (jobId : JobId) : Protocol Ops Exn Store where
  invariant := Told jobId
  rely := Store.Leaves jobId
  effect := callsWithin fun op outcome => !failsSilently op outcome
  guarantee _ _ := True
  rely_refl := .refl jobId
  rely_trans := .trans

/-- The same without an invariant. -/
def custody (jobId : JobId) : Custody where
  permits op outcome := !failsSilently op outcome
  rely := Store.Leaves jobId
  rely_refl := .refl jobId
  rely_trans := .trans

/-- The job is not shown as completed. -/
def working (jobId : JobId) : Phase (terms jobId) where
  allowed := Op.Idle jobId
  fact := Underway jobId
  implies := Underway.told
  stable := .leave
  kept := by
    rintro op before reply after idle underway ⟨outcome, -, called⟩
    exact ⟨underway.written (written_of_exec called) idle, trivial⟩

/-- Whatever the job is shown as. -/
def waiting (jobId : JobId) : Phase (terms jobId) where
  allowed := Op.Idle jobId
  fact := Told jobId
  implies := id
  stable := .leave
  kept := by
    rintro op before reply after idle told ⟨outcome, -, called⟩
    exact ⟨told.written (written_of_exec called) idle, trivial⟩

/-- The program leaves stores that are told. -/
def Settles {α : Type} (jobId : JobId) (program : Coroutine α) (state : Store) : Prop :=
  program.Safe (terms jobId) (fun _ now => Told jobId now) state

section

variable {α β : Type} {jobId : JobId} {state : Store}

/-- A program of the job, and then another, as its custody says. -/
theorem settles_bind {program : Coroutine β} {next : β → Coroutine α}
    {post : Except Exn β → Store → Prop} (underway : Underway jobId state)
    (uses : program.Uses (Op.Idle jobId))
    (safe : program.Safe (custody jobId).protocol post state)
    (rest : ∀ value now, Underway jobId now → post (.ok value) now →
      Settles jobId (next value) now) :
    Settles jobId (program.bind next) state :=
  (working jobId).bind underway uses safe (fun _ _ => trivial) (fun _ _ => id)
    (fun _ _ _ _ => id) rest

/-- Closing the session leaves what the body established. -/
theorem settles_withSession {body : Session → Coroutine α} (told : Told jobId state)
    (settles : Settles jobId (body .empty) state) : Settles jobId (withSession body) state := by
  rw [withSession_eq]
  have attempted : (body .empty).attempt.Safe (terms jobId) (fun _ now => Told jobId now) state :=
    Program.Safe.attempt settles
  apply attempted.bind told
  · intro outcome now told _
    apply (waiting jobId).last told
    exact Program.Uses.perform_bind ⟨trivial, trivial⟩ fun _ => Program.uses_ofExcept _
  · exact fun _ _ told _ => told

theorem idle_updateJobStatus (session : Session) (id : JobId) (changes : JobChanges) :
    (updateJobStatus session id changes).Uses (Op.Idle jobId) :=
  uses_updateJobStatus _ _ _ ⟨trivial, trivial⟩ (fun _ => ⟨trivial, trivial⟩) ⟨trivial, trivial⟩

/-- A call that writes the report of the job. -/
theorem underway_of_report (record : FinalResearchReportRecord) {now after : Store}
    (underway : Underway jobId now) (labelled : Labelled record.content)
    (written : after = now ∨ after = now.putReport jobId record) : Underway jobId after := by
  rcases written with rfl | rfl
  · exact underway
  · refine ⟨fun stored found => ?_, underway.unfinished⟩
    cases (Function.update_self _ _ _).symm.trans found
    exact labelled

/-- Saving a labelled report by a session that has not loaded the old one. -/
theorem settles_saveFinalReport {session : Session} {content : ReportContent}
    {next : Session → Coroutine α} (underway : Underway jobId state)
    (unloaded : session.reports jobId = none) (labelled : Labelled content)
    (rest : ∀ saved record now, Underway jobId now → now.reports jobId = some record →
      record.content = content → Settles jobId (next saved) now) :
    Settles jobId ((saveFinalReport session jobId content).bind next) state := by
  have refresh : ∀ (record : FinalResearchReportRecord) (now : Store), Underway jobId now →
      now.reports jobId = some record → record.content = content →
      Settles jobId (((await (.refreshReport jobId)).bind fun refreshed =>
        .pure (session.loadReport jobId refreshed)).bind next) now := by
    intro record now underway stored same
    rw [Program.bind_assoc]
    apply (working jobId).await underway
    · exact ⟨trivial, trivial⟩
    rintro refreshed before after left ⟨outcome, -, called⟩ underway
    apply rest _ record after underway _ same
    have kept := congrFun ((written_of_exec called).sparesReports trivial) jobId
    exact kept.trans (left.report.trans stored)
  rw [saveFinalReport_eq, Program.bind_assoc]
  apply (working jobId).await underway
  · exact ⟨trivial, trivial⟩
  rintro selected before middle left ⟨outcome, -, called⟩ underway
  have found : identify (session.reports jobId) selected = middle.reports jobId := by
    obtain ⟨row, rfl⟩ := selectReport_ok called
    rw [unloaded]
    exact (identify_none selected).trans row
  simp only [found]
  cases stored : middle.reports jobId with
  | none =>
      rw [Program.bind_assoc]
      apply (working jobId).await underway
      · exact ⟨trivial, trivial⟩
      rintro createdTime _ later _ _ underway
      rw [Program.bind_assoc]
      apply Program.Safe.perform_bind
      rintro now reply written - left ⟨outcome, -, called⟩
      have still : Underway jobId written := by
        apply underway_of_report ⟨jobId, content, createdTime⟩ (underway.leave left)
        · exact labelled
        · cases written_of_exec called with
          | unchanged => exact .inl rfl
          | reported => exact .inr rfl
      refine ⟨still.told, trivial, ?_, ?_⟩
      · rintro value rfl
        obtain ⟨-, rfl⟩ := insertReport_ok called
        exact refresh _ _ still (Function.update_self _ _ _) rfl
      · exact fun _ _ => Program.safe_raise.mpr fun _ told _ => told
  | some loaded =>
      rw [Program.bind_assoc]
      apply Program.Safe.perform_bind
      rintro now reply written - left ⟨outcome, -, called⟩
      have current : now.reports jobId = some loaded := left.report.trans stored
      have applied := ReportChanges.against_ofContent_apply content loaded.content
      have still : Underway jobId written := by
        apply underway_of_report { loaded with content } (underway.leave left)
        · exact labelled
        · cases written_of_exec called with
          | unchanged => exact .inl rfl
          | revised id changes row present =>
              cases present.symm.trans current
              rw [applied]
              exact .inr rfl
      refine ⟨still.told, trivial, ?_, ?_⟩
      · rintro value rfl
        obtain ⟨row, present, rfl⟩ := updateReport_ok called
        cases present.symm.trans current
        exact refresh _ _ still (Function.update_self _ _ _) applied
      · exact fun _ _ => Program.safe_raise.mpr fun _ told _ => told

end

section

variable {α β : Type} {jobId : JobId} {state : Store}

/-! ## The pipeline -/

/-- An analysis that fails says why, and a cache that fails ends the pipeline. -/
theorem safe_analyzeRepository (payload : LLMPromptPayload) (cacheKey : String) :
    (analyzeRepository payload cacheKey).Safe (custody jobId).protocol
      (fun result _ => ∀ analysis, result = .ok analysis →
        isTruthy analysis.aiFallbackReason = analysis.aiInsights.isNone) state := by
  rw [analyzeRepository_eq, Program.safe_call]
  rintro now reply after - - ⟨outcome, permitted, called⟩
  refine ⟨trivial, trivial, ?_⟩
  cases reply with
  | error error =>
      change (recoverAnalysis none error).Safe _ _ _
      unfold recoverAnalysis
      split
      · rename_i fault
        apply Custody.safe_returned
        intro _ _
        have told : error.str ≠ "" := by
          intro silent
          cases outcome with
          | done supply => cases supply <;> simp [exec, answer] at called
          | failed raised =>
              simp only [exec, Option.ite_none_right_eq_some] at called
              cases called.2
              simp [custody, failsSilently, fault, silent] at permitted
          | lost supply raised =>
              simp only [exec, Option.ite_none_right_eq_some, Option.map_eq_some_iff] at called
              obtain ⟨-, result, -, same⟩ := called
              cases same
              simp [custody, failsSilently, fault, silent] at permitted
        exact decide_eq_true told
      · exact Custody.safe_raised
  | ok insights =>
      rw [Program.safe_call]
      rintro before reply cached - - ⟨outcome, -, called⟩
      refine ⟨trivial, trivial, ?_⟩
      cases reply with
      | ok _ => exact Custody.safe_returned fun _ _ => rfl
      | error error =>
          have foreign : error.isAnalysisFault = false := by
            rcases exec_error called with ⟨supply, -, answered⟩ | ⟨-, raised⟩
            · cases supply <;> simp [answer] at answered
            · cases error with
              | other => rfl
              | _ => cases raised
          simp only [recoverAnalysis, foreign, Bool.false_eq_true, if_false]
          exact Custody.safe_raised

theorem safe_analysisStage (env : Environment) (rawContext : RepositoryRawContext)
    (cacheKey : String) :
    (analysisStage env jobId rawContext cacheKey).Safe (custody jobId).protocol
      (fun result _ => ∀ analysis, result = .ok analysis →
        isTruthy analysis.aiFallbackReason = analysis.aiInsights.isNone) state := by
  unfold analysisStage
  apply Custody.safe_await_returned
  intro cached _ _ _ _ _
  cases cached with
  | some insights => exact Custody.safe_returned fun _ _ => rfl
  | none =>
      -- whatever prompt is built
      generalize buildPromptPayload env.renderField env.settings.aiTokenBudget rawContext = prompt
      cases prompt with
      | error error => exact Custody.safe_raised
      | ok payload =>
          apply Custody.safe_await_returned
          intro now _ _ _ _ _
          apply Custody.safe_await_returned
          intro _ _ _ _ _ _
          exact safe_analyzeRepository payload cacheKey

theorem idle_analysisStage (env : Environment) (rawContext : RepositoryRawContext)
    (cacheKey : String) :
    (analysisStage env jobId rawContext cacheKey).Uses (Op.Idle jobId) := by
  apply (uses_analysisStage env jobId rawContext cacheKey).mono
  intro op analysis
  cases op with
  | setState snapshot =>
      refine ⟨trivial, fun _ completed => ?_⟩
      rw [analysis.2] at completed
      cases completed
  | insertReport | updateReport => cases analysis
  | _ => exact ⟨trivial, trivial⟩

/-- The last call of a completion. -/
theorem settles_show {snapshot : ResearchJobStateSnapshot} {record : FinalResearchReportRecord}
    (underway : Underway jobId state) (stored : state.reports jobId = some record)
    (named : snapshot.jobId = jobId) (explains : Explains snapshot record.content)
    {next : Unit → Coroutine α} (rest : ∀ now, Told jobId now → Settles jobId (next ()) now) :
    Settles jobId ((await (.setState snapshot)).bind next) state := by
  apply Program.Safe.perform_bind
  rintro now reply after - left ⟨outcome, -, called⟩
  have running := underway.leave left
  have told : Told jobId after := by
    cases written_of_exec called with
    | unchanged => exact running.told
    | snapshot =>
        refine ⟨running.labelled, fun shown found _ => ⟨record, left.report.trans stored, ?_⟩⟩
        rw [Store.putSnapshot_snapshots, named, Function.update_self] at found
        cases found
        exact explains
  refine ⟨told, trivial, ?_, ?_⟩
  · exact fun _ _ => rest after told
  · exact fun _ _ => Program.safe_raise.mpr fun _ told _ => told

/-- The completion stage leaves a snapshot that explains the report. -/
theorem settles_completionStage {session : Session} (rawContext : RepositoryRawContext)
    (cacheKey : String) {analysis : Analysis} (underway : Underway jobId state)
    (unloaded : session.reports jobId = none)
    (labelled : isTruthy analysis.aiFallbackReason = analysis.aiInsights.isNone) :
    Settles jobId (completionStage session jobId rawContext cacheKey analysis) state := by
  apply (working jobId).await underway
  · exact ⟨trivial, trivial⟩
  intro createdAt _ first _ _ underway
  apply settles_saveFinalReport underway unloaded
  · exact labelled
  intro session record saved underway stored content
  apply settles_bind underway (idle_updateJobStatus _ _ _)
    (Custody.safe_updateJobStatus_reports Store.Leaves.report _ _)
  rintro session updated underway ⟨kept, -⟩
  apply (working jobId).await underway
  · exact ⟨trivial, trivial⟩
  rintro time before ready left ⟨outcome, -, called⟩ underway
  obtain ⟨-, -, rfl⟩ := exec_now called
  rw [← Program.bind_pure (await (.setState _))]
  apply settles_show underway (left.report.trans (kept.trans stored)) rfl
  · rw [content]
    refine ⟨rfl, ?_, rfl⟩
    change some (isTruthy analysis.aiFallbackReason) = some true ↔ analysis.aiInsights = none
    rw [labelled, Option.some.injEq, Option.isNone_iff_eq_none]
  · exact fun now told => Program.safe_pure.mpr fun _ told _ => told

theorem settles_pipelineSession (env : Environment) (target : ParsedRepoTarget)
    (underway : Underway jobId state) :
    Settles jobId (pipelineSession env jobId target .empty) state := by
  apply settles_bind underway (idle_updateJobStatus _ _ _)
    (Custody.safe_updateJobStatus_reports Store.Leaves.report _ _)
  rintro session started underway ⟨-, unloaded⟩
  apply (working jobId).await underway
  · exact ⟨trivial, trivial⟩
  intro rawContext _ fetched _ _ underway
  apply (working jobId).await underway
  · exact ⟨trivial, trivial⟩
  intro now _ later _ _ underway
  apply (working jobId).await underway
  · exact ⟨trivial, fun _ => nofun⟩
  intro _ _ shown _ _ underway
  apply settles_bind underway (idle_updateJobStatus _ _ _)
    (Custody.safe_updateJobStatus_reports Store.Leaves.report _ _)
  rintro prepared updated underway ⟨-, same⟩
  apply settles_bind underway (idle_analysisStage env rawContext _)
    (safe_analysisStage env rawContext _)
  intro analysis analysed underway labelled
  apply settles_completionStage _ _ underway _ (labelled analysis rfl)
  rw [same prepared rfl, unloaded session rfl]
  rfl

theorem settles_executeResearchPipeline (env : Environment) (message : ResearchJobMessage)
    (told : Told message.jobId state) :
    Settles message.jobId (executeResearchPipeline env message) state := by
  unfold executeResearchPipeline
  cases parseGithubRepositoryUrl env.urlLibrary message.repoUrl with
  | error error => exact Program.safe_raise.mpr fun _ told _ => told
  | ok target =>
      apply (waiting message.jobId).await told
      · exact ⟨trivial, trivial⟩
      intro existing _ read _ _ told
      apply (waiting message.jobId).await told
      · exact ⟨trivial, trivial⟩
      intro now _ later _ _ told
      apply (waiting message.jobId).await told
      · exact ⟨trivial, fun _ => nofun⟩
      rintro _ before shown _ ⟨outcome, -, called⟩ told
      apply settles_withSession told
      apply settles_pipelineSession env target
      refine ⟨told.labelled, ?_⟩
      -- the snapshot that has been set is not a completed one
      rintro ⟨snapshot, found, completed⟩
      rw [setState_ok called, Store.putSnapshot_snapshots] at found
      rcases update_eq_some found with ⟨-, same⟩ | ⟨other, -⟩
      · cases same
        cases completed
      · exact other rfl

theorem settles_settle (settings : Settings) (received : ReceivedMessage)
    (outcome : Except Exn Unit) (told : Told received.body.jobId state) :
    Settles received.body.jobId (settle settings received outcome) state := by
  apply (waiting _).last told
  apply (uses_settle settings received outcome).mono
  intro op settling
  cases op with
  | setState snapshot =>
      refine ⟨trivial, fun _ completed => ?_⟩
      cases settling.2.1.symm.trans completed
  | insertReport | updateReport => cases settling
  | _ => exact ⟨trivial, trivial⟩

/-! ## Submissions -/

/-- A submission that hits the AI cache explains the report that it saves. -/
theorem settles_completeFromCache {session : Session} (rawContext : RepositoryRawContext)
    (now : DateTime) (cachedAi : StructuredAIResponse) (underway : Underway jobId state)
    (unloaded : session.reports jobId = none) :
    Settles jobId (completeFromCache session jobId rawContext
      (pendingSnapshot jobId now rawContext.instantData) cachedAi) state := by
  apply (working jobId).await underway
  · exact ⟨trivial, trivial⟩
  intro createdAt _ first _ _ underway
  apply settles_saveFinalReport underway unloaded
  · rfl
  intro session record saved underway stored content
  apply settles_bind underway (idle_updateJobStatus _ _ _)
    (Custody.safe_updateJobStatus_reports Store.Leaves.report _ _)
  rintro session updated underway ⟨kept, -⟩
  apply (working jobId).await underway
  · exact ⟨trivial, trivial⟩
  rintro time before ready left ⟨outcome, -, called⟩ underway
  obtain ⟨-, -, rfl⟩ := exec_now called
  apply settles_show underway (left.report.trans (kept.trans stored)) rfl
  · rw [content]
    exact ⟨rfl, by simp [pendingSnapshot, buildResearchReport], rfl⟩
  · exact fun now told => Program.safe_pure.mpr fun _ told _ => told

/-- A submission that misses the AI cache does not complete its job. -/
theorem idle_enqueueJob (session : Session) (target : ParsedRepoTarget)
    (request : ResearchRequest) (now : DateTime) (instantData : InstantMetadata) :
    (enqueueJob session target request jobId (pendingSnapshot jobId now instantData)).Uses
      (Op.Idle jobId) := by
  apply Program.Uses.perform_bind
  · exact ⟨trivial, trivial⟩
  intro enqueuedAt
  apply Program.Uses.bind
  · apply Program.Uses.attempt
    exact .perform ⟨trivial, trivial⟩
  intro sent
  cases sent with
  | ok _ => exact Program.uses_pure _
  | error error =>
      apply Program.Uses.bind
      · exact idle_updateJobStatus _ _ _
      intro updated
      apply Program.Uses.perform_bind
      · exact ⟨trivial, trivial⟩
      intro later
      apply Program.Uses.perform_bind
      · exact ⟨trivial, fun _ => nofun⟩
      intro _
      exact Program.uses_raise _

theorem settles_announceJob {target : ParsedRepoTarget} {rawContext : RepositoryRawContext}
    (request : ResearchRequest) (underway : Underway jobId state) :
    Settles jobId ((await (.refreshJob jobId)).bind fun refreshed =>
      announceJob (Session.empty.loadJob jobId refreshed) target request rawContext jobId)
      state := by
  apply (working jobId).await underway
  · exact ⟨trivial, trivial⟩
  intro refreshed _ loaded _ _ underway
  apply (working jobId).await underway
  · exact ⟨trivial, trivial⟩
  intro now _ later _ _ underway
  apply (working jobId).await underway
  · exact ⟨trivial, fun _ => nofun⟩
  intro _ _ shown _ _ underway
  apply (working jobId).await underway
  · exact ⟨trivial, trivial⟩
  intro cached _ looked _ _ underway
  cases cached with
  | some cachedAi => exact settles_completeFromCache _ _ _ underway rfl
  | none => exact (working jobId).last underway (idle_enqueueJob _ _ _ _ _)

end

/-! ## Runs -/

section

-- the programs are used through what was shown of them only
attribute [local irreducible] submitResearchJob executeResearchPipeline settle

/-- Every program tells of its job. -/
theorem upheld (env : Environment) : tenancy.Upheld env where
  absent jobId store lacks := by
    constructor
    · intro record stored
      cases lacks.report.symm.trans stored
    · intro snapshot found
      cases lacks.snapshot.symm.trans found
  registered target rawContext jobId store founded := by
    constructor
    · intro record stored
      cases founded.report.symm.trans stored
    · intro snapshot found
      cases founded.snapshot.symm.trans found
  founds context request := by
    apply Tenancy.founds_submit
    intro target rawContext jobId store founded _
    have underway : Underway jobId store := by
      constructor
      · intro record stored
        cases founded.report.symm.trans stored
      · rintro ⟨snapshot, found, -⟩
        cases founded.snapshot.symm.trans found
    exact ⟨underway.told, settles_announceJob request underway⟩
  works history id message body store told found named _ _ _ _ _ := by
    have kept : Told body.jobId (store.putQueue (store.queue.markReceived id)) :=
      told.keep rfl (.inl rfl)
    refine ⟨kept, ?_⟩
    have settles := settles_executeResearchPipeline env body kept
    apply Program.Safe.weaken settles
    intro outcome now _ told
    exact ⟨told, settles_settle env.settings (message.delivery id body) outcome told⟩
  refuses history id message body store told _ _ _ _ _ := told.keep rfl (.inl rfl)
  crashes stage history store _ told _ := told

end

/-! ## Polls -/

theorem Explains.tells {snapshot : ResearchJobStateSnapshot} {record : FinalResearchReportRecord}
    (explains : Explains snapshot record.content) :
    (pollingResponse snapshot (some (reportOfRecord record))).Tells (reportOfRecord record) :=
  ⟨explains.reason, explains.fallback, explains.data⟩

/-- A labelled report explains itself. -/
theorem Labelled.tells {record : FinalResearchReportRecord} (labelled : Labelled record.content)
    (jobId : JobId) :
    (pollingResponse (reportSnapshot jobId (reportOfRecord record))
      (some (reportOfRecord record))).Tells (reportOfRecord record) where
  reason := rfl
  fallback := by
    change some (isTruthy record.content.aiFallbackReason) = some true ↔
      record.content.aiInsights = none
    rw [labelled, Option.some.injEq, Option.isNone_iff_eq_none]
  data := rfl

/-- A response that is completed tells what its report tells. -/
def Coherent (answer : Answer) : Prop :=
  ∀ response, answer = .status response → response.status = .completed →
    ∃ report, response.report = some report ∧ response.Tells report

/-- The stages of a poll.  From its first read on, the report is the one that the
snapshot explains. -/
inductive Reads (store : Store) (jobId : JobId) : Coroutine Answer → Prop where
  | started (context : RequestContext) : Reads store jobId (getResearchJobStatus context jobId)
  | missed (context : RequestContext) :
      Reads store jobId (answering context .status (pollWithoutSnapshot jobId))
  | completed (context : RequestContext) (snapshot : ResearchJobStateSnapshot)
      (record : FinalResearchReportRecord) (stored : store.reports jobId = some record)
      (explains : Explains snapshot record.content) :
      Reads store jobId (answering context .status
        ((loadReport .empty jobId).bind fun report => .pure (pollingResponse snapshot report)))
  | answered (answer : Answer) (coherent : Coherent answer) : Reads store jobId (.pure answer)

section

variable {store after : Store} {jobId : JobId} {program : Coroutine Answer}

theorem Reads.problem (response : ProblemResponse) :
    Reads store jobId (.pure (.problem response)) :=
  .answered _ fun _ other => nomatch other

/-- Only a poll that waits for the report minds a change of it. -/
theorem Reads.keep (reads : Reads store jobId program)
    (same : ∀ known, (Task.poll jobId known program).awaitsReport jobId = true →
      ∀ record, store.reports jobId = some record → after.reports jobId = some record) :
    Reads after jobId program := by
  cases reads with
  | started context => exact .started context
  | missed context => exact .missed context
  | completed context snapshot record stored explains =>
      refine .completed context snapshot record (same true ?_ record stored) explains
      rw [loadReport_bind, answering_await]
      simp [Task.awaitsReport, Program.pending, Op.looksForReport]
  | answered answer coherent => exact .answered answer coherent

/-- The first read of a poll. -/
theorem reads_found (told : Told jobId store) (context : RequestContext) :
    ∀ snapshot, store.snapshots jobId = some snapshot →
      Reads store jobId (answering context .status (pollWithSnapshot jobId snapshot)) := by
  intro snapshot found
  by_cases completed : snapshot.status = .completed
  · obtain ⟨record, stored, explains⟩ := told.shown snapshot found completed
    rw [pollWithSnapshot, if_pos completed]
    exact .completed context snapshot record stored explains
  · rw [pollWithSnapshot, if_neg completed]
    apply Reads.answered
    rintro response ⟨⟩ shown
    exact absurd shown completed

/-- The end of a poll's pending call brings it to its next stage. -/
theorem Reads.advance (reads : Reads store jobId program) (told : Told jobId store) {op : Op}
    {next : Except Exn op.Reply → Coroutine Answer} (pending : program = .call op next)
    {outcome : Outcome} {reply : Except Exn op.Reply}
    (called : exec op outcome store = some (reply, after)) : Reads after jobId (next reply) := by
  cases reads with
  | started context =>
      rw [getResearchJobStatus, pollJob, Program.bind_eq, answering_await] at pending
      cases pending
      cases reply with
      | error error => exact .problem _
      | ok found =>
          obtain ⟨read, rfl⟩ := getState_ok called
          cases found with
          | none => exact .missed context
          | some snapshot => exact reads_found told context snapshot read.symm
  | missed context =>
      rw [pollWithoutSnapshot, Program.bind_eq, loadReport_bind, answering_await] at pending
      cases pending
      cases reply with
      | error error => exact .problem _
      | ok selected =>
          obtain ⟨row, rfl⟩ := selectReport_ok called
          simp only [row]
          cases stored : after.reports jobId with
          | none => exact .problem _
          | some record =>
              apply Reads.answered
              rintro response ⟨⟩ -
              exact ⟨_, rfl, (told.labelled record stored).tells jobId⟩
  | completed context snapshot record stored explains =>
      rw [loadReport_bind, answering_await] at pending
      cases pending
      cases reply with
      | error error => exact .problem _
      | ok selected =>
          obtain ⟨row, rfl⟩ := selectReport_ok called
          simp only [row, stored]
          apply Reads.answered
          rintro response ⟨⟩ -
          exact ⟨_, rfl, explains.tells⟩
  | answered answer coherent => cases pending

end

/-- Every poll is at one of its stages. -/
def PollsRead (service : Service) : Prop :=
  ∀ jobId known program, .poll jobId known program ∈ service.tasks →
    Reads service.store jobId program

/-- A call leaves the report that a poll waits for. -/
theorem report_kept {service : Service} {index : Nat} {outcome : Outcome} {task : Task}
    (found : service.tasks[index]? = some task)
    (permitted : keepsCoherent (.resume index outcome) service = true) {op : Op}
    (pending : task.pending = some op) {reply : Except Exn op.Reply} {after : Store}
    (called : exec op outcome service.store = some (reply, after)) {other : Task}
    (member : other ∈ service.tasks) {jobId : JobId} (awaits : other.awaitsReport jobId = true)
    {record : FinalResearchReportRecord} (stored : service.store.reports jobId = some record) :
    after.reports jobId = some record := by
  cases effective : outcome.takesEffect with
  | false => rwa [eq_of_not_takesEffect called effective]
  | true =>
      cases written_of_exec called with
      | reported inserted absent =>
          have foreign : jobId ≠ inserted.jobId := by
            rintro rfl
            cases absent.symm.trans stored
          exact (Function.update_of_ne foreign _ _).trans stored
      | revised id changes row present =>
          have foreign : jobId ≠ id := by
            rintro rfl
            simp only [keepsCoherent, found, pending, Option.all_some, Op.replaces, effective,
              Bool.not_true, Bool.false_or, Bool.and_eq_true, List.all_eq_true] at permitted
            have idle := permitted.2.2 other member
            rw [awaits] at idle
            cases idle
          exact (Function.update_of_ne foreign _ _).trans stored
      | _ => exact stored

theorem not_poll_working (settings : Settings) (received : ReceivedMessage)
    (pipeline : Coroutine Unit) {jobId : JobId} {known : Bool} {program : Coroutine Answer} :
    Task.poll jobId known program ≠ Task.working settings received pipeline :=
  fun same => (Task.working_not_poll settings received pipeline).2 _ _ _ same.symm

/-- Every permitted step keeps the polls at their stages. -/
theorem pollsRead_step {env : Environment} {action : Action} {service after : Service}
    (moved : Step env service action after) (told : ∀ jobId, Told jobId service.store)
    (permitted : keepsCoherent action service = true) (reads : PollsRead service) :
    PollsRead after := by
  intro jobId known program member
  cases moved with
  | submit context request =>
      rcases List.mem_append.mp member with old | new
      · exact reads jobId known program old
      · cases List.mem_singleton.mp new
  | poll context id =>
      rcases List.mem_append.mp member with old | new
      · exact reads jobId known program old
      · cases List.mem_singleton.mp new
        exact .started context
  | deliver id message body found visible below named =>
      rcases List.mem_append.mp member with old | new
      · exact (reads jobId known program old).keep fun _ _ _ stored => stored
      · exact absurd (List.mem_singleton.mp new) (not_poll_working _ _ _)
  | resume index outcome task next store found resumes =>
      obtain ⟨op, reply, pending, called⟩ := resumes.exec
      rcases List.mem_or_eq_of_mem_set member with old | same
      · apply (reads jobId known program old).keep
        intro other awaits record stored
        exact report_kept found permitted pending called old awaits stored
      · cases resumes with
        | poll id was op resume reply called =>
            cases same
            exact (reads jobId known _ (List.mem_of_getElem? found)).advance
              (told jobId) rfl called
        | submit => cases same
        | execute => exact absurd same (not_poll_working _ _ _)
        | settle => cases same
  | crash index task found live =>
      rcases List.mem_or_eq_of_mem_set member with old | same
      · exact reads jobId known program old
      · cases same
  | reject | expireSnapshot | expireCached | timeout | redrive =>
      exact (reads jobId known program member).keep fun _ _ _ stored => stored

theorem allows_of_keepsCoherent (env : Environment) (action : Action) (service : Service)
    (permitted : keepsCoherent action service = true) :
    tenancy.allows env action service = true := by
  cases action with
  | deliver id =>
      simp only [keepsCoherent, oneAtATime, Bool.and_true] at permitted
      exact Tenancy.allows_deliver (fun _ => rfl) permitted
  | resume index outcome =>
      simp only [keepsCoherent, oneAtATime, Bool.true_and, Option.all_eq_true,
        Bool.and_eq_true] at permitted
      simp only [Tenancy.allows, Option.all_eq_true]
      intro task found stage _ op pending
      exact (permitted task found op pending).1
  | _ => simp [Tenancy.allows, tenancy]

/-- In a run in which deliveries of a job do not overlap, no report is replaced while
a poll of its job waits for it, and every failed analysis says why, every completed
response of a poll tells what its report tells. -/
theorem completed_polls_coherent {env : Environment} {dlqArn : String}
    {aiCache : String → Option CachedPayload} {actions : List Action} {service : Service}
    (ran : runWithin (Service.step env) keepsCoherent actions
      (Service.initial env.settings dlqArn aiCache) = some service) {jobId : JobId} {known : Bool}
    {response : PollingStatusResponse}
    (answered : .poll jobId known (.pure (.status response)) ∈ service.tasks)
    (completed : response.status = .completed) :
    ∃ report, response.report = some report ∧ response.Tells report := by
  have kept : tenancy.Kept env.settings service ∧ PollsRead service := by
    refine runWithin_induction (fun service => tenancy.Kept env.settings service ∧
      PollsRead service) ?_ ?_ ran
    · rintro action now next permitted moved ⟨kept, reads⟩
      have step := Service.step_cases moved
      refine ⟨(upheld env).step kept (allows_of_keepsCoherent env action now permitted) step, ?_⟩
      exact pollsRead_step step (kept.everywhere (fun _ _ => id) fun _ _ _ => id) permitted reads
    · exact ⟨(upheld env).initial dlqArn aiCache, fun _ _ _ member => by cases member⟩
  cases kept.2 jobId known _ answered with
  | answered answer coherent => exact coherent response rfl completed

/-- A poll of the job was answered that it is completed, in this way. -/
theorem answered_of_any {service : Service} (index : Nat)
    {check : PollingStatusResponse → Bool}
    (shown : service.tasks[index]?.any fun
      | .poll jobId _ (.pure (.status response)) =>
          jobId = "job-1" && response.status = .completed && check response
      | _ => false) :
    ∃ known response, .poll "job-1" known (.pure (.status response)) ∈ service.tasks ∧
      response.status = .completed ∧ check response = true := by
  obtain ⟨task, found, shown⟩ := (Option.any_eq_true _ _).mp shown
  split at shown
  · rename_i jobId known response
    simp only [Bool.and_eq_true, decide_eq_true_eq] at shown
    obtain ⟨⟨rfl, completed⟩, checked⟩ := shown
    exact ⟨known, response, List.mem_of_getElem? found, completed, checked⟩
  · cases shown

/-- A job that is delivered and completed without an analysis, and then polled. -/
def polledAfter : List Action :=
  delivered ++ .poll Sample.context "job-1" :: Sample.calls 2 [.ok, .done (.flag true)]

theorem completed_polls_coherent_delivered :
    ∃ service known response,
      runWithin (Service.step Sample.environment) keepsCoherent polledAfter Sample.cold =
        some service ∧
      .poll "job-1" known (.pure (.status response)) ∈ service.tasks ∧
      response.status = .completed ∧
      ∃ report, response.report = some report ∧ response.Tells report := by
  obtain ⟨service, ran, known, response, answered, completed, -⟩ :
      ∃ service, runWithin (Service.step Sample.environment) keepsCoherent polledAfter
          Sample.cold = some service ∧ ∃ known response,
        .poll "job-1" known (.pure (.status response)) ∈ service.tasks ∧
        response.status = .completed ∧ (fun _ => true) response = true :=
    ⟨_, Sample.ran_after (by decide +kernel), answered_of_any 2 (by decide +kernel)⟩
  exact ⟨service, known, response, ran, answered, completed,
    completed_polls_coherent ran answered completed⟩

/-- The analysis fails without a message. -/
def silent : List Action :=
  Sample.submission ++ .deliver 0 :: Sample.calls 1 (Sample.unanalyzed (.llmUnavailable "")) ++
    .poll Sample.context "job-1" :: Sample.calls 2 [.ok, .done (.flag true)]

open Sample in
/-- The job is completed without an analysis, but its message is not deleted.  While
a poll has read the snapshot, a second execution replaces the report. -/
def replaced : List Action :=
  submission ++ .deliver 0 :: calls 1 (unanalyzed (.llmUnavailable "down") ++ [.failed fault]) ++
    .poll context "job-1" :: calls 2 [.ok] ++ .timeout 0 :: .deliver 0 ::
    (calls 3 (fetched ++ [.done (.time noon), .ok, .done (.insights insights), .ok,
      .done (.time noon), .done (.flag true), .ok]) ++ calls 2 [.done (.flag true)])

/-- Two executions overlap. -/
def entangled : List Action :=
  overlapping ++ .poll Sample.context "job-1" :: Sample.calls 3 [.ok, .done (.flag true)]

/-- A completed response says of the analysis what its report does not say. -/
def Contradicts (service : Service) : Prop :=
  ∃ known response, .poll "job-1" known (.pure (.status response)) ∈ service.tasks ∧
    response.status = .completed ∧
    ¬ ∃ report, response.report = some report ∧ response.Tells report

theorem contradicts_of_any {service : Service} (index : Nat)
    (shown : service.tasks[index]?.any fun
      | .poll jobId _ (.pure (.status response)) =>
          jobId = "job-1" && response.status = .completed && response.report.any fun report =>
            (response.aiFallback == some true) != report.aiInsights.isNone
      | _ => false) : Contradicts service := by
  obtain ⟨known, response, answered, completed, other⟩ := answered_of_any index shown
  refine ⟨known, response, answered, completed, ?_⟩
  rintro ⟨report, shown, tells⟩
  rw [shown, Option.any_some, bne_iff_ne, ne_eq, Bool.eq_iff_iff, beq_iff_eq,
    Option.isNone_iff_eq_none] at other
  exact other tells.fallback

/-- Responses that contradict their report: after an analysis that failed silently,
after a report was replaced between the two reads, and after two executions that
overlapped. -/
theorem completed_polls_contradict :
    (∃ service, run (Service.step Sample.environment) silent Sample.cold = some service ∧
      Contradicts service) ∧
    (∃ service, run (Service.step Sample.environment) replaced Sample.cold = some service ∧
      Contradicts service) ∧
    ∃ service, run (Service.step Sample.environment) entangled Sample.cold = some service ∧
      Contradicts service :=
  ⟨⟨_, Sample.ran_after (by decide +kernel), contradicts_of_any 2 (by decide +kernel)⟩,
    ⟨_, Sample.ran_after (by decide +kernel), contradicts_of_any 2 (by decide +kernel)⟩,
    ⟨_, Sample.ran_after (by decide +kernel), contradicts_of_any 3 (by decide +kernel)⟩⟩

end Coherence

end ResearchTool
