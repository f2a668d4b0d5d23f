import ResearchTool.Tenancy

/-!
# The stores of a job at rest

Row, snapshot and report of a job are written one after the other, by the
submission, by every execution of the pipeline and by the failure branch of
the worker.  While one task at a time works on a job and database and cache
answer, they agree again whenever nobody works on it, whatever GitHub, the
language model and the queue did in between.
-/

namespace ResearchTool

open Process

/-- Row and report describe what one fetch has returned. -/
structure Describes (target : ParsedRepoTarget) (rawContext : RepositoryRawContext)
    (row : ResearchJobRecord) (content : ReportContent) : Prop where
  commitSha : row.commitSha = some rawContext.commitSha
  instantData : row.instantData = some rawContext.instantData
  aiCacheKey : row.aiCacheKey =
    some (buildAiCacheKey target.owner target.repo rawContext.commitSha)
  reportUrl : content.repositoryUrl = rawContext.repositoryUrl
  reportCommit : content.commitSha = some rawContext.commitSha
  deterministicData : content.deterministicData = rawContext.instantData

/-- The snapshot of a completed job shows what its report says. -/
structure Shows (snapshot : ResearchJobStateSnapshot) (content : ReportContent) : Prop where
  instantData : snapshot.instantData = some content.deterministicData
  aiFallback : snapshot.aiFallback.getD false = content.aiFallback
  aiFallbackReason : snapshot.aiFallbackReason = content.aiFallbackReason

/-- The snapshot has the status and the error of the row, and a completed row
has a report of the same fetch. -/
structure StoresAgree (jobId : JobId) (store : Store) : Prop where
  snapshot : ∀ row snapshot, store.jobs jobId = some row → store.snapshots jobId = some snapshot →
    snapshot.status = row.status ∧ snapshot.error = row.error
  report : ∀ row, store.jobs jobId = some row → row.status = .completed →
    ∃ target rawContext report, (target, rawContext) ∈ store.fetched ∧
      store.reports jobId = some report ∧ Describes target rawContext row report.content ∧
      ∀ snapshot, store.snapshots jobId = some snapshot → Shows snapshot report.content

/-- Whoever reads the stores finds one account of the job: a snapshot has the
status of a row, and a completed row and its report describe the same fetch. -/
structure Store.TellsOneStory (jobId : JobId) (store : Store) : Prop where
  status : ∀ snapshot, store.snapshots jobId = some snapshot →
    ∃ row, store.jobs jobId = some row ∧ snapshot.status = row.status
  fetch : ∀ row, store.jobs jobId = some row → row.status = .completed →
    ∃ target rawContext report, (target, rawContext) ∈ store.fetched ∧
      store.reports jobId = some report ∧ row.commitSha = some rawContext.commitSha ∧
      report.content.commitSha = row.commitSha ∧
      row.instantData = some rawContext.instantData ∧
      row.instantData = some report.content.deterministicData ∧
      row.aiCacheKey = some (buildAiCacheKey target.owner target.repo rawContext.commitSha)

/-- Database and cache carry out what they are asked. -/
def soundStores (op : Op) (outcome : Outcome) : Bool :=
  match op.party with
  | .redis => !outcome.faulty
  | .database => !outcome.faulty
  | _ => true

/-- One task at a time works on a job and none of them crashes, while database
and cache carry out what they are asked. -/
def undisturbed (action : Action) (service : Service) : Bool :=
  match action with
  | .deliver id =>
      (service.store.queue.jobAt id).all fun jobId =>
        service.tasks.all fun task => task.tenant != some jobId
  | .resume index outcome =>
      service.tasks[index]?.all fun task =>
        task.stage.all fun _ => task.pending.all fun op => soundStores op outcome
  | .crash index => service.tasks[index]?.all fun task => task.stage.isNone
  | _ => true

namespace Agreement

/-- What two states of the stores have in common as far as the job is concerned. -/
theorem agree_of_same {jobId : JobId} {before after : Store} (agree : StoresAgree jobId before)
    (job : after.jobs jobId = before.jobs jobId)
    (report : after.reports jobId = before.reports jobId)
    (snapshot : after.snapshots jobId = before.snapshots jobId ∨ after.snapshots jobId = none)
    (fetched : before.fetched ⊆ after.fetched) : StoresAgree jobId after := by
  have shown : ∀ found, after.snapshots jobId = some found →
      before.snapshots jobId = some found := by
    intro found stored
    rcases snapshot with same | expired
    · exact same.symm.trans stored
    · cases expired.symm.trans stored
  constructor
  · intro row found stored cached
    exact agree.snapshot row found (job.symm.trans stored) (shown found cached)
  · intro row stored completed
    obtain ⟨target, rawContext, saved, member, present, describes, shows⟩ :=
      agree.report row (job.symm.trans stored) completed
    exact ⟨target, rawContext, saved, fetched member, report.trans present, describes,
      fun found cached => shows found (shown found cached)⟩

theorem agree_of_leaves {jobId : JobId} {before after : Store} (left : before.Leaves jobId after)
    (agree : StoresAgree jobId before) : StoresAgree jobId after :=
  agree_of_same agree left.job left.report left.snapshot left.fetched

/-- One task at a time, over sound stores. -/
def tenancy : Tenancy where
  permits _ := soundStores
  mayCrash _ := false
  mayRefuse _ := true
  bears _ _ := True
  rests jobId _ := StoresAgree jobId
  bears_of_leaves _ _ := trivial
  rests_of_leaves := agree_of_leaves

theorem allows_of_undisturbed (env : Environment) (action : Action) (service : Service)
    (permitted : undisturbed action service = true) :
    tenancy.allows env action service = true := by
  cases action with
  | deliver id => exact Tenancy.allows_deliver (fun _ => rfl) permitted
  | crash index =>
      simp only [undisturbed, Option.all_eq_true] at permitted
      simp only [Tenancy.allows, Option.all_eq_true]
      intro task found stage staged
      have free := permitted task found
      rw [staged] at free
      cases free
  | _ => exact permitted

/-- The custody of one job under these terms. -/
def custody (jobId : JobId) : Custody where
  permits := soundStores
  rely := Store.Leaves jobId
  rely_refl := .refl jobId
  rely_trans := .trans

variable {jobId : JobId}

theorem sound (party : Party) (stores : party = .redis ∨ party = .database) :
    (custody jobId).Sound party := by
  rintro op outcome same permitted
  have checked : soundStores op outcome = true := permitted
  rcases stores with rfl | rfl <;> simpa [soundStores, same] using checked

theorem holds : (custody jobId).Holds jobId where
  job left := left.job
  report left := left.report

section

variable {α : Type} {state : Store} {post : Except Exn α → Store → Prop}

/-- A snapshot is written. -/
theorem safe_setState {snapshot : ResearchJobStateSnapshot} {next : Unit → Coroutine α}
    (rest : ∀ before, state.Leaves jobId before →
      (next ()).Safe (custody jobId).protocol post (before.putSnapshot snapshot)) :
    ((await (.setState snapshot)).bind next).Safe (custody jobId).protocol post state := by
  apply Custody.safe_answered
  · intro now reply after outcome permitted _
    exact sound .redis (.inl rfl) _ outcome rfl permitted
  · intro now reply after supply reached answered
    obtain ⟨rfl, rfl⟩ := answer_setState answered
    exact ⟨(), rfl, rest now reached⟩

end

/-- The operation writes neither rows, reports nor snapshots. -/
def Op.SparesRecords : Op → Prop
  | .insertJob _ => False
  | .updateJob _ _ => False
  | .insertReport _ => False
  | .updateReport _ _ => False
  | .setState _ => False
  | _ => True

theorem records_of_spares {op : Op} {store after : Store} (written : Written store op after)
    (spares : Op.SparesRecords op) : after.jobs = store.jobs ∧ after.reports = store.reports ∧
      after.snapshots = store.snapshots := by
  cases written with
  | inserted | updated | reported | revised | snapshot => cases spares
  | _ => exact ⟨rfl, rfl, rfl⟩

theorem agree_of_spares {op : Op} {store after : Store} (written : Written store op after)
    (spares : Op.SparesRecords op) (agree : StoresAgree jobId store) :
    StoresAgree jobId after := by
  obtain ⟨jobs, reports, snapshots⟩ := records_of_spares written spares
  exact agree_of_same agree (congrFun jobs jobId) (congrFun reports jobId)
    (.inl (congrFun snapshots jobId)) written.grows.fetched.subset

/-- A program that writes no record of the job. -/
theorem safe_of_spares {α : Type} {program : Coroutine α} {store : Store}
    (uses : program.Uses Op.SparesRecords) (agree : StoresAgree jobId store) :
    program.Safe (custody jobId).protocol (fun _ now => StoresAgree jobId now) store := by
  apply uses.safe _ (fun _ _ => agree_of_leaves) agree
  rintro op before reply after spares - holds ⟨outcome, -, called⟩
  exact ⟨trivial, trivial, agree_of_spares (written_of_exec called) spares holds⟩

/-! ## A job in progress -/

/-- The snapshot, if there is one, shows a job in progress. -/
def Progressing (jobId : JobId) (store : Store) : Prop :=
  ∀ snapshot, store.snapshots jobId = some snapshot →
    snapshot.status = .processing ∧ snapshot.error = none

/-- The row and the snapshot of a job in progress. -/
structure Underway (jobId : JobId) (row : ResearchJobRecord) (store : Store) : Prop where
  stored : store.jobs jobId = some row
  status : row.status = .processing
  error : row.error = none
  snapshot : Progressing jobId store

/-- The row holds the facts of a fetch. -/
structure Prepared (target : ParsedRepoTarget) (rawContext : RepositoryRawContext)
    (row : ResearchJobRecord) (store : Store) : Prop where
  fetched : (target, rawContext) ∈ store.fetched
  commitSha : row.commitSha = some rawContext.commitSha
  instantData : row.instantData = some rawContext.instantData
  aiCacheKey : row.aiCacheKey =
    some (buildAiCacheKey target.owner target.repo rawContext.commitSha)

theorem Progressing.leave {before after : Store} (left : before.Leaves jobId after)
    (progressing : Progressing jobId before) : Progressing jobId after := by
  intro snapshot cached
  rcases left.snapshot with same | expired
  · exact progressing snapshot (same.symm.trans cached)
  · cases expired.symm.trans cached

theorem Progressing.putSnapshot {store : Store} {snapshot : ResearchJobStateSnapshot}
    (status : snapshot.status = .processing) (error : snapshot.error = none)
    (progressing : Progressing jobId store) : Progressing jobId (store.putSnapshot snapshot) := by
  intro found cached
  rcases update_eq_some cached with ⟨-, new⟩ | ⟨-, old⟩
  · cases new
    exact ⟨status, error⟩
  · exact progressing found old

theorem Underway.leave {row : ResearchJobRecord} {before after : Store}
    (left : before.Leaves jobId after) (underway : Underway jobId row before) :
    Underway jobId row after where
  stored := left.job.trans underway.stored
  status := underway.status
  error := underway.error
  snapshot := underway.snapshot.leave left

theorem Underway.putSnapshot {row : ResearchJobRecord} {store : Store}
    {snapshot : ResearchJobStateSnapshot} (underway : Underway jobId row store)
    (status : snapshot.status = .processing) (error : snapshot.error = none) :
    Underway jobId row (store.putSnapshot snapshot) :=
  { underway with snapshot := underway.snapshot.putSnapshot status error }

/-- The row of a job in progress has been written. -/
theorem Progressing.update {row : ResearchJobRecord} {store before after : Store}
    (progressing : Progressing jobId store) (reached : store.Leaves jobId before)
    (written : (before.putJob jobId row).Leaves jobId after) (status : row.status = .processing)
    (error : row.error = none) : Underway jobId row after where
  stored := written.job.trans (Function.update_self _ _ _)
  status := status
  error := error
  snapshot :=
    have started : Progressing jobId before := progressing.leave reached
    have recorded : Progressing jobId (before.putJob jobId row) := started
    recorded.leave written

/-- A row that is not completed, with its snapshot. -/
theorem agree_unfinished {row : ResearchJobRecord} {store : Store}
    (stored : store.jobs jobId = some row) (unfinished : row.status ≠ .completed)
    (shown : ∀ snapshot, store.snapshots jobId = some snapshot →
      snapshot.status = row.status ∧ snapshot.error = row.error) : StoresAgree jobId store := by
  constructor
  · intro other found present cached
    obtain rfl := Option.some.inj (stored.symm.trans present)
    exact shown found cached
  · intro other present completed
    obtain rfl := Option.some.inj (stored.symm.trans present)
    exact absurd completed unfinished

/-- A snapshot is written for a row that is not completed. -/
theorem agree_putSnapshot {row : ResearchJobRecord} {snapshot : ResearchJobStateSnapshot}
    {store : Store} (named : snapshot.jobId = jobId) (stored : store.jobs jobId = some row)
    (unfinished : row.status ≠ .completed) (status : snapshot.status = row.status)
    (error : snapshot.error = row.error) : StoresAgree jobId (store.putSnapshot snapshot) := by
  subst named
  have kept : (store.putSnapshot snapshot).jobs snapshot.jobId = some row := stored
  apply agree_unfinished kept unfinished
  intro found cached
  rcases update_eq_some cached with ⟨-, new⟩ | ⟨other, -⟩
  · cases new
    exact ⟨status, error⟩
  · exact absurd rfl other

theorem Underway.agree {row : ResearchJobRecord} {store : Store}
    (underway : Underway jobId row store) : StoresAgree jobId store := by
  apply agree_unfinished underway.stored
  · rw [underway.status]
    exact nofun
  · intro snapshot cached
    rw [underway.status, underway.error]
    exact underway.snapshot snapshot cached

theorem Prepared.grow {target : ParsedRepoTarget} {rawContext : RepositoryRawContext}
    {row : ResearchJobRecord} {before after : Store} (fetched : before.fetched ⊆ after.fetched)
    (prepared : Prepared target rawContext row before) : Prepared target rawContext row after :=
  { prepared with fetched := fetched prepared.fetched }

/-- The analysis leaves the job in progress. -/
theorem safe_analysisStage (env : Environment) {target : ParsedRepoTarget}
    {rawContext : RepositoryRawContext} {row : ResearchJobRecord} {store : Store}
    (cacheKey : String) (underway : Underway jobId row store)
    (prepared : Prepared target rawContext row store) :
    (analysisStage env jobId rawContext cacheKey).Safe (custody jobId).protocol
      (fun _ now => Underway jobId row now ∧ Prepared target rawContext row now) store := by
  apply (uses_analysisStage env jobId rawContext cacheKey).safe _ _ ⟨underway, prepared⟩
  · rintro op before reply after analysis - ⟨underway, prepared⟩ ⟨outcome, -, called⟩
    have written := written_of_exec called
    refine ⟨trivial, trivial, ?_, prepared.grow written.grows.fetched.subset⟩
    cases written with
    | snapshot snapshot => exact underway.putSnapshot analysis.2 analysis.1.error
    | cached => exact { underway with }
    | unchanged => exact underway
    | _ => cases analysis
  · rintro before after left ⟨underway, prepared⟩
    exact ⟨underway.leave left, prepared.grow left.fetched⟩

/-- A completed job whose report and snapshot are those of one fetch. -/
theorem agree_completed {target : ParsedRepoTarget} {rawContext : RepositoryRawContext}
    {row : ResearchJobRecord} {report : FinalResearchReportRecord}
    {snapshot : ResearchJobStateSnapshot} {store : Store} (stored : store.jobs jobId = some row)
    (saved : store.reports jobId = some report) (cached : store.snapshots jobId = some snapshot)
    (fetched : (target, rawContext) ∈ store.fetched) (status : snapshot.status = row.status)
    (error : snapshot.error = row.error)
    (describes : Describes target rawContext row report.content)
    (shows : Shows snapshot report.content) : StoresAgree jobId store := by
  constructor
  · intro other found present shown
    obtain rfl := Option.some.inj (stored.symm.trans present)
    obtain rfl := Option.some.inj (cached.symm.trans shown)
    exact ⟨status, error⟩
  · intro other present _
    obtain rfl := Option.some.inj (stored.symm.trans present)
    refine ⟨target, rawContext, report, fetched, saved, describes, ?_⟩
    intro found shown
    obtain rfl := Option.some.inj (cached.symm.trans shown)
    exact shows

/-- What a pipeline leaves that found the job in the given status. -/
structure Ended (jobId : JobId) (status : JobStatus) (outcome : Except Exn Unit) (store : Store) :
    Prop where
  agree : StoresAgree jobId store
  interrupted : outcome.isOk = false →
    ∃ row, store.jobs jobId = some row ∧ (row.status = status ∨ row.status = .processing)

theorem Ended.leave {status : JobStatus} {outcome : Except Exn Unit} {before after : Store}
    (left : before.Leaves jobId after) (ended : Ended jobId status outcome before) :
    Ended jobId status outcome after where
  agree := agree_of_leaves left ended.agree
  interrupted raised := by
    obtain ⟨row, stored, held⟩ := ended.interrupted raised
    exact ⟨row, left.job.trans stored, held⟩

theorem Underway.ended {status : JobStatus} {outcome : Except Exn Unit} {row : ResearchJobRecord}
    {store : Store} (underway : Underway jobId row store) : Ended jobId status outcome store where
  agree := underway.agree
  interrupted _ := ⟨row, underway.stored, .inr underway.status⟩

/-- The last stage cannot be interrupted. -/
theorem safe_completionStage {target : ParsedRepoTarget} {rawContext : RepositoryRawContext}
    {row : ResearchJobRecord} {session : Session} {store : Store} (analysis : Analysis)
    (loaded : session.jobs jobId = some row) (unloaded : session.reports jobId = none)
    (underway : Underway jobId row store) (prepared : Prepared target rawContext row store) :
    (completionStage session jobId rawContext
      (buildAiCacheKey target.owner target.repo rawContext.commitSha) analysis).Safe
      (custody jobId).protocol
      (fun outcome now => outcome.isOk = true ∧ StoresAgree jobId now) store := by
  apply Custody.safe_now
  intro createdAt first reached
  apply Custody.safe_saveFinalReport (sound .database (.inr rfl)) holds unloaded
  intro saved report before second further moved content same
  have underway := (underway.leave reached).leave further
  have prepared := (prepared.grow reached.fetched).grow further.fetched
  have stored : second.jobs jobId = some row := moved.job.trans underway.stored
  apply Custody.safe_updateJobStatus (sound .database (.inr rfl)) holds stored
  · right
    rw [same]
    exact loaded
  intro updated between third later written current _
  apply Custody.safe_now
  intro time fourth ended
  rw [← Program.bind_pure (await (.setState _))]
  apply safe_setState
  intro final closed
  apply Custody.safe_pure
  intro shown left
  refine ⟨rfl, agree_of_leaves left ?_⟩
  -- row, report and fetch have stayed since they were written
  have carried : between.fetched ⊆ final.fetched := fun _ member =>
    closed.fetched (ended.fetched (written.fetched member))
  have completed := (closed.job.trans ended.job).trans
    (written.job.trans (Function.update_self _ _ _))
  have saved := ((closed.report.trans ended.report).trans written.report).trans
    (later.report.trans (moved.report.trans (Function.update_self _ _ _)))
  refine agree_completed completed saved (Function.update_self _ _ _)
    (carried (later.fetched (moved.fetched prepared.fetched))) rfl rfl
    ⟨prepared.commitSha, prepared.instantData, rfl, ?_, ?_, ?_⟩ ⟨?_, ?_, ?_⟩
  all_goals rw [content]; rfl

theorem safe_pipelineSession (env : Environment) (target : ParsedRepoTarget)
    {row : ResearchJobRecord} {store : Store} (stored : store.jobs jobId = some row)
    (progressing : Progressing jobId store) :
    (pipelineSession env jobId target .empty).Safe (custody jobId).protocol
      (Ended jobId row.status) store := by
  apply Custody.safe_updateJobStatus (sound .database (.inr rfl)) holds stored (.inl rfl)
  intro started before first reached written loaded unloaded
  have underway := progressing.update reached written rfl rfl
  apply Custody.safe_await
  case raised =>
    intro error second after outcome further _ called
    apply Custody.safe_raise
    intro now left
    have kept := (records_of_spares (written_of_exec called) trivial).1
    apply Ended.leave left
    constructor
    · exact agree_of_spares (written_of_exec called) trivial (underway.leave further).agree
    · exact fun _ => ⟨_, (congrFun kept jobId).trans (underway.leave further).stored, .inr rfl⟩
  intro rawContext second third outcome further _ called
  obtain ⟨supply, -, answered⟩ := answer_of_exec_ok called
  obtain ⟨context, same, rfl⟩ := answer_fetchRepositoryContext answered
  cases same
  apply Custody.safe_now
  intro time fourth moved
  have underway : Underway jobId _ fourth :=
    Underway.leave moved { underway.leave further with }
  have fetched : (target, rawContext) ∈ fourth.fetched := moved.fetched (List.mem_cons_self ..)
  apply safe_setState
  intro fifth left
  have progressing : Progressing jobId (fifth.putSnapshot (processingSnapshot jobId
      "Preparing AI analysis" time (some rawContext.instantData))) :=
    (underway.snapshot.leave left).putSnapshot rfl rfl
  apply Custody.safe_updateJobStatus (sound .database (.inr rfl)) holds
    (show (fifth.putSnapshot _).jobs jobId = some _ from left.job.trans underway.stored)
    (.inr loaded)
  intro filled between sixth later saved current same
  have underway := progressing.update later saved rfl rfl
  have known : (target, rawContext) ∈ sixth.fetched :=
    saved.fetched (later.fetched (left.fetched fetched))
  apply (safe_analysisStage env _ underway
    (show Prepared target rawContext _ sixth from ⟨known, rfl, rfl, rfl⟩)).bind trivial
  · rintro analysis seventh - ⟨underway, prepared⟩
    have fresh : filled.reports jobId = none := by
      rw [same, unloaded]
      rfl
    apply (safe_completionStage analysis current fresh underway prepared).weaken
    rintro outcome now - ⟨returned, agree⟩
    refine ⟨agree, fun raised => ?_⟩
    cases returned.symm.trans raised
  · rintro error seventh - ⟨underway, -⟩
    exact underway.ended

/-- A job that has a row keeps it. -/
theorem keeps_row {α : Type} {program : Coroutine α} {post : Except Exn α → Store → Prop}
    {store : Store} (safe : program.Safe (custody jobId).protocol post store)
    (present : (store.jobs jobId).isSome) :
    program.Safe (custody jobId).protocol
      (fun outcome now => post outcome now ∧ (now.jobs jobId).isSome) store := by
  apply safe.keeping _ _ present
  · rintro op before reply after stored ⟨outcome, -, called⟩
    exact (written_of_exec called).grows.jobs jobId stored
  · intro before after left stored
    rw [left.job]
    exact stored

theorem safe_executeResearchPipeline (env : Environment) (message : ResearchJobMessage)
    {row : ResearchJobRecord} {store : Store} (agree : StoresAgree message.jobId store)
    (stored : store.jobs message.jobId = some row) :
    (executeResearchPipeline env message).Safe (custody message.jobId).protocol
      (Ended message.jobId row.status) store := by
  unfold executeResearchPipeline
  cases parseGithubRepositoryUrl env.urlLibrary message.repoUrl with
  | error error =>
      apply Custody.safe_raise
      intro now left
      exact ⟨agree_of_leaves left agree, fun _ => ⟨row, left.job.trans stored, .inl rfl⟩⟩
  | ok target =>
      apply Custody.safe_answered
      · intro now reply after outcome permitted _
        exact sound .redis (.inl rfl) _ outcome rfl permitted
      intro first reply after supply reached answered
      obtain ⟨rfl, rfl⟩ := answer_getState answered
      refine ⟨_, rfl, ?_⟩
      apply Custody.safe_now
      intro time second further
      apply safe_setState
      intro third left
      have kept : (third.putSnapshot (processingSnapshot message.jobId "Fetching GitHub data" time
          ((after.snapshots message.jobId).bind ResearchJobStateSnapshot.instantData))).jobs
            message.jobId = some row :=
        ((left.job.trans further.job).trans reached.job).trans stored
      rw [← Program.bind_pure (withSession _)]
      apply Custody.safe_withSession (sound .database (.inr rfl))
      · apply safe_pipelineSession env target kept
        intro snapshot cached
        rcases update_eq_some cached with ⟨-, new⟩ | ⟨other, -⟩
        · cases new
          exact ⟨rfl, rfl⟩
        · exact absurd rfl other
      · intro value before now ended left
        apply Custody.safe_pure
        intro later further
        exact ended.leave (left.trans further)
      · intro error before now ended left
        apply Custody.safe_raise
        intro later further
        exact ended.leave (left.trans further)

/-! ## The outcome of a delivery -/

/-- The row and the snapshot of a job that the worker has given up. -/
structure Marked (jobId : JobId) (error : Exn) (store : Store) : Prop where
  row : ∃ row, store.jobs jobId = some row ∧ row.status = .failed ∧ row.error = some error.str
  snapshot : ∀ snapshot, store.snapshots jobId = some snapshot →
    snapshot.status = .failed ∧ snapshot.error = some error.str

theorem Marked.keep {error : Exn} {before after : Store} (marked : Marked jobId error before)
    (job : after.jobs jobId = before.jobs jobId)
    (snapshot : after.snapshots jobId = before.snapshots jobId ∨ after.snapshots jobId = none) :
    Marked jobId error after where
  row := by
    obtain ⟨row, stored, status, same⟩ := marked.row
    exact ⟨row, job.trans stored, status, same⟩
  snapshot found cached := by
    rcases snapshot with same | expired
    · exact marked.snapshot found (same.symm.trans cached)
    · cases expired.symm.trans cached

theorem Marked.leave {error : Exn} {before after : Store} (left : before.Leaves jobId after)
    (marked : Marked jobId error before) : Marked jobId error after :=
  marked.keep left.job left.snapshot

theorem Marked.agree {error : Exn} {store : Store} (marked : Marked jobId error store) :
    StoresAgree jobId store := by
  obtain ⟨row, stored, status, same⟩ := marked.row
  apply agree_unfinished stored
  · rw [status]
    exact nofun
  · rw [status, same]
    exact marked.snapshot

theorem safe_markFailed (error : Exn) {store : Store} (present : (store.jobs jobId).isSome) :
    (markFailed jobId error).Safe (custody jobId).protocol
      (fun outcome now => outcome.isOk = true ∧ Marked jobId error now) store := by
  obtain ⟨row, stored⟩ := Option.isSome_iff_exists.mp present
  have marks : (updateJobStatus .empty jobId {
        status := some .failed
        progressMsg := some retriesExhausted
        error := some (some error.str)
      }).Safe (custody jobId).protocol (fun outcome now => outcome.isOk = true ∧ ∃ row,
        now.jobs jobId = some row ∧ row.status = .failed ∧ row.error = some error.str) store := by
    rw [← Program.bind_pure (updateJobStatus _ _ _)]
    apply Custody.safe_updateJobStatus (sound .database (.inr rfl)) holds stored (.inl rfl)
    intro updated before first reached written current same
    apply Custody.safe_pure
    intro now left
    exact ⟨rfl, _, (left.job.trans written.job).trans (Function.update_self _ _ _), rfl, rfl⟩
  apply Custody.safe_withSession (sound .database (.inr rfl)) marks
  case raised =>
    rintro raised before now ⟨impossible, -⟩
    cases impossible
  rintro session first second ⟨-, failed, marked, status, same⟩ left
  apply Custody.safe_now
  intro time third moved
  rw [← Program.bind_pure (await (.setState _))]
  apply safe_setState
  intro fourth further
  apply Custody.safe_pure
  intro now closed
  refine ⟨rfl, Marked.leave closed ?_⟩
  constructor
  · exact ⟨failed, ((further.job.trans moved.job).trans left.job).trans marked, status, same⟩
  · intro snapshot cached
    rcases update_eq_some cached with ⟨-, new⟩ | ⟨other, -⟩
    · cases new
      exact ⟨rfl, rfl⟩
    · exact absurd rfl other

theorem safe_settle (settings : Settings) (received : ReceivedMessage)
    (outcome : Except Exn Unit) {store : Store} (agree : StoresAgree received.body.jobId store)
    (present : (store.jobs received.body.jobId).isSome) :
    (settle settings received outcome).Safe (custody received.body.jobId).protocol
      (fun _ now => StoresAgree received.body.jobId now) store := by
  cases outcome with
  | ok value => exact safe_of_spares (Program.Uses.perform trivial) agree
  | error error =>
      by_cases last : settings.maxQueueAttempts ≤ received.receiveCount
      · rw [settle_exhausted last]
        apply (safe_markFailed error present).bind trivial
        · rintro value now - ⟨-, marked⟩
          exact safe_of_spares (Program.Uses.perform trivial) marked.agree
        · rintro raised now - ⟨-, marked⟩
          exact marked.agree
      · rw [settle_retry last]
        exact safe_of_spares (Program.Uses.perform trivial) agree

/-! ## Submissions -/

theorem safe_completeFromCache {target : ParsedRepoTarget} {rawContext : RepositoryRawContext}
    {session : Session} {now : DateTime} {store : Store} (cachedAi : StructuredAIResponse)
    (loaded : session.jobs jobId = some (pendingRecord target rawContext jobId))
    (unloaded : session.reports jobId = none)
    (stored : store.jobs jobId = some (pendingRecord target rawContext jobId))
    (fetched : (target, rawContext) ∈ store.fetched) :
    (completeFromCache session jobId rawContext
      (pendingSnapshot jobId now rawContext.instantData) cachedAi).Safe (custody jobId).protocol
      (fun _ now => StoresAgree jobId now) store := by
  apply Custody.safe_now
  intro createdAt first reached
  apply Custody.safe_saveFinalReport (sound .database (.inr rfl)) holds unloaded
  intro saved report before second further moved content same
  apply Custody.safe_updateJobStatus (sound .database (.inr rfl)) holds
    (show second.jobs jobId = some _ from
      ((moved.job.trans further.job).trans reached.job).trans stored)
  · right
    rw [same]
    exact loaded
  intro updated between third later written current _
  apply Custody.safe_now
  intro time fourth ended
  apply safe_setState
  intro final closed
  apply Custody.safe_pure
  intro shown left
  apply agree_of_leaves left
  have carried : before.fetched ⊆ final.fetched := fun _ member =>
    closed.fetched (ended.fetched (written.fetched (later.fetched (moved.fetched member))))
  have completed := (closed.job.trans ended.job).trans
    (written.job.trans (Function.update_self _ _ _))
  have saved := ((closed.report.trans ended.report).trans written.report).trans
    (later.report.trans (moved.report.trans (Function.update_self _ _ _)))
  refine agree_completed completed saved (Function.update_self _ _ _)
    (carried (further.fetched (reached.fetched fetched))) rfl rfl
    ⟨rfl, rfl, rfl, ?_, ?_, ?_⟩ ⟨?_, ?_, ?_⟩
  all_goals rw [content] <;> rfl

/-- The message of a registered job is sent, or its row is marked. -/
theorem safe_enqueueJob {target : ParsedRepoTarget} {rawContext : RepositoryRawContext}
    {session : Session} {now : DateTime} {store : Store} (request : ResearchRequest)
    (loaded : session.jobs jobId = some (pendingRecord target rawContext jobId))
    (stored : store.jobs jobId = some (pendingRecord target rawContext jobId))
    (agree : StoresAgree jobId store) :
    (enqueueJob session target request jobId
      (pendingSnapshot jobId now rawContext.instantData)).Safe (custody jobId).protocol
      (fun _ now => StoresAgree jobId now) store := by
  apply Custody.safe_now
  intro enqueuedAt first reached
  apply Custody.safe_attempt
  intro reply second third outcome further _ called
  have sent : third.jobs jobId = some (pendingRecord target rawContext jobId) := by
    rw [(records_of_spares (written_of_exec called) trivial).1]
    exact (further.job.trans reached.job).trans stored
  cases reply with
  | ok value =>
      apply Custody.safe_pure
      intro final left
      apply agree_of_leaves left
      apply agree_of_spares (written_of_exec called) trivial
      exact agree_of_leaves (reached.trans further) agree
  | error error =>
      apply Custody.safe_updateJobStatus (sound .database (.inr rfl)) holds sent (.inr loaded)
      intro updated between fourth later written current _
      apply Custody.safe_now
      intro time fifth ended
      apply safe_setState
      intro final closed
      apply Custody.safe_raise
      intro shown left
      apply agree_of_leaves left
      have marked := (closed.job.trans ended.job).trans
        (written.job.trans (Function.update_self _ _ _))
      exact agree_putSnapshot rfl marked nofun rfl rfl

/-- From the row on a submission leaves stores that agree. -/
theorem safe_announceJob {target : ParsedRepoTarget} {rawContext : RepositoryRawContext}
    {store : Store} (request : ResearchRequest)
    (founded : store.Founded (pendingRecord target rawContext jobId))
    (fetched : (target, rawContext) ∈ store.fetched) :
    ((await (.refreshJob jobId)).bind fun refreshed =>
      announceJob (Session.empty.loadJob jobId refreshed) target request rawContext jobId).Safe
      (custody jobId).protocol (fun _ now => StoresAgree jobId now) store := by
  apply Custody.safe_database (sound .database (.inr rfl)) rfl
  intro first reply after supply reached answered
  have stored : first.jobs jobId = some (pendingRecord target rawContext jobId) :=
    reached.job.trans founded.job
  obtain ⟨rfl, rfl⟩ := answer_refreshJob stored answered
  refine ⟨_, rfl, ?_⟩
  apply Custody.safe_now
  intro time second further
  apply safe_setState
  intro third left
  have kept : third.jobs jobId = some (pendingRecord target rawContext jobId) :=
    (left.job.trans further.job).trans stored
  have agree : StoresAgree jobId
      (third.putSnapshot (pendingSnapshot jobId time rawContext.instantData)) :=
    agree_putSnapshot rfl kept nofun rfl rfl
  have present : (third.putSnapshot (pendingSnapshot jobId time rawContext.instantData)).jobs
      jobId = some (pendingRecord target rawContext jobId) := kept
  have known : (target, rawContext) ∈
      (third.putSnapshot (pendingSnapshot jobId time rawContext.instantData)).fetched :=
    left.fetched (further.fetched (reached.fetched fetched))
  generalize third.putSnapshot _ = announced at agree present known
  have loaded : (Session.empty.loadJob jobId (pendingRecord target rawContext jobId)).jobs jobId =
      some (pendingRecord target rawContext jobId) := Function.update_self _ _ _
  apply Custody.safe_await
  · intro cached fourth fifth outcome moved _ called
    have written := written_of_exec called
    have agree := agree_of_spares written trivial (agree_of_leaves moved agree)
    have stays : announced.Leaves jobId fifth :=
      moved.trans (.of_spares (written.spares nofun) written.grows)
    cases cached with
    | some cachedAi =>
        exact safe_completeFromCache cachedAi loaded rfl (stays.job.trans present)
          (stays.fetched known)
    | none => exact safe_enqueueJob request loaded (stays.job.trans present) agree
  · intro error fourth fifth outcome moved _ called
    apply Custody.safe_raise
    intro final closed
    apply agree_of_leaves closed
    exact agree_of_spares (written_of_exec called) trivial (agree_of_leaves moved agree)

/-! ## Runs -/

section

-- the programs are used through what was shown of them only
attribute [local irreducible] submitResearchJob executeResearchPipeline settle

/-- Every program leaves stores that agree. -/
theorem upheld (env : Environment) : tenancy.Upheld env where
  absent jobId store lacks := {
    snapshot := by
      intro row snapshot stored
      cases lacks.job.symm.trans stored
    report := by
      intro row stored
      cases lacks.job.symm.trans stored
  }
  registered target rawContext jobId store founded := by
    apply agree_unfinished founded.job nofun
    intro snapshot cached
    cases founded.snapshot.symm.trans cached
  founds context request := by
    apply Tenancy.founds_submit
    intro target rawContext jobId store founded fetched
    exact ⟨trivial, safe_announceJob request founded fetched⟩
  works history id message body store agree _ _ _ _ _ _ present := by
    refine ⟨trivial, ?_⟩
    have marked : StoresAgree body.jobId (store.putQueue (store.queue.markReceived id)) :=
      agree_of_same agree rfl rfl (.inl rfl) (List.Subset.refl _)
    obtain ⟨row, stored⟩ := Option.isSome_iff_exists.mp present
    apply (keeps_row (safe_executeResearchPipeline env body marked stored) present).weaken
    rintro outcome now - ⟨ended, present⟩
    exact ⟨trivial,
      safe_settle env.settings (message.delivery id body) outcome ended.agree present⟩
  refuses history id message body store agree _ _ _ _ _ :=
    agree_of_same agree rfl rfl (.inl rfl) (List.Subset.refl _)
  crashes stage history store mayCrash := by
    cases mayCrash

end

/-- Whenever nobody works on a job, its row, its snapshot and its report agree. -/
theorem stores_agree_at_rest (env : Environment) (dlqArn : String)
    (aiCache : String → Option CachedPayload) (actions : List Action) (service : Service)
    (ran : runWithin (Service.step env) undisturbed actions
      (Service.initial env.settings dlqArn aiCache) = some service) (jobId : JobId)
    (idle : ∀ task ∈ service.tasks, task.tenant ≠ some jobId) :
    StoresAgree jobId service.store := by
  have kept := (upheld env).run (runWithin_mono (allows_of_undisturbed env) ran)
  exact kept.leased.rests idle

/-- A job that is queued, delivered and completed without an analysis. -/
def completion : List Action :=
  Sample.submission ++ .deliver 0 ::
    Sample.calls 1 (Sample.unanalyzed (.llmUnavailable "down") ++ [.done (.flag true)])

theorem stores_agree_after_completion :
    ∃ service, runWithin (Service.step Sample.environment) undisturbed completion Sample.cold =
        some service ∧ (service.store.jobs "job-1").map (·.status) = some .completed ∧
      StoresAgree "job-1" service.store :=
  ⟨_, Sample.ran_after (by decide +kernel), by decide +kernel,
    stores_agree_at_rest _ _ _ _ _ (Sample.ran_after (by decide +kernel)) "job-1"
      (by decide +kernel)⟩

/-- Whenever nobody works on a job its stores tell one story. -/
theorem one_story_at_rest (env : Environment) (dlqArn : String)
    (aiCache : String → Option CachedPayload) (actions : List Action) (service : Service)
    (ran : runWithin (Service.step env) undisturbed actions
      (Service.initial env.settings dlqArn aiCache) = some service) (jobId : JobId)
    (idle : ∀ task ∈ service.tasks, task.tenant ≠ some jobId) :
    service.store.TellsOneStory jobId := by
  have kept := (upheld env).run (runWithin_mono (allows_of_undisturbed env) ran)
  have agree : StoresAgree jobId service.store := kept.leased.rests idle
  constructor
  · intro snapshot found
    cases stored : service.store.jobs jobId with
    | none =>
        have absent := (kept.rowless jobId stored).2
        cases absent.symm.trans found
    | some row => exact ⟨row, rfl, (agree.snapshot row snapshot stored found).1⟩
  · intro row stored completed
    obtain ⟨target, rawContext, report, fetched, saved, describes, -⟩ :=
      agree.report row stored completed
    exact ⟨target, rawContext, report, fetched, saved, describes.commitSha,
      describes.reportCommit.trans describes.commitSha.symm, describes.instantData,
      describes.deterministicData ▸ describes.instantData, describes.aiCacheKey⟩

/-- A first attempt that GitHub fails, and a second one that completes the job. -/
def secondAttempt : List Action :=
  Sample.submission ++ .deliver 0 ::
    Sample.calls 1 (Sample.fetched.take 6 ++ [.failed Sample.fault, .ok, .done (.flag true)]) ++
    .deliver 0 ::
      Sample.calls 2 (Sample.unanalyzed (.llmUnavailable "down") ++ [.done (.flag true)])

theorem one_story_after_second_attempt :
    ∃ service, runWithin (Service.step Sample.environment) undisturbed secondAttempt Sample.cold =
        some service ∧ (service.store.jobs "job-1").map (·.status) = some .completed ∧
      (service.store.snapshots "job-1").isSome ∧ service.store.TellsOneStory "job-1" :=
  ⟨_, Sample.ran_after (by decide +kernel), by decide +kernel, by decide +kernel,
    one_story_at_rest _ _ _ _ _ (Sample.ran_after (by decide +kernel)) "job-1"
      (by decide +kernel)⟩

end Agreement

end ResearchTool
