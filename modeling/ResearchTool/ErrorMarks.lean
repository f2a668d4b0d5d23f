import ResearchTool.Sessions

/-!
# Errors of failed jobs

A snapshot is written whole, with an error exactly if it is a failed one.  The
row is updated column by column, against the instance the session has loaded:
`error = None` is not written when the session never saw the error that another
one recorded.  As long as every session that updates a row still knows whether
the job has failed, the row keeps its error exactly while it is failed.
-/

namespace ResearchTool

open Process

/-- Rows and snapshots have an error exactly if they are failed. -/
structure ErrorsMarked (store : Store) : Prop where
  row : ∀ jobId row, store.jobs jobId = some row → (row.error.isSome ↔ row.status = .failed)
  snapshot : ∀ jobId snapshot, store.snapshots jobId = some snapshot →
    (snapshot.error.isSome ↔ snapshot.status = .failed)

/-- A job row is updated by a session that knows whether the job has failed:
the row is failed exactly if the instance is that the session loaded last. -/
def knowsFailure (_ : Role) (trace : Trace) (op : Op) (outcome : Outcome) (store : Store) : Bool :=
  match op with
  | .updateJob jobId _ =>
      !outcome.takesEffect || (store.jobs jobId).all fun row =>
        ((Trace.session trace).jobs jobId).all fun loaded =>
          (row.status == .failed) == (loaded.status == .failed)
  | _ => true

namespace ErrorMarks

/-! ## One update -/

/-- The row has an error exactly if it is failed. -/
def Marked (row : ResearchJobRecord) : Prop :=
  row.error.isSome ↔ row.status = .failed

/-- The assignments keep an instance marked. -/
inductive Marks (loaded : ResearchJobRecord) : JobChanges → Prop where
  | neither (changes : JobChanges) (status : changes.status = none)
    (error : changes.error = none) :
      Marks loaded changes
  | cleared (changes : JobChanges) (status : JobStatus) (other : status ≠ .failed)
      (assigned : changes.status = some status) (error : changes.error = some none) :
      Marks loaded changes
  | failed (changes : JobChanges) (message : String) (assigned : changes.status = some .failed)
      (error : changes.error = some (some message)) : Marks loaded changes
  | advanced (changes : JobChanges) (status : JobStatus) (other : status ≠ .failed)
      (assigned : changes.status = some status) (error : changes.error = none)
      (unfailed : loaded.status ≠ .failed) : Marks loaded changes

/-- An update by a session that knows whether the job has failed. -/
theorem marked_apply {row loaded : ResearchJobRecord} {changes : JobChanges}
    (current : Marked row) (known : Marked loaded)
    (agree : row.status = .failed ↔ loaded.status = .failed) (marks : Marks loaded changes) :
    Marked ((changes.against loaded).apply row) := by
  have error : row.error.isSome ↔ loaded.error.isSome := current.trans (agree.trans known.symm)
  unfold Marked at *
  simp only [JobChanges.apply, JobChanges.against]
  cases marks with
  | neither status unassigned =>
      rw [status, unassigned, changedFrom_none, changedFrom_none]
      exact current
  | cleared status other assigned unset =>
      rw [assigned, unset]
      by_cases failed : loaded.status = .failed
      · obtain ⟨message, recorded⟩ := Option.isSome_iff_exists.mp (known.mpr failed)
        have changed : (none : Option String) ≠ loaded.error := by simp [recorded]
        rw [changedFrom_ne changed, changedFrom_ne (failed ▸ other)]
        simp [other]
      · have clean : loaded.error = none := by simpa [failed] using known
        have unfailed : row.status ≠ .failed := fun same => failed (agree.mp same)
        have absent : row.error = none := by simpa [clean] using error
        rw [clean, changedFrom_self, absent]
        by_cases same : status = loaded.status
        · rw [same, changedFrom_self]
          simp [unfailed]
        · rw [changedFrom_ne same]
          simp [other]
  | failed message assigned recorded =>
      rw [assigned, recorded]
      by_cases failed : loaded.status = .failed
      · rw [failed, changedFrom_self]
        have also := agree.mpr failed
        by_cases same : some message = loaded.error
        · rw [← same, changedFrom_self]
          exact current
        · rw [changedFrom_ne same]
          simp [also]
      · have clean : loaded.error = none := by simpa [failed] using known
        have changed : some message ≠ loaded.error := by simp [clean]
        rw [changedFrom_ne (Ne.symm failed), changedFrom_ne changed]
        simp
  | advanced status other assigned unassigned unfailed =>
      rw [assigned, unassigned, changedFrom_none]
      have clean : loaded.error = none := by simpa [unfailed] using known
      have quiet : row.status ≠ .failed := fun same => unfailed (agree.mp same)
      have absent : row.error = none := by simpa [clean] using error
      by_cases same : status = loaded.status
      · rw [same, changedFrom_self]
        exact current
      · rw [changedFrom_ne same, absent]
        simp [other]

/-! ## The terms -/

/-- No message about the job has been sent. -/
def Unsent (jobId : JobId) (store : Store) : Prop :=
  ∀ id, store.queue.jobAt id ≠ some jobId

/-- Updates are made by sessions that know whether the job has failed.  A
submission has the row to itself until it has sent the message. -/
def terms : Terms where
  invariant := ErrorsMarked
  rely
    | .submitter, trace, before, after => ∀ jobId, Trace.registered trace = some jobId →
        Unsent jobId before → after.jobs jobId = before.jobs jobId ∧ Unsent jobId after
    | _, _, _, _ => True
  allows role trace op outcome store := knowsFailure role trace op outcome store = true ∧
    ∀ id jobId, store.queue.jobAt id = some jobId → (store.jobs jobId).isSome
  guarantee _ _ _ := True
  answers _ _ := True
  rely_refl role _ _ := by
    cases role with
    | submitter => exact fun _ _ unsent => ⟨rfl, unsent⟩
    | _ => trivial
  rely_trans {role} _ _ _ _ earlier later := by
    cases role with
    | submitter =>
        intro jobId registered unsent
        obtain ⟨kept, still⟩ := earlier jobId registered unsent
        obtain ⟨further, last⟩ := later jobId registered still
        exact ⟨further.trans kept, last⟩
    | _ => trivial

/-- What the operation writes is marked, whatever is stored. -/
def Op.IsMarked : Op → Prop
  | .setState snapshot => snapshot.error.isSome ↔ snapshot.status = .failed
  | .insertJob record => record.error.isSome ↔ record.status = .failed
  | .updateJob _ _ => False
  | _ => True

theorem marked_of_written {op : Op} {store after : Store} (written : Written store op after)
    (marked : Op.IsMarked op) (stored : ErrorsMarked store) : ErrorsMarked after := by
  cases written with
  | snapshot snapshot =>
      refine ⟨stored.row, fun jobId found same => ?_⟩
      rcases update_eq_some same with ⟨-, new⟩ | ⟨-, old⟩
      · cases new
        exact marked
      · exact stored.snapshot jobId found old
  | inserted record absent =>
      refine ⟨fun jobId found same => ?_, stored.snapshot⟩
      rcases update_eq_some same with ⟨-, new⟩ | ⟨-, old⟩
      · cases new
        exact marked
      · exact stored.row jobId found old
  | updated => cases marked
  | _ => exact ⟨stored.row, stored.snapshot⟩

/-- An operation that writes what is marked, and keeps a fact. -/
theorem preserves_of_marked {role : Role} {fact : Store → Trace → Prop} {op : Op}
    (marked : Op.IsMarked op)
    (keeps : ∀ trace before reply after, Written before op after → fact before trace →
      fact after (trace ++ [⟨op, reply⟩])) : terms.Preserves role fact op := by
  intro trace before outcome reply after stored holds _ called
  have written := written_of_exec called
  exact ⟨marked_of_written written marked stored, trivial,
    keeps trace before reply after written holds⟩

theorem harmless_of_marked {role : Role} {op : Op} (marked : Op.IsMarked op) :
    terms.Harmless role op :=
  preserves_of_marked marked fun _ _ _ _ _ _ => trivial

/-! ## Updates -/

/-- The session is the one that follows from the calls, and knows of every
instance whether it has failed. -/
structure Knows (session : Session) (jobId : JobId) (trace : Trace) : Prop where
  loaded : (Trace.session trace).jobs jobId = session.jobs jobId
  marked : ∀ row, session.jobs jobId = some row → Marked row

theorem knows_empty {jobId : JobId} {trace : Trace} (closed : Trace.session trace = .empty) :
    Knows .empty jobId trace where
  loaded := by rw [closed]
  marked _ found := by cases found

theorem Knows.of_jobs {session other : Session} {jobId : JobId} {trace : Trace}
    (knows : Knows session jobId trace) (same : other.jobs = session.jobs) :
    Knows other jobId trace where
  loaded := same ▸ knows.loaded
  marked := same ▸ knows.marked

/-- What the session is told by a call that loads no job row. -/
theorem Knows.append {session : Session} {jobId : JobId} {trace : Trace}
    (knows : Knows session jobId trace) {op : Op} (reply : Except Exn op.Reply)
    (leaves : op.LeavesJobs) : Knows session jobId (trace ++ [⟨op, reply⟩]) where
  loaded := by
    rw [Trace.session_append, Session.see_jobs _ reply leaves]
    exact knows.loaded
  marked := knows.marked

/-- The update of a session that knows whether the job has failed. -/
theorem updated_of_knows {role : Role} {trace : Trace} {jobId : JobId} {changes : JobChanges}
    {loaded : ResearchJobRecord} {outcome : Outcome} {store after : Store}
    {reply : Except Exn Unit} (stored : ErrorsMarked store) (marked : Marked loaded)
    (marks : Marks loaded changes) (instance' : (Trace.session trace).jobs jobId = some loaded)
    (allowed : terms.allows role trace (.updateJob jobId (changes.against loaded)) outcome store)
    (called : exec (.updateJob jobId (changes.against loaded)) outcome store =
      some (reply, after)) : ErrorsMarked after := by
  by_cases effect : outcome.takesEffect = true
  · cases written_of_exec called with
    | unchanged => exact stored
    | updated _ _ row present =>
        have agree : row.status = .failed ↔ loaded.status = .failed := by
          have same : (row.status == .failed) = (loaded.status == .failed) := by
            simpa [knowsFailure, effect, present, instance'] using allowed.1
          simpa using congrArg (· = true) same
        refine ⟨fun id found same => ?_, stored.snapshot⟩
        rcases update_eq_some same with ⟨-, new⟩ | ⟨-, old⟩
        · cases new
          exact marked_apply (stored.row jobId row present) marked agree marks
        · exact stored.row id found old
  · rw [eq_of_not_takesEffect called (Bool.eq_false_iff.mpr effect)]
    exact stored

section

variable {role : Role} {α : Type} {post : Except Exn α → Store × Trace → Prop}

/-- `update_job_status` keeps the rows marked. -/
theorem safe_updateJobStatus {session : Session} {jobId : JobId} {changes : JobChanges}
    {next : Session → Coroutine α} {store : Store} {trace : Trace} (fact : Store → Trace → Prop)
    (stable : terms.Stable role fact) (holds : fact store trace)
    (knows : Knows session jobId trace)
    (marks : ∀ now loaded alive, fact now trace →
      identify (session.jobs jobId) ⟨now.jobs jobId, alive⟩ = some loaded → Marks loaded changes)
    (ends : ∀ error now, post (.error error) now)
    (rest : ∀ updated now seen, ErrorsMarked now → Knows updated jobId seen →
      (next updated).Safe (terms.protocol role) post (now, seen)) :
    ((updateJobStatus session jobId changes).bind next).Safe (terms.protocol role) post
      (store, trace) := by
  have closes : ∀ {error : Exn} {state : Store × Trace},
      (Program.raise error : Coroutine α).Safe (terms.protocol role) post state :=
    Program.safe_raise.mpr fun now _ _ => ends _ now
  rw [updateJobStatus_eq, Program.bind_assoc]
  apply Terms.safe_await
  · intro now reply after outcome stored _ allowed called
    exact ⟨marked_of_written (written_of_exec called) trivial stored, trivial⟩
  · intro selected now after outcome stored reached _ called _
    obtain ⟨row, rfl⟩ := selectJob_ok called
    cases found : identify (session.jobs jobId) selected with
    | none =>
        apply rest session after _ stored
        constructor
        · rw [Trace.session_append, Session.see, knows.loaded, found]
          exact knows.loaded
        · exact knows.marked
    | some loaded =>
        have marked : Marked loaded := by
          rcases selected with ⟨selected, alive⟩
          obtain ⟨current, present, same⟩ := Option.map_eq_some_iff.mp found
          have currentMarked := stored.row jobId current (row.symm.trans present)
          cases alive with
          | false => exact same ▸ currentMarked
          | true =>
              cases held : session.jobs jobId with
              | none =>
                  rw [held] at same
                  exact same ▸ currentMarked
              | some instance' =>
                  rw [held] at same
                  exact same ▸ knows.marked instance' held
        have seen := Session.see_selectJob (Trace.session trace) (knows.loaded.symm ▸ found)
        have marks := marks after loaded selected.alive (stable _ _ _ reached holds) (by
          rw [← row]
          exact found)
        simp only [Program.bind_assoc]
        apply Terms.safe_await
        · intro now reply written outcome stored _ allowed called
          refine ⟨updated_of_knows stored marked marks ?_ allowed called, trivial⟩
          rw [Trace.session_append, seen]
          exact Function.update_self _ _ _
        · intro _ now written outcome _ _ _ _ _
          apply Terms.safe_await
          · intro now reply refreshed outcome stored _ _ called
            exact ⟨marked_of_written (written_of_exec called) trivial stored, trivial⟩
          · intro refreshed now later outcome stored _ _ called _
            obtain ⟨present, rfl⟩ := refreshJob_ok called
            apply rest _ later _ stored
            constructor
            · rw [Trace.session_append]
              have reread : (session.loadJob jobId refreshed).jobs jobId = some refreshed :=
                Function.update_self _ _ _
              exact (Function.update_self _ _ _).trans reread.symm
            · intro row found
              have reread : (session.loadJob jobId refreshed).jobs jobId = some refreshed :=
                Function.update_self _ _ _
              cases reread.symm.trans found
              exact stored.row jobId _ present
          · intros
            exact closes
        · intros
          exact closes
  · intros
    exact closes

/-- `update_job_status` with assignments that fit any instance. -/
theorem safe_assign {session : Session} {jobId : JobId} {changes : JobChanges}
    {next : Session → Coroutine α} {store : Store} {trace : Trace}
    (knows : Knows session jobId trace) (marks : ∀ loaded, Marks loaded changes)
    (ends : ∀ error now, post (.error error) now)
    (rest : ∀ updated now seen, ErrorsMarked now → Knows updated jobId seen →
      (next updated).Safe (terms.protocol role) post (now, seen)) :
    ((updateJobStatus session jobId changes).bind next).Safe (terms.protocol role) post
      (store, trace) :=
  safe_updateJobStatus (fun _ _ => True) (fun _ _ _ _ _ => trivial) trivial knows
    (fun _ loaded _ _ _ => marks loaded) ends rest

/-- One call that loads no job row and updates none. -/
theorem safe_quiet (op : Op) {next : op.Reply → Coroutine α} {session : Session} {jobId : JobId}
    {store : Store} {trace : Trace} (marked : Op.IsMarked op) (leaves : op.LeavesJobs)
    (knows : Knows session jobId trace) (ends : ∀ error now, post (.error error) now)
    (rest : ∀ value now seen, ErrorsMarked now → Knows session jobId seen →
      (next value).Safe (terms.protocol role) post (now, seen)) :
    ((await op).bind next).Safe (terms.protocol role) post (store, trace) := by
  apply Terms.safe_preserved fun _ seen => Knows session jobId seen
  · exact preserves_of_marked marked fun _ _ reply _ _ held => held.append reply leaves
  · exact fun _ _ _ _ held => held
  · exact knows
  · exact fun error now seen _ => ends error (now, seen)
  · intro value now after outcome stored _ _ _ held
    exact rest value after _ stored held

/-- The calls that load no job row and update none. -/
def Op.IsQuiet (op : Op) : Prop :=
  Op.IsMarked op ∧ op.LeavesJobs

/-- A program of such calls, and then another. -/
theorem safe_quietly {β : Type} {program : Coroutine β} {next : β → Coroutine α}
    {given : β → Prop} {session : Session} {jobId : JobId} {store : Store} {trace : Trace}
    (uses : program.Uses Op.IsQuiet) (returns : program.Returns given)
    (stored : ErrorsMarked store) (knows : Knows session jobId trace)
    (ends : ∀ error now, post (.error error) now)
    (rest : ∀ value now seen, ErrorsMarked now → Knows session jobId seen → given value →
      (next value).Safe (terms.protocol role) post (now, seen)) :
    (program.bind next).Safe (terms.protocol role) post (store, trace) := by
  apply Terms.safe_bind_of_preserves (fun _ seen => Knows session jobId seen) _ returns
  · exact fun _ _ _ _ held => held
  · exact stored
  · exact knows
  · exact fun error now seen _ => ends error (now, seen)
  · exact rest
  · apply uses.mono
    rintro op ⟨marked, leaves⟩
    exact preserves_of_marked marked fun _ _ reply _ _ held => held.append reply leaves

end

/-! ## The programs -/

section

variable {role : Role} {jobId : JobId} {store : Store} {trace : Trace}

theorem quiet_analysisStage (env : Environment) (rawContext : RepositoryRawContext)
    (cacheKey : String) :
    (analysisStage env jobId rawContext cacheKey).Uses Op.IsQuiet := by
  apply (uses_analysisStage env jobId rawContext cacheKey).mono
  intro op analysis
  cases op with
  | setState snapshot =>
      have written := analysis.1
      exact ⟨iff_of_false (by simp [written.error]) written.unfailed, trivial⟩
  | now | getCachedAiResult | setCachedAiResult | analyze => exact ⟨trivial, trivial⟩
  | _ => cases analysis

theorem quiet_saveFinalReport (session : Session) (content : ReportContent) :
    (saveFinalReport session jobId content).Uses Op.IsQuiet :=
  uses_saveFinalReport _ _ _ ⟨trivial, trivial⟩ ⟨trivial, trivial⟩ (fun _ => ⟨trivial, trivial⟩)
    (fun _ => ⟨trivial, trivial⟩) ⟨trivial, trivial⟩

theorem safe_completionStage {session : Session} (rawContext : RepositoryRawContext)
    (cacheKey : String) (analysis : Analysis) (knows : Knows session jobId trace) :
    (completionStage session jobId rawContext cacheKey analysis).Safe (terms.protocol role)
      (fun _ _ => True) (store, trace) := by
  apply safe_quiet .now trivial trivial knows fun _ _ => trivial
  intro createdAt now seen stored knows
  apply safe_quietly (quiet_saveFinalReport _ _) (returns_saveFinalReport _ _ _) stored knows
    fun _ _ => trivial
  intro saved now seen stored knows same
  apply safe_assign (knows.of_jobs same) _ fun _ _ => trivial
  · intro updated now seen stored _
    apply Terms.safe_of_uses _ fun _ _ => trivial
    apply Program.Uses.perform_bind
    · apply harmless_of_marked
      trivial
    intro time
    apply Program.Uses.perform
    apply harmless_of_marked
    exact iff_of_false nofun nofun
  · intro loaded
    exact .cleared _ .completed nofun rfl rfl

theorem safe_pipelineSession (env : Environment) (target : ParsedRepoTarget)
    (knows : Knows .empty jobId trace) :
    (pipelineSession env jobId target .empty).Safe (terms.protocol role) (fun _ _ => True)
      (store, trace) := by
  apply safe_assign knows _ fun _ _ => trivial
  · intro started now seen stored knows
    apply safe_quiet (.fetchRepositoryContext target) trivial trivial knows
      fun _ _ => trivial
    intro rawContext now seen stored knows
    apply safe_quiet .now trivial trivial knows fun _ _ => trivial
    intro time now seen stored knows
    apply safe_quiet (.setState _) _ trivial knows fun _ _ => trivial
    · intro _ now seen stored knows
      apply safe_assign knows _ fun _ _ => trivial
      · intro prepared now seen stored knows
        apply safe_quietly (quiet_analysisStage env rawContext _)
          (Program.returns_of_forall _ (fun _ => True) fun _ => trivial) stored knows
          fun _ _ => trivial
        intro analysis now seen stored knows _
        exact safe_completionStage rawContext _ analysis knows
      · intro loaded
        exact .neither _ rfl rfl
    · exact iff_of_false nofun nofun
  · intro loaded
    exact .cleared _ .processing nofun rfl rfl

/-- A call of a task that has no session. -/
theorem safe_unloaded {α : Type} (op : Op) {next : op.Reply → Coroutine α}
    (marked : Op.IsMarked op)
    (jobs : op.LeavesJobs) (reports : op.LeavesReports) (closed : Trace.session trace = .empty)
    (rest : ∀ value now seen, ErrorsMarked now → Trace.session seen = .empty →
      (next value).Safe (terms.protocol role) (fun _ now => Trace.session now.2 = .empty)
        (now, seen)) :
    ((await op).bind next).Safe (terms.protocol role) (fun _ now => Trace.session now.2 = .empty)
      (store, trace) := by
  apply Terms.safe_preserved fun _ seen => Trace.session seen = .empty
  · apply preserves_of_marked marked
    intro seen before reply after _ closed
    rw [Trace.session_append, closed]
    exact Session.see_empty reply jobs reports
  · exact fun _ _ _ _ held => held
  · exact closed
  · exact fun _ _ _ held => held
  · intro value now after outcome stored _ _ _ held
    exact rest value after _ stored held

/-- A pipeline, and the session that is closed after it. -/
theorem safe_executeResearchPipeline (env : Environment) (message : ResearchJobMessage) :
    (executeResearchPipeline env message).Safe (terms.protocol role)
      (fun _ now => Trace.session now.2 = .empty) (store, []) := by
  unfold executeResearchPipeline
  cases parseGithubRepositoryUrl env.urlLibrary message.repoUrl with
  | error error =>
      apply Program.safe_raise.mpr
      rintro ⟨now, seen⟩ _ ⟨same, -⟩
      exact congrArg Trace.session same
  | ok target =>
      apply safe_unloaded (.getState message.jobId) trivial trivial trivial rfl
      intro existing now seen stored closed
      apply safe_unloaded .now trivial trivial trivial closed
      intro time now seen stored closed
      apply safe_unloaded (.setState _) _ trivial trivial closed
      · intro _ now seen stored closed
        apply Terms.safe_withSession stored
        · apply harmless_of_marked
          trivial
        · exact safe_pipelineSession env target (knows_empty closed)
      · exact iff_of_false nofun nofun

/-- The failure branch of the worker. -/
theorem safe_markFailed (error : Exn) (stored : ErrorsMarked store)
    (closed : Trace.session trace = .empty) :
    (markFailed jobId error).Safe (terms.protocol role) (fun _ _ => True) (store, trace) := by
  have session : (withSession fun session =>
      updateJobStatus session jobId {
        status := some .failed
        progressMsg := some retriesExhausted
        error := some (some error.str)
      }).Safe (terms.protocol role) (fun _ now => Trace.session now.2 = .empty)
        (store, trace) := by
    apply Terms.safe_withSession stored
    · apply harmless_of_marked
      trivial
    · rw [← Program.bind_pure (updateJobStatus _ _ _)]
      apply safe_assign (knows_empty closed) _ fun _ _ => trivial
      · intro updated now seen stored knows
        exact Program.safe_pure.mpr fun _ _ _ => trivial
      · intro loaded
        exact .failed _ error.str rfl rfl
  apply session.bind stored
  · intro updated now stored _
    apply Terms.safe_of_uses _ fun _ _ => trivial
    apply Program.Uses.perform_bind
    · apply harmless_of_marked
      trivial
    intro time
    apply Program.Uses.perform
    apply harmless_of_marked
    exact iff_of_true rfl rfl
  · exact fun _ _ _ _ => trivial

theorem safe_settle (settings : Settings) (received : ReceivedMessage)
    (outcome : Except Exn Unit) (stored : ErrorsMarked store)
    (closed : Trace.session trace = .empty) :
    (settle settings received outcome).Safe (terms.protocol role) (fun _ _ => True)
      (store, trace) := by
  have last : ∀ (op : Op) {state : Store × Trace}, Op.IsMarked op →
      (await op).Safe (terms.protocol role) (fun _ _ => True) state := by
    intro op state marked
    apply Terms.safe_of_uses _ fun _ _ => trivial
    exact Program.Uses.perform (harmless_of_marked marked)
  cases outcome with
  | ok value => exact last (.delete _) trivial
  | error error =>
      by_cases exhausted : settings.maxQueueAttempts ≤ received.receiveCount
      · rw [settle_exhausted exhausted]
        apply (safe_markFailed error stored closed).bind stored
        · intro _ now _ _
          exact last (.changeVisibility _ _) trivial
        · exact fun _ _ _ _ => trivial
      · rw [settle_retry exhausted]
        exact last (.changeVisibility _ _) trivial

theorem safe_handleReceived (env : Environment) (received : ReceivedMessage)
    (stored : ErrorsMarked store) :
    (handleReceived env received).Safe (terms.protocol role) (fun _ _ => True) (store, []) := by
  have attempted : (executeResearchPipeline env received.body).attempt.Safe
      (terms.protocol role) (fun _ now => Trace.session now.2 = .empty) (store, []) :=
    Program.Safe.attempt (safe_executeResearchPipeline env received.body)
  rw [handleReceived_eq]
  apply attempted.bind stored
  · rintro outcome ⟨now, seen⟩ stored closed
    exact safe_settle env.settings received outcome stored closed
  · exact fun _ _ _ _ => trivial

end

/-! ## Submissions -/

/-- The submission has created the row of its job and not sent the message: the
job has not failed, and nobody else works on it. -/
structure Unannounced (session : Session) (jobId : JobId) (store : Store) (trace : Trace) :
    Prop where
  knows : Knows session jobId trace
  registered : Trace.registered trace = some jobId
  unsent : Unsent jobId store
  loaded : ∀ row, session.jobs jobId = some row → row.status ≠ .failed
  stored : ∀ row, store.jobs jobId = some row → row.status ≠ .failed

/-- Whatever instance a `SELECT` gives the session, it has not failed. -/
theorem Unannounced.unfailed {session : Session} {jobId : JobId} {store : Store} {trace : Trace}
    (unannounced : Unannounced session jobId store trace) {alive : Bool}
    {loaded : ResearchJobRecord}
    (found : identify (session.jobs jobId) ⟨store.jobs jobId, alive⟩ = some loaded) :
    loaded.status ≠ .failed := by
  obtain ⟨row, present, same⟩ := Option.map_eq_some_iff.mp found
  cases held : session.jobs jobId with
  | none =>
      rw [held, Option.getD_none, ite_self] at same
      exact same ▸ unannounced.stored row present
  | some known =>
      rw [held, Option.getD_some] at same
      cases alive with
      | true => exact same ▸ unannounced.loaded known held
      | false => exact same ▸ unannounced.stored row present

theorem stable_unannounced (session : Session) (jobId : JobId) :
    terms.Stable .submitter (Unannounced session jobId) := by
  intro trace before after relied unannounced
  obtain ⟨same, unsent⟩ := relied jobId unannounced.registered unannounced.unsent
  exact { unannounced with unsent, stored := same ▸ unannounced.stored }

theorem preserves_unannounced {session : Session} {jobId : JobId} {op : Op} (quiet : Op.IsQuiet op)
    (spares : op.SparesRows) : terms.Preserves .submitter (Unannounced session jobId) op := by
  obtain ⟨marked, leaves⟩ := quiet
  apply preserves_of_marked marked
  intro trace before reply after written unannounced
  obtain ⟨jobs, queue⟩ := written.sparesRows spares
  constructor
  · exact unannounced.knows.append reply leaves
  · rw [Trace.registered_append, unannounced.registered]
    rfl
  · intro id
    rw [queue]
    exact unannounced.unsent id
  · exact unannounced.loaded
  · rw [jobs]
    exact unannounced.stored

section

variable {session : Session} {jobId : JobId} {store : Store} {trace : Trace}

/-- One call before the message is sent. -/
theorem safe_unannounced {α : Type} (op : Op) {next : op.Reply → Coroutine α}
    (quiet : Op.IsQuiet op) (spares : op.SparesRows)
    (unannounced : Unannounced session jobId store trace)
    (rest : ∀ value now seen, ErrorsMarked now → Unannounced session jobId now seen →
      (next value).Safe (terms.protocol .submitter) (fun _ _ => True) (now, seen)) :
    ((await op).bind next).Safe (terms.protocol .submitter) (fun _ _ => True) (store, trace) := by
  apply Terms.safe_preserved _ (preserves_unannounced quiet spares)
    (stable_unannounced session jobId)
    unannounced fun _ _ _ _ => trivial
  intro value now after outcome stored _ _ _ held
  exact rest value after _ stored held

theorem safe_completeFromCache (rawContext : RepositoryRawContext)
    (snapshot : ResearchJobStateSnapshot) (cachedAi : StructuredAIResponse)
    (unfailed : snapshot.error = none) (unannounced : Unannounced session jobId store trace) :
    (completeFromCache session jobId rawContext snapshot cachedAi).Safe (terms.protocol .submitter)
      (fun _ _ => True) (store, trace) := by
  apply safe_unannounced .now ⟨trivial, trivial⟩ trivial unannounced
  intro createdAt now seen stored unannounced
  apply Terms.safe_bind_of_preserves _ _ (returns_saveFinalReport _ _ _)
    (stable_unannounced session jobId) stored unannounced fun _ _ _ _ => trivial
  · intro saved now seen stored unannounced same
    apply safe_updateJobStatus _ (stable_unannounced session jobId) unannounced
      (unannounced.knows.of_jobs same) _ fun _ _ => trivial
    · intro updated now seen stored _
      apply Terms.safe_of_uses _ fun _ _ => trivial
      apply Program.Uses.perform_bind
      · apply harmless_of_marked
        trivial
      intro time
      apply Program.Uses.perform_bind
      · apply harmless_of_marked
        exact iff_of_false (by simp [unfailed]) nofun
      intro _
      exact Program.uses_pure _
    · intro now loaded alive unannounced found
      apply Marks.advanced _ .completed nofun rfl rfl
      rw [same] at found
      exact unannounced.unfailed found
  · exact uses_saveFinalReport _ _ _ (preserves_unannounced ⟨trivial, trivial⟩ trivial)
      (preserves_unannounced ⟨trivial, trivial⟩ trivial)
      (fun _ => preserves_unannounced ⟨trivial, trivial⟩ trivial)
      (fun _ => preserves_unannounced ⟨trivial, trivial⟩ trivial)
      (preserves_unannounced ⟨trivial, trivial⟩ trivial)

theorem safe_enqueueFailed (snapshot : ResearchJobStateSnapshot) (error : Exn)
    (knows : Knows session jobId trace) :
    (enqueueFailed session jobId snapshot error).Safe (terms.protocol .submitter)
      (fun _ _ => True) (store, trace) := by
  apply safe_assign knows _ fun _ _ => trivial
  · intro updated now seen stored _
    apply Terms.safe_of_uses _ fun _ _ => trivial
    apply Program.Uses.perform_bind
    · apply harmless_of_marked
      trivial
    intro time
    apply Program.Uses.perform_bind
    · apply harmless_of_marked
      exact iff_of_true rfl rfl
    intro _
    exact Program.uses_raise _
  · intro loaded
    exact .failed _ error.str rfl rfl

theorem safe_enqueueJob (target : ParsedRepoTarget) (request : ResearchRequest)
    (snapshot : ResearchJobStateSnapshot) (unannounced : Unannounced session jobId store trace) :
    (enqueueJob session target request jobId snapshot).Safe (terms.protocol .submitter)
      (fun _ _ => True) (store, trace) := by
  apply safe_unannounced .now ⟨trivial, trivial⟩ trivial unannounced
  intro enqueuedAt now seen stored unannounced
  apply Program.safe_call.mpr
  rintro ⟨before, _⟩ reply ⟨after, _⟩ stored ⟨rfl, -⟩ ⟨rfl, outcome, -, called⟩
  refine ⟨marked_of_written (written_of_exec called) trivial stored, trivial, ?_⟩
  cases reply with
  | ok value => exact Program.safe_pure.mpr fun _ _ _ => trivial
  | error error => exact safe_enqueueFailed snapshot error (unannounced.knows.append _ trivial)

theorem safe_announceJob (target : ParsedRepoTarget) (request : ResearchRequest)
    (rawContext : RepositoryRawContext) (unannounced : Unannounced session jobId store trace) :
    (announceJob session target request rawContext jobId).Safe (terms.protocol .submitter)
      (fun _ _ => True) (store, trace) := by
  apply safe_unannounced .now ⟨trivial, trivial⟩ trivial unannounced
  intro time now seen stored unannounced
  apply safe_unannounced (.setState _) _ trivial unannounced
  · intro _ now seen stored unannounced
    apply safe_unannounced (.getCachedAiResult _) ⟨trivial, trivial⟩ trivial unannounced
    intro cached now seen stored unannounced
    cases cached with
    | some cachedAi => exact safe_completeFromCache _ _ _ rfl unannounced
    | none => exact safe_enqueueJob _ _ _ unannounced
  · exact ⟨iff_of_false nofun nofun, trivial⟩

/-- A submission that has made no call about a job yet. -/
structure Idle (trace : Trace) : Prop where
  session : Trace.session trace = .empty
  registered : Trace.registered trace = none

theorem safe_createJobRecord {α : Type} {target : ParsedRepoTarget}
    {rawContext : RepositoryRawContext} {next : Session → Coroutine α} (idle : Idle trace)
    (rest : ∀ session now seen, ErrorsMarked now → Unannounced session jobId now seen →
      (next session).Safe (terms.protocol .submitter) (fun _ _ => True) (now, seen)) :
    ((createJobRecord .empty (pendingRecord target rawContext jobId)).bind next).Safe
      (terms.protocol .submitter) (fun _ _ => True) (store, trace) := by
  have ends : ∀ {error : Exn} {state : Store × Trace}, (Program.raise error : Coroutine α).Safe
      (terms.protocol .submitter) (fun _ _ => True) state :=
    Program.safe_raise.mpr fun _ _ _ => trivial
  rw [createJobRecord_bind]
  apply Terms.safe_await
  · intro now reply after outcome stored _ _ called
    exact ⟨marked_of_written (written_of_exec called) (iff_of_false nofun nofun) stored, trivial⟩
  · intro _ now after outcome _ _ allowed called _
    obtain ⟨absent, rfl⟩ := insertJob_ok called
    -- nobody has sent a message about a job without a row
    have unsent : Unsent jobId now := by
      intro id about
      have present := allowed.2 id jobId about
      rw [show now.jobs jobId = none from absent] at present
      cases present
    have unfailed : ∀ row, (now.putJob jobId (pendingRecord target rawContext jobId)).jobs jobId =
        some row → row.status ≠ .failed := by
      intro row found
      cases (Function.update_self _ _ _).symm.trans found
      nofun
    have begun : Unannounced .empty jobId
        (now.putJob jobId (pendingRecord target rawContext jobId))
        (trace ++ [⟨.insertJob (pendingRecord target rawContext jobId), .ok ()⟩]) := by
      constructor
      · exact (knows_empty idle.session).append _ trivial
      · rw [Trace.registered_append, idle.registered]
        rfl
      · exact unsent
      · intro row found
        cases found
      · exact unfailed
    apply Terms.safe_await
    · intro now reply after outcome stored _ _ called
      exact ⟨marked_of_written (written_of_exec called) trivial stored, trivial⟩
    · intro refreshed later read outcome stored reached _ called _
      have held := stable_unannounced .empty jobId _ _ _ reached begun
      obtain ⟨present, rfl⟩ := refreshJob_ok called
      have reread : (Session.empty.loadJob jobId refreshed).jobs jobId = some refreshed :=
        Function.update_self _ _ _
      apply rest _ read _ stored
      constructor
      · constructor
        · rw [Trace.session_append]
          exact (Function.update_self _ _ _).trans reread.symm
        · intro row found
          cases reread.symm.trans found
          exact stored.row jobId _ present
      · rw [Trace.registered_append, held.registered]
        rfl
      · exact held.unsent
      · intro row found
        cases reread.symm.trans found
        exact held.stored _ present
      · exact held.stored
    · intros
      exact ends
  · intros
    exact ends

/-- One call before the submission has a row. -/
theorem safe_idle {α : Type} (op : Op) {next : op.Reply → Coroutine α} (marked : Op.IsMarked op)
    (jobs : op.LeavesJobs) (reports : op.LeavesReports)
    (foreign : ∀ reply, Task.registered op reply = none) (idle : Idle trace)
    (rest : ∀ value now seen, Idle seen →
      (next value).Safe (terms.protocol .submitter) (fun _ _ => True) (now, seen)) :
    ((await op).bind next).Safe (terms.protocol .submitter) (fun _ _ => True) (store, trace) := by
  apply Terms.safe_preserved (fun _ seen => Idle seen) _ (fun _ _ _ _ held => held) idle
    fun _ _ _ _ => trivial
  · intro value now after outcome _ _ _ _ held
    exact rest value after _ held
  · apply preserves_of_marked marked
    intro seen before reply after _ idle
    constructor
    · rw [Trace.session_append, idle.session]
      exact Session.see_empty reply jobs reports
    · rw [Trace.registered_append, idle.registered, foreign]
      rfl

theorem safe_submit (env : Environment) (request : ResearchRequest) (idle : Idle trace) :
    (submit env request).Safe (terms.protocol .submitter) (fun _ _ => True) (store, trace) := by
  unfold submit
  cases parseGithubRepositoryUrl env.urlLibrary request.url with
  | error error => exact Program.safe_raise.mpr fun _ _ _ => trivial
  | ok target =>
      apply safe_idle (.fetchRepositoryContext target) trivial trivial trivial
        (fun _ => rfl) idle
      intro rawContext now seen idle
      apply safe_idle .uuid4 trivial trivial trivial (fun _ => rfl) idle
      intro jobId now seen idle
      apply safe_createJobRecord idle
      intro session now seen stored unannounced
      exact safe_announceJob target request rawContext unannounced

theorem safe_submitResearchJob (env : Environment) (context : RequestContext)
    (request : ResearchRequest) (stored : ErrorsMarked store) :
    (submitResearchJob env context request).Safe (terms.protocol .submitter) (fun result _ =>
      ∀ answer, result = .ok answer → terms.answers .submitter answer) (store, []) := by
  have idle : Idle [] := ⟨rfl, rfl⟩
  have returned : (submit env request).Safe (terms.protocol .submitter)
      (fun result _ => ∀ value, result = .ok value → True) (store, []) :=
    (safe_submit env request idle).weaken fun _ _ _ _ _ _ => trivial
  apply (Terms.safe_answering stored returned).weaken
  intros
  trivial

end

/-! ## Runs -/

/-- Until it has sent the message, nobody but the submission works on its job. -/
theorem unsent_kept {service : Service} {journal : Journal} {index other : Nat} {task : Task}
    {op : Op} {outcome : Outcome} {reply : Except Exn op.Reply} {after : Store}
    {job : Option JobId} {program : Coroutine Answer} {jobId : JobId}
    (works : service.Scoped) (recorded : service.Recorded journal)
    (found : service.tasks[index]? = some task) (pending : task.pending = some op)
    (called : exec op outcome service.store = some (reply, after)) (different : other ≠ index)
    (beside : service.tasks[other]? = some (.submit job program))
    (registered : Trace.registered (journal other) = some jobId)
    (unsent : Unsent jobId service.store) :
    after.jobs jobId = service.store.jobs jobId ∧ Unsent jobId after := by
  obtain rfl : job = some jobId :=
    (recorded.registered other job program beside).symm.trans registered
  have present := (works.tasks other _ beside).1
  have may := (works.tasks index task found).may pending
  have written := written_of_exec called
  by_cases affects : op.Affects service.store jobId
  · rcases may.of_affects affects with ⟨record, rfl, rfl⟩ | ⟨own, rfl, -⟩ | ⟨received, -, -, about⟩
    · cases written with
      | unchanged => exact ⟨rfl, unsent⟩
      | inserted _ absent =>
          rw [absent] at present
          cases present
    · exact absurd (works.alone other index jobId program own beside found) different
    · exact absurd about (unsent _)
  · have spared := written.spares affects
    exact ⟨spared.job, fun id about => unsent id ((spared.sent id).mp about)⟩

theorem enforced (env : Environment) : terms.Enforced env (callsAllowed knowsFailure) where
  submits context request store stored := safe_submitResearchJob env context request stored
  polls context jobId store stored := by
    apply Terms.safe_of_uses _ fun _ _ _ _ => trivial
    apply (uses_answering context .status (uses_pollJob jobId)).mono
    intro op poll
    cases op with
    | getState | selectReport =>
        apply harmless_of_marked
        trivial
    | _ => cases poll
  works received store stored := safe_handleReceived env received stored
  drifts := by
    intro store after drifted stored
    -- the rows stay, and so do the bodies of the messages
    have relied : after.jobs = store.jobs → after.queue.jobAt = store.queue.jobAt →
        ∀ role trace, terms.rely role trace store after := by
      intro jobs queue role trace
      cases role with
      | submitter =>
          intro jobId _ unsent
          refine ⟨congrFun jobs jobId, fun id about => unsent id ?_⟩
          rwa [queue] at about
      | _ => trivial
    cases drifted with
    | expireSnapshot jobId =>
        refine ⟨⟨stored.row, fun other snapshot found => ?_⟩, relied rfl rfl⟩
        rcases update_eq_some found with ⟨-, dropped⟩ | ⟨-, found⟩
        · cases dropped
        · exact stored.snapshot other snapshot found
    | expireCached cacheKey => exact ⟨⟨stored.row, stored.snapshot⟩, relied rfl rfl⟩
    | queue queue id moves => exact ⟨⟨stored.row, stored.snapshot⟩, relied rfl moves.jobAt⟩
  calls := by
    intro index outcome service journal task op kept permitted found pending
    exact ⟨callsAllowed_resume permitted found pending, kept.scope.sent⟩
  others := by
    intro index outcome service journal task op reply after other beside kept permitted found
      pending called different present live
    cases beside with
    | submit job program =>
        intro jobId registered unsent
        exact unsent_kept kept.scope kept.recorded found pending called different
          present registered
          unsent
    | _ => trivial

end ErrorMarks

/-- Rows and snapshots have an error exactly if they are failed, in every state
of a run in which job rows are updated by sessions that know whether the job
has failed. -/
theorem errors_marked {env : Environment} {dlqArn : String}
    {aiCache : String → Option CachedPayload} {actions : List Action} {service : Service}
    {journal : Journal}
    (ran : runWithin (Service.noted env) (callsAllowed knowsFailure) actions
      (Service.initial env.settings dlqArn aiCache).unnoted = some (service, journal)) :
    ErrorsMarked service.store :=
  ((ErrorMarks.enforced env).run
    ⟨fun _ _ found => (by cases found), fun _ _ found => (by cases found)⟩ ran).invariant

namespace Sample

/-- A delivery that comes to nothing: the process dies, and the visibility
timeout runs out. -/
def lostDelivery (task : Nat) : List Action :=
  [.deliver 0, .crash task, .timeout 0]

/-- The calls of a worker whose pipeline fails at once on its last attempt, up
to the failed snapshot. -/
def lastAttempt : List Outcome :=
  [.failed fault, .done (.flag true), .ok, .ok, .ok, .done (.time noon), .ok]

/-- Two deliveries are lost, and the third one fails. -/
def exhausted : List Action :=
  submission ++ lostDelivery 1 ++ lostDelivery 2 ++ .deliver 0 :: calls 3 lastAttempt

/-- The first delivery has read the row when the last attempt fails, and then
updates it. -/
def overtaken : List Action :=
  submission ++ .deliver 0 :: calls 1 [.ok, .done (.time noon), .ok, .done (.flag true)] ++
    .timeout 0 :: lostDelivery 2 ++ .deliver 0 :: calls 3 lastAttempt ++ calls 1 [.ok]

end Sample

/-- A job that fails on its last attempt. -/
theorem errors_marked_exhausted :
    ∃ service journal,
      runWithin (Service.noted Sample.environment) (callsAllowed knowsFailure) Sample.exhausted
        Sample.cold.unnoted = some (service, journal) ∧
      (service.store.jobs "job-1").map ResearchJobRecord.status = some .failed ∧
      ErrorsMarked service.store := by
  have checked : (runWithin (Service.noted Sample.environment) (callsAllowed knowsFailure)
      Sample.exhausted Sample.cold.unnoted).any (fun final =>
        (final.1.store.jobs "job-1").map ResearchJobRecord.status = some .failed) = true := by
    decide +kernel
  obtain ⟨⟨service, journal⟩, ran, failed⟩ := (Option.any_eq_true _ _).mp checked
  exact ⟨service, journal, ran, of_decide_eq_true failed, errors_marked ran⟩

/-- A session that has read the row before the last attempt failed sets it to
processing and leaves the error. -/
theorem error_of_processing_job :
    ∃ service, run (Service.step Sample.environment) Sample.overtaken Sample.cold = some service ∧
      ¬ ErrorsMarked service.store := by
  refine ⟨_, Sample.ran_after (by decide +kernel), ?_⟩
  intro marked
  have row := marked.row "job-1" _ rfl
  revert row
  decide

end ResearchTool
