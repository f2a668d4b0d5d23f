import ResearchTool.Scope

/-!
# Programs that complete a job

The pipeline and a submission that hits the AI cache complete their job by one call.
What they do after it sets no other status, and returns unless the environment makes
it fail; what they do before it completes nothing.
-/

namespace ResearchTool

open Process

/-- The operation gives the row or the snapshot of the job a status. -/
def Op.Sets (jobId : JobId) (status : JobStatus) : Op → Prop
  | .insertJob record => record.jobId = jobId ∧ record.status = status
  | .updateJob id changes => id = jobId ∧ changes.status = some status
  | .setState snapshot => snapshot.jobId = jobId ∧ snapshot.status = status
  | _ => False

instance (jobId : JobId) (status : JobStatus) : DecidablePred (Op.Sets jobId status)
  | .insertJob record =>
      inferInstanceAs (Decidable (record.jobId = jobId ∧ record.status = status))
  | .updateJob id changes =>
      inferInstanceAs (Decidable (id = jobId ∧ changes.status = some status))
  | .setState snapshot =>
      inferInstanceAs (Decidable (snapshot.jobId = jobId ∧ snapshot.status = status))
  | .now | .uuid4 | .fetchRepositoryContext _ | .analyze _ | .getState _ | .getCachedAiResult _
  | .setCachedAiResult _ _ | .selectJob _ | .refreshJob _ | .selectReport _ | .insertReport _
  | .updateReport _ _ | .refreshReport _ | .closeSession | .send _ | .delete _
  | .changeVisibility _ _ => .isFalse id

/-- The operation gives a row the status `completed`. -/
def Op.completes : Op → Bool
  | .updateJob _ changes => changes.status = some .completed
  | _ => false

namespace Commitment

/-- The operations that are left to do for a completed job. -/
def Op.IsClosing (jobId : JobId) : Op → Prop
  | .now => True
  | .closeSession => True
  | .refreshJob id => id = jobId
  | .setState snapshot => snapshot.jobId = jobId ∧ snapshot.status = .completed
  | .delete _ => True
  | .changeVisibility _ _ => True
  | _ => False

/-- The operation completes the job. -/
def Op.Marks (jobId : JobId) (op : Op) : Prop :=
  op.completes = true ∧ op.Sets jobId .completed

theorem sets_of_closing {jobId : JobId} {op : Op} (closing : Op.IsClosing jobId op)
    {status : JobStatus} (sets : op.Sets jobId status) : status = .completed := by
  cases op with
  | setState snapshot => exact sets.2.symm.trans closing.2
  | insertJob | updateJob => cases closing
  | _ => cases sets

/-- What is left to do returns unless the environment makes it fail. -/
theorem closing_returns {jobId : JobId} {op : Op} (closing : Op.IsClosing jobId op)
    {outcome : Outcome} (sound : outcome.faulty = false) {store after : Store}
    {reply : Except Exn op.Reply} (called : exec op outcome store = some (reply, after))
    (present : (store.jobs jobId).isSome) : ∃ value, reply = .ok value := by
  obtain ⟨supply, answered⟩ := answer_of_exec sound called
  cases op with
  | now =>
      obtain ⟨time, rfl, -⟩ := answer_now answered
      exact ⟨time, rfl⟩
  | closeSession => exact ⟨(), (answer_closeSession answered).1⟩
  | refreshJob id =>
      obtain ⟨row, stored⟩ := Option.isSome_iff_exists.mp present
      have named : id = jobId := closing
      subst named
      exact ⟨row, (answer_refreshJob stored answered).1⟩
  | setState snapshot => exact ⟨(), (answer_setState answered).1⟩
  | delete handle =>
      cases supply <;> simp only [answer, reduceCtorEq] at answered
      cases answered
      exact ⟨(), rfl⟩
  | changeVisibility handle timeoutSeconds =>
      cases supply <;> simp only [answer, reduceCtorEq] at answered
      cases answered
      exact ⟨(), rfl⟩
  | _ => cases closing

/-- A call that completes the job returns unless the environment makes it fail. -/
theorem marks_returns {jobId : JobId} {op : Op} (marks : Op.Marks jobId op)
    {outcome : Outcome} (sound : outcome.faulty = false) {store after : Store}
    {reply : Except Exn op.Reply} (called : exec op outcome store = some (reply, after))
    (present : (store.jobs jobId).isSome) : ∃ value, reply = .ok value := by
  obtain ⟨supply, answered⟩ := answer_of_exec sound called
  obtain ⟨row, stored⟩ := Option.isSome_iff_exists.mp present
  cases op with
  | updateJob id changes =>
      have named : id = jobId := marks.2.1
      subst named
      exact ⟨(), (answer_updateJob stored answered).1⟩
  | _ => cases marks.1

section

variable {α : Type} {jobId : JobId}

/-! ## Programs -/

/-- A program that completes the job once, and then has little left to do. -/
def Commits (jobId : JobId) (program : Coroutine α) : Prop :=
  program.Commits (Op.Marks jobId) (Op.IsClosing jobId)

theorem not_marks_of_status {changes : JobChanges} (other : changes.status ≠ some .completed)
    (loaded : ResearchJobRecord) (id : JobId) :
    ¬ Op.Marks jobId (.updateJob id (changes.against loaded)) := by
  rintro ⟨completes, -⟩
  have written := of_decide_eq_true completes
  rcases JobChanges.against_status changes loaded with unwritten | assigned
  · cases unwritten.symm.trans written
  · exact other (assigned.symm.trans written)

/-- An update that does not complete the job. -/
theorem unmarked_updateJobStatus (session : Session) (id : JobId) {changes : JobChanges}
    (other : changes.status ≠ some .completed) :
    (updateJobStatus session id changes).Uses fun op => ¬ Op.Marks jobId op :=
  uses_updateJobStatus _ _ _ (fun marks => nomatch marks.1)
    (fun loaded => not_marks_of_status other loaded id) (fun marks => nomatch marks.1)

theorem unmarked_saveFinalReport (session : Session) (id : JobId) (content : ReportContent) :
    (saveFinalReport session id content).Uses fun op => ¬ Op.Marks jobId op :=
  uses_saveFinalReport _ _ _ (fun marks => nomatch marks.1) (fun marks => nomatch marks.1)
    (fun _ marks => nomatch marks.1) (fun _ marks => nomatch marks.1)
    (fun marks => nomatch marks.1)

/-- The update that completes the job has only the refresh of the row after it. -/
theorem commits_updateJobStatus (session : Session) (changes : JobChanges) :
    Commits jobId (updateJobStatus session jobId changes) := by
  rw [updateJobStatus_eq]
  apply Program.Commits.after
  · exact .perform fun marks => nomatch marks.1
  intro selected
  cases identify (session.jobs jobId) selected with
  | none => exact Program.commits_pure _
  | some loaded =>
      apply Program.Commits.perform_bind
      · exact fun _ => Program.Uses.perform_bind rfl fun _ => Program.uses_pure _
      · exact fun _ => Program.succeeds_perform_bind.mpr fun _ => Program.succeeds_pure _
      · intro _
        apply Program.Uses.commits
        apply Program.Uses.perform_bind
        · exact fun marks => nomatch marks.1
        · exact fun _ => Program.uses_pure _

theorem not_marks_of_closing {op : Op} (closing : Op.IsClosing jobId op) :
    ¬ Op.Marks jobId op := by
  rintro ⟨completes, -⟩
  cases op with
  | updateJob => cases closing
  | _ => cases completes

/-- The completed status, and then what is left to do. -/
theorem commits_completion (session : Session) (changes : JobChanges)
    {next : DateTime → Coroutine α} (closes : ∀ now, (next now).Uses (Op.IsClosing jobId))
    (returns : ∀ now, (next now).Succeeds) :
    Commits jobId ((updateJobStatus session jobId changes).bind fun _ =>
      (await .now).bind next) := by
  have closing : ((await .now).bind next).Uses (Op.IsClosing jobId) :=
    Program.Uses.perform_bind trivial closes
  apply (commits_updateJobStatus session changes).bind
  · exact fun _ => closing
  · exact fun _ => Program.succeeds_perform_bind.mpr returns
  · exact fun _ => (closing.mono fun _ => not_marks_of_closing).commits

theorem commits_completionStage (session : Session) (rawContext : RepositoryRawContext)
    (cacheKey : String) (analysis : Analysis) :
    Commits jobId (completionStage session jobId rawContext cacheKey analysis) := by
  apply Program.Commits.after
  · exact .perform fun marks => nomatch marks.1
  intro createdAt
  apply Program.Commits.after
  · exact unmarked_saveFinalReport _ _ _
  intro saved
  apply commits_completion
  · exact fun now => Program.Uses.perform ⟨rfl, rfl⟩
  · exact fun now => Program.succeeds_perform _

theorem commits_withSession {body : Session → Coroutine α}
    (commits : Commits jobId (body .empty)) : Commits jobId (withSession body) := by
  rw [withSession_eq]
  apply Program.Commits.attempt_bind commits
  · exact fun outcome => Program.Uses.perform_bind trivial fun _ => Program.uses_ofExcept _
  · exact fun value => Program.succeeds_perform_bind.mpr fun _ => Program.succeeds_pure _
  · intro outcome
    apply Program.Commits.after
    · exact .perform fun marks => nomatch marks.1
    · exact fun _ => Program.Uses.commits (Program.uses_ofExcept _)

theorem commits_pipelineSession (env : Environment) (target : ParsedRepoTarget)
    (session : Session) : Commits jobId (pipelineSession env jobId target session) := by
  apply Program.Commits.after
  · exact unmarked_updateJobStatus _ _ nofun
  intro started
  apply Program.Commits.after
  · exact .perform fun marks => nomatch marks.1
  intro rawContext
  apply Program.Commits.after
  · exact .perform fun marks => nomatch marks.1
  intro now
  apply Program.Commits.after
  · exact .perform fun marks => nomatch marks.1
  intro _
  apply Program.Commits.after
  · exact unmarked_updateJobStatus _ _ nofun
  intro prepared
  apply Program.Commits.after
  · apply (uses_analysisStage env jobId rawContext _).mono
    intro op analysis marks
    cases op with
    | updateJob => cases analysis
    | _ => cases marks.1
  intro analysis
  exact commits_completionStage _ _ _ _

theorem commits_executeResearchPipeline (env : Environment) (message : ResearchJobMessage) :
    Commits message.jobId (executeResearchPipeline env message) := by
  unfold executeResearchPipeline
  generalize parseGithubRepositoryUrl env.urlLibrary message.repoUrl = parsed
  apply Program.Commits.after
  · exact Program.uses_ofExcept _
  intro target
  apply Program.Commits.after
  · exact .perform fun marks => nomatch marks.1
  intro existing
  apply Program.Commits.after
  · exact .perform fun marks => nomatch marks.1
  intro now
  apply Program.Commits.after
  · exact .perform fun marks => nomatch marks.1
  intro _
  exact commits_withSession (commits_pipelineSession _ _ _)

theorem commits_announceJob (session : Session) (target : ParsedRepoTarget)
    (request : ResearchRequest) (rawContext : RepositoryRawContext) :
    Commits jobId (announceJob session target request rawContext jobId) := by
  apply Program.Commits.after
  · exact .perform fun marks => nomatch marks.1
  intro now
  apply Program.Commits.after
  · exact .perform fun marks => nomatch marks.1
  intro _
  apply Program.Commits.after
  · exact .perform fun marks => nomatch marks.1
  intro cached
  cases cached with
  | some cachedAi =>
      apply Program.Commits.after
      · exact .perform fun marks => nomatch marks.1
      intro createdAt
      apply Program.Commits.after
      · exact unmarked_saveFinalReport _ _ _
      intro saved
      apply commits_completion
      · intro later
        apply Program.Uses.perform_bind
        · exact ⟨rfl, rfl⟩
        · exact fun _ => Program.uses_pure _
      · exact fun later => Program.succeeds_perform_bind.mpr fun _ => Program.succeeds_pure _
  | none =>
      apply Program.Commits.after
      · exact .perform fun marks => nomatch marks.1
      intro enqueuedAt
      apply Program.Commits.after
      · apply Program.Uses.attempt
        exact .perform fun marks => nomatch marks.1
      intro sent
      cases sent with
      | ok _ => exact Program.commits_pure _
      | error error =>
          apply Program.Commits.after
          · exact unmarked_updateJobStatus _ _ nofun
          intro updated
          apply Program.Commits.after
          · exact .perform fun marks => nomatch marks.1
          intro later
          apply Program.Commits.after
          · exact .perform fun marks => nomatch marks.1
          exact fun _ => Program.commits_raise _

end

/-! ## Tasks -/

/-- The operation does not start or complete the job. -/
def Op.LeavesOpen (jobId : JobId) (op : Op) : Prop :=
  ¬ Op.Marks jobId op ∧ ¬ op.Sets jobId .processing

theorem commits_answering {α : Type} {jobId : JobId} (context : RequestContext)
    (respond : α → Answer) {body : Coroutine α} (commits : Commits jobId body) :
    Commits jobId (answering context respond body) := by
  apply Program.Commits.attempt_bind commits
  · intro outcome
    cases outcome <;> exact Program.uses_pure _
  · exact fun value => Program.succeeds_pure _
  · intro outcome
    cases outcome <;> exact Program.commits_pure _

theorem commits_submitResearchJob (env : Environment) (context : RequestContext)
    (request : ResearchRequest) (jobId : JobId) :
    Commits jobId (submitResearchJob env context request) := by
  have submits : Commits jobId (submit env request) := by
    unfold submit
    generalize parseGithubRepositoryUrl env.urlLibrary request.url = parsed
    apply Program.Commits.after
    · exact Program.uses_ofExcept _
    intro target
    apply Program.Commits.after
    · exact .perform fun marks => nomatch marks.1
    intro rawContext
    apply Program.Commits.after
    · exact .perform fun marks => nomatch marks.1
    intro chosen
    change Commits jobId ((createJobRecord .empty (pendingRecord target rawContext chosen)).bind
      fun session => announceJob session target request rawContext chosen)
    rw [createJobRecord_bind]
    apply Program.Commits.after
    · exact .perform fun marks => nomatch marks.1
    intro _
    apply Program.Commits.after
    · exact .perform fun marks => nomatch marks.1
    intro refreshed
    by_cases own : chosen = jobId
    · subst own
      exact commits_announceJob _ _ _ _
    · -- a submission completes its own job only
      apply Program.Uses.commits
      apply (uses_announceJob _ target request rawContext chosen).mono
      intro op submission marks
      cases op with
      | updateJob id changes => exact own (submission.symm.trans marks.2.1)
      | _ => cases marks.1
  exact commits_answering context .accepted submits

theorem quiet_settle (settings : Settings) (received : ReceivedMessage)
    (outcome : Except Exn Unit) :
    (settle settings received outcome).Uses (Op.LeavesOpen received.body.jobId) := by
  have released : (await (.changeVisibility received.receiptHandle 0)).Uses
      (Op.LeavesOpen received.body.jobId) := .perform ⟨nofun, nofun⟩
  cases outcome with
  | ok value => exact Program.Uses.perform ⟨nofun, nofun⟩
  | error error =>
      by_cases last : settings.maxQueueAttempts ≤ received.receiveCount
      · rw [settle_exhausted last]
        apply Program.Uses.bind
        · apply Program.Uses.bind
          · apply uses_withSession
            · apply uses_updateJobStatus
              · exact ⟨nofun, nofun⟩
              · intro loaded
                constructor
                · apply not_marks_of_status
                  exact nofun
                · rintro ⟨-, written⟩
                  rcases JobChanges.against_status _ loaded with unwritten | assigned
                  · cases unwritten.symm.trans written
                  · cases assigned.symm.trans written
              · exact ⟨nofun, nofun⟩
            · exact ⟨nofun, nofun⟩
          intro _
          apply Program.Uses.perform_bind
          · exact ⟨nofun, nofun⟩
          intro now
          exact Program.Uses.perform ⟨nofun, fun sets => nomatch sets.2⟩
        · exact fun _ => released
      · rw [settle_retry last]
        exact released

end Commitment

end ResearchTool
