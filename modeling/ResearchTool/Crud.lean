import ResearchTool.Operations

/-!
# Database access

The functions of `crud_research.py` over a SQLAlchemy session.  Sessions are
created with `expire_on_commit=False`: an instance keeps the attribute values
it was loaded with until it is refreshed, and a later `SELECT` of the same row
returns the instance as it stands, as long as it is still alive.
-/

namespace ResearchTool

open Process

/-- The identity map of a session: the loaded values of its instances. -/
structure Session where
  jobs : JobId → Option ResearchJobRecord
  reports : JobId → Option FinalResearchReportRecord

namespace Session

def empty : Session where
  jobs _ := none
  reports _ := none

def loadJob (session : Session) (jobId : JobId) (record : ResearchJobRecord) : Session :=
  { session with jobs := Function.update session.jobs jobId (some record) }

def loadReport (session : Session) (jobId : JobId) (record : FinalResearchReportRecord) :
    Session :=
  { session with reports := Function.update session.reports jobId (some record) }

end Session

/-- The attribute values of the instance that a `SELECT` returns: those loaded
earlier if the instance is still in the identity map, else those of the row. -/
def identify {ρ : Type} (loaded : Option ρ) (selected : Selected ρ) : Option ρ :=
  selected.row.map fun row => if selected.alive then loaded.getD row else row

/-- A session that has not loaded the row sees it as it is. -/
@[simp]
theorem identify_none {ρ : Type} (selected : Selected ρ) :
    identify none selected = selected.row := by
  simp [identify]

/-- `async with session_factory() as session`. -/
def withSession {α : Type} (body : Session → Coroutine α) : Coroutine α := do
  let outcome ← Program.attempt (body .empty)
  await .closeSession
  Program.ofExcept outcome

/-- `withSession` as the sequence of its parts. -/
theorem withSession_eq {α : Type} (body : Session → Coroutine α) :
    withSession body =
      (Program.attempt (body .empty)).bind fun outcome =>
        (await .closeSession).bind fun _ => Program.ofExcept outcome :=
  rfl

/-- `get_job_by_id`. -/
def getJobById (session : Session) (jobId : JobId) :
    Coroutine (Option ResearchJobRecord) := do
  let selected ← await (.selectJob jobId)
  pure (identify (session.jobs jobId) selected)

/-- `create_job_record`. -/
def createJobRecord (session : Session) (record : ResearchJobRecord) : Coroutine Session := do
  await (.insertJob record)
  let refreshed ← await (.refreshJob record.jobId)
  pure (session.loadJob record.jobId refreshed)

/-- `create_job_record` and what follows as the sequence of their calls. -/
theorem createJobRecord_bind {α : Type} (session : Session) (record : ResearchJobRecord)
    (next : Session → Coroutine α) :
    (createJobRecord session record).bind next =
      (await (.insertJob record)).bind fun _ =>
        (await (.refreshJob record.jobId)).bind fun refreshed =>
          next (session.loadJob record.jobId refreshed) :=
  (Program.bind_assoc _ _ _).trans (congrArg _ (funext fun _ => Program.bind_assoc _ _ _))

/-- `update_job_status`; the returned record is not used by any caller. -/
def updateJobStatus (session : Session) (jobId : JobId) (changes : JobChanges) :
    Coroutine Session := do
  match ← getJobById session jobId with
  | none => pure session
  | some loaded =>
      await (.updateJob jobId (changes.against loaded))
      let refreshed ← await (.refreshJob jobId)
      pure (session.loadJob jobId refreshed)

/-- `update_job_status` as the sequence of its calls. -/
theorem updateJobStatus_eq (session : Session) (jobId : JobId) (changes : JobChanges) :
    updateJobStatus session jobId changes =
      (await (.selectJob jobId)).bind fun selected =>
        match identify (session.jobs jobId) selected with
        | none => .pure session
        | some loaded =>
            (await (.updateJob jobId (changes.against loaded))).bind fun _ =>
              (await (.refreshJob jobId)).bind fun refreshed =>
                .pure (session.loadJob jobId refreshed) :=
  Program.bind_assoc _ _ _

/-- `save_final_report`: insert the report row, or assign every content column
of the row that is already there. -/
def saveFinalReport (session : Session) (jobId : JobId) (content : ReportContent) :
    Coroutine Session := do
  let selected ← await (.selectReport jobId)
  match identify (session.reports jobId) selected with
  | none =>
      let createdTime ← await .now
      await (.insertReport { jobId, content, createdTime })
  | some loaded =>
      await (.updateReport jobId ((ReportChanges.ofContent content).against loaded.content))
  let refreshed ← await (.refreshReport jobId)
  pure (session.loadReport jobId refreshed)

/-- `save_final_report` as the sequence of its calls. -/
theorem saveFinalReport_eq (session : Session) (jobId : JobId) (content : ReportContent) :
    saveFinalReport session jobId content =
      (await (.selectReport jobId)).bind fun selected =>
        match identify (session.reports jobId) selected with
        | none =>
            (await .now).bind fun createdTime =>
              (await (.insertReport { jobId, content, createdTime })).bind fun _ =>
                (await (.refreshReport jobId)).bind fun refreshed =>
                  .pure (session.loadReport jobId refreshed)
        | some loaded =>
            (await (.updateReport jobId
              ((ReportChanges.ofContent content).against loaded.content))).bind fun _ =>
                (await (.refreshReport jobId)).bind fun refreshed =>
                  .pure (session.loadReport jobId refreshed) :=
  rfl

/-! ## The operations they call -/

theorem uses_updateJobStatus {allowed : Op → Prop} (session : Session) (jobId : JobId)
    (changes : JobChanges) (select : allowed (.selectJob jobId))
    (update : ∀ loaded, allowed (.updateJob jobId (changes.against loaded)))
    (refresh : allowed (.refreshJob jobId)) :
    (updateJobStatus session jobId changes).Uses allowed := by
  rw [updateJobStatus_eq]
  refine Program.Uses.bind (.perform select) fun selected => ?_
  cases identify (session.jobs jobId) selected with
  | none => exact Program.uses_pure _
  | some loaded =>
      exact Program.Uses.bind (.perform (update loaded)) fun _ =>
        Program.Uses.bind (.perform refresh) fun _ => Program.uses_pure _

theorem uses_saveFinalReport {allowed : Op → Prop} (session : Session) (jobId : JobId)
    (content : ReportContent) (select : allowed (.selectReport jobId)) (clock : allowed .now)
    (insert : ∀ createdTime, allowed (.insertReport { jobId, content, createdTime }))
    (update : ∀ loaded : ReportContent,
      allowed (.updateReport jobId ((ReportChanges.ofContent content).against loaded)))
    (refresh : allowed (.refreshReport jobId)) :
    (saveFinalReport session jobId content).Uses allowed := by
  have refreshed : ((await (.refreshReport jobId)).bind fun refreshed =>
      .pure (session.loadReport jobId refreshed)).Uses allowed :=
    .bind (.perform refresh) fun _ => Program.uses_pure _
  refine Program.Uses.bind (.perform select) fun selected => ?_
  cases identify (session.reports jobId) selected with
  | none =>
      exact Program.Uses.bind (.perform clock) fun createdTime =>
        Program.Uses.bind (.perform (insert createdTime)) fun _ => refreshed
  | some loaded => exact Program.Uses.bind (.perform (update loaded.content)) fun _ => refreshed

theorem uses_withSession {α : Type} {allowed : Op → Prop} {body : Session → Coroutine α}
    (uses : (body .empty).Uses allowed) (close : allowed .closeSession) :
    (withSession body).Uses allowed :=
  .bind uses.attempt fun outcome => .bind (.perform close) fun _ => Program.uses_ofExcept outcome

/-! ## The sessions they return -/

/-- An update of a job row loads no report. -/
theorem returns_updateJobStatus (session : Session) (jobId : JobId) (changes : JobChanges) :
    (updateJobStatus session jobId changes).Returns
      fun updated => updated.reports = session.reports := by
  rw [updateJobStatus_eq]
  apply Program.Returns.perform_bind
  intro selected
  cases identify (session.jobs jobId) selected with
  | none => exact Program.returns_pure.mpr rfl
  | some loaded =>
      apply Program.Returns.perform_bind
      intro _
      apply Program.Returns.perform_bind
      intro refreshed
      exact Program.returns_pure.mpr rfl

/-- Saving a report loads no job row. -/
theorem returns_saveFinalReport (session : Session) (jobId : JobId) (content : ReportContent) :
    (saveFinalReport session jobId content).Returns fun saved => saved.jobs = session.jobs := by
  have refreshed : ((await (.refreshReport jobId)).bind fun refreshed =>
      .pure (session.loadReport jobId refreshed)).Returns
        fun saved => saved.jobs = session.jobs := by
    apply Program.Returns.perform_bind
    intro record
    exact Program.returns_pure.mpr rfl
  rw [saveFinalReport_eq]
  apply Program.Returns.perform_bind
  intro selected
  cases identify (session.reports jobId) selected with
  | none =>
      apply Program.Returns.perform_bind
      intro createdTime
      apply Program.Returns.perform_bind
      intro _
      exact refreshed
  | some loaded =>
      apply Program.Returns.perform_bind
      intro _
      exact refreshed

end ResearchTool
