import ResearchTool.Schema

/-!
# Database records

The two tables of `app/research/model` and the column updates SQLAlchemy sends
for them.  A flush compares every assigned attribute with the value the session
loaded and emits only the columns that differ.
-/

namespace ResearchTool

/-- A row of `research_job_records`. -/
structure ResearchJobRecord where
  jobId : JobId
  repositoryUrl : String
  owner : String
  repo : String
  status : JobStatus := .pending
  commitSha : Option String := none
  instantData : Option InstantMetadata := none
  progressMsg : String := "Repository research queued"
  error : Option String := none
  aiCacheKey : Option String := none
  deriving DecidableEq, Repr

/-- The content columns of a report row. -/
structure ReportContent where
  repositoryUrl : String
  commitSha : Option String
  deterministicData : InstantMetadata
  aiInsights : Option StructuredAIResponse
  aiFallback : Bool
  aiFallbackReason : Option String
  markdownReport : String
  deriving DecidableEq, Repr

/-- A row of `final_research_report_records`. -/
structure FinalResearchReportRecord where
  jobId : JobId
  content : ReportContent
  createdTime : DateTime
  deriving DecidableEq, Repr

/-- The attributes of a job record that one call assigns; `none` is `_UNSET`. -/
structure JobChanges where
  status : Option JobStatus := none
  commitSha : Option (Option String) := none
  instantData : Option (Option InstantMetadata) := none
  progressMsg : Option String := none
  error : Option (Option String) := none
  aiCacheKey : Option (Option String) := none
  deriving DecidableEq, Repr

/-- The content columns of a report row that one flush writes. -/
structure ReportChanges where
  repositoryUrl : Option String
  commitSha : Option (Option String)
  deterministicData : Option InstantMetadata
  aiInsights : Option (Option StructuredAIResponse)
  aiFallback : Option Bool
  aiFallbackReason : Option (Option String)
  markdownReport : Option String
  deriving DecidableEq, Repr

/-- The assignment of one attribute is written only when it changes the loaded
value. -/
def changedFrom {α : Type} [DecidableEq α] (loaded : α) (assigned : Option α) : Option α :=
  assigned.filter fun value => value ≠ loaded

@[simp]
theorem changedFrom_getD {α : Type} [DecidableEq α] (loaded : α) (assigned : Option α) :
    (changedFrom loaded assigned).getD loaded = assigned.getD loaded := by
  cases assigned with
  | none => rfl
  | some value =>
      by_cases same : value = loaded <;> simp [changedFrom, Option.filter, same]

theorem changedFrom_none {α : Type} [DecidableEq α] (loaded : α) :
    changedFrom loaded none = none :=
  rfl

/-- An attribute that is assigned what was loaded is not written. -/
theorem changedFrom_self {α : Type} [DecidableEq α] (loaded : α) :
    changedFrom loaded (some loaded) = none := by
  simp [changedFrom, Option.filter]

theorem changedFrom_ne {α : Type} [DecidableEq α] {loaded value : α} (changed : value ≠ loaded) :
    changedFrom loaded (some value) = some value := by
  simp [changedFrom, Option.filter, changed]

/-- An attribute that is not written was loaded with the value assigned. -/
theorem changedFrom_getD_of_current {α : Type} [DecidableEq α] {loaded row value : α}
    (current : ((changedFrom loaded (some value)).isSome || decide (row = loaded)) = true) :
    (changedFrom loaded (some value)).getD row = value := by
  by_cases same : value = loaded
  · subst same
    rw [changedFrom_self] at current ⊢
    simpa using current
  · rw [changedFrom_ne same]
    rfl

namespace JobChanges

/-- Assign the attributes. -/
def apply (changes : JobChanges) (record : ResearchJobRecord) : ResearchJobRecord where
  jobId := record.jobId
  repositoryUrl := record.repositoryUrl
  owner := record.owner
  repo := record.repo
  status := changes.status.getD record.status
  commitSha := changes.commitSha.getD record.commitSha
  instantData := changes.instantData.getD record.instantData
  progressMsg := changes.progressMsg.getD record.progressMsg
  error := changes.error.getD record.error
  aiCacheKey := changes.aiCacheKey.getD record.aiCacheKey

/-- The columns of the `UPDATE` a flush emits for an instance loaded as
`loaded`. -/
def against (changes : JobChanges) (loaded : ResearchJobRecord) : JobChanges where
  status := changedFrom loaded.status changes.status
  commitSha := changedFrom loaded.commitSha changes.commitSha
  instantData := changedFrom loaded.instantData changes.instantData
  progressMsg := changedFrom loaded.progressMsg changes.progressMsg
  error := changedFrom loaded.error changes.error
  aiCacheKey := changedFrom loaded.aiCacheKey changes.aiCacheKey

@[simp]
theorem apply_jobId (changes : JobChanges) (record : ResearchJobRecord) :
    (changes.apply record).jobId = record.jobId :=
  rfl

@[simp]
theorem apply_status (changes : JobChanges) (record : ResearchJobRecord) :
    (changes.apply record).status = changes.status.getD record.status :=
  rfl

/-- A session that has loaded the current row writes exactly what was
assigned. -/
@[simp]
theorem against_apply (changes : JobChanges) (loaded : ResearchJobRecord) :
    (changes.against loaded).apply loaded = changes.apply loaded := by
  simp [apply, against]

/-- A stale session can leave a status unwritten, but never writes one that was
not assigned. -/
theorem against_status (changes : JobChanges) (loaded : ResearchJobRecord) :
    (changes.against loaded).status = none ∨ (changes.against loaded).status = changes.status := by
  cases assigned : changes.status with
  | none => simp [against, changedFrom, assigned]
  | some status =>
      by_cases same : status = loaded.status <;> simp [against, changedFrom, assigned, same]

end JobChanges

namespace ReportChanges

/-- Assign every content column, as `save_final_report` does. -/
def ofContent (content : ReportContent) : ReportChanges where
  repositoryUrl := some content.repositoryUrl
  commitSha := some content.commitSha
  deterministicData := some content.deterministicData
  aiInsights := some content.aiInsights
  aiFallback := some content.aiFallback
  aiFallbackReason := some content.aiFallbackReason
  markdownReport := some content.markdownReport

def apply (changes : ReportChanges) (content : ReportContent) : ReportContent where
  repositoryUrl := changes.repositoryUrl.getD content.repositoryUrl
  commitSha := changes.commitSha.getD content.commitSha
  deterministicData := changes.deterministicData.getD content.deterministicData
  aiInsights := changes.aiInsights.getD content.aiInsights
  aiFallback := changes.aiFallback.getD content.aiFallback
  aiFallbackReason := changes.aiFallbackReason.getD content.aiFallbackReason
  markdownReport := changes.markdownReport.getD content.markdownReport

/-- The columns of the `UPDATE` a flush emits for an instance loaded as
`loaded`. -/
def against (changes : ReportChanges) (loaded : ReportContent) : ReportChanges where
  repositoryUrl := changedFrom loaded.repositoryUrl changes.repositoryUrl
  commitSha := changedFrom loaded.commitSha changes.commitSha
  deterministicData := changedFrom loaded.deterministicData changes.deterministicData
  aiInsights := changedFrom loaded.aiInsights changes.aiInsights
  aiFallback := changedFrom loaded.aiFallback changes.aiFallback
  aiFallbackReason := changedFrom loaded.aiFallbackReason changes.aiFallbackReason
  markdownReport := changedFrom loaded.markdownReport changes.markdownReport

/-- A session that has loaded the current row replaces the whole content. -/
@[simp]
theorem against_ofContent_apply (content loaded : ReportContent) :
    ((ofContent content).against loaded).apply loaded = content := by
  simp [apply, against, ofContent]

/-- A flush that writes no column. -/
def unchanged : ReportChanges :=
  ⟨none, none, none, none, none, none, none⟩

@[simp]
theorem unchanged_apply (content : ReportContent) : unchanged.apply content = content :=
  rfl

/-- Every column that the flush leaves out still has the value that was
loaded. -/
def leavesLoaded (changes : ReportChanges) (loaded row : ReportContent) : Bool :=
  (changes.repositoryUrl.isSome || decide (row.repositoryUrl = loaded.repositoryUrl)) &&
  (changes.commitSha.isSome || decide (row.commitSha = loaded.commitSha)) &&
  (changes.deterministicData.isSome ||
    decide (row.deterministicData = loaded.deterministicData)) &&
  (changes.aiInsights.isSome || decide (row.aiInsights = loaded.aiInsights)) &&
  (changes.aiFallback.isSome || decide (row.aiFallback = loaded.aiFallback)) &&
  (changes.aiFallbackReason.isSome || decide (row.aiFallbackReason = loaded.aiFallbackReason)) &&
  (changes.markdownReport.isSome || decide (row.markdownReport = loaded.markdownReport))

@[simp]
theorem leavesLoaded_self (changes : ReportChanges) (content : ReportContent) :
    changes.leavesLoaded content content = true := by
  simp [leavesLoaded]

/-- If the columns left out have not changed since, the whole content is
replaced. -/
theorem against_ofContent_apply_of_leavesLoaded {content loaded row : ReportContent}
    (leaves : ((ofContent content).against loaded).leavesLoaded loaded row = true) :
    ((ofContent content).against loaded).apply row = content := by
  simp only [leavesLoaded, against, ofContent, Bool.and_eq_true] at leaves
  obtain ⟨⟨⟨⟨⟨⟨repositoryUrl, commitSha⟩, data⟩, insights⟩, fallback⟩, reason⟩, markdown⟩ := leaves
  cases content
  simp only [apply, against, ofContent, changedFrom_getD_of_current repositoryUrl,
    changedFrom_getD_of_current commitSha, changedFrom_getD_of_current data,
    changedFrom_getD_of_current insights, changedFrom_getD_of_current fallback,
    changedFrom_getD_of_current reason, changedFrom_getD_of_current markdown]

end ReportChanges

end ResearchTool
