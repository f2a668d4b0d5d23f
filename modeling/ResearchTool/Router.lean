import ResearchTool.Orchestration

/-!
# HTTP endpoints

`POST /api/v1/research/jobs` and `GET /api/v1/research/jobs/{job_id}`.  Both
answer every exception with a problem document.
-/

namespace ResearchTool

open Process

/-- The parts of a request that a problem document repeats. -/
structure RequestContext where
  path : String
  requestId : String
  deriving DecidableEq, Repr

/-- The `application/problem+json` answer. -/
structure ProblemResponse where
  statusCode : Nat
  type : String
  title : String
  detail : Option String
  instancePath : String
  requestId : Option String := none
  deriving DecidableEq, Repr

/-- `_problem_response`; an empty detail is left out. -/
def problemResponse (problem : ResearchProblem) (context : RequestContext)
    (requestId : Option String) : ProblemResponse where
  statusCode := problem.statusCode
  type := problem.type
  title := problem.title
  detail := problem.detail.filter fun detail => detail ≠ ""
  instancePath := context.path
  requestId := requestId

/-- `_problem_response` for a `ResearchProblem`, `_unexpected_problem` for any
other exception. -/
def exceptionResponse (context : RequestContext) : Exn → ProblemResponse
  | .researchProblem problem => problemResponse problem context none
  | error =>
      problemResponse {
        statusCode := 500
        type := "/problems/internal-server-error"
        title := "Internal server error"
        detail := some error.str
      } context (some context.requestId)

/-- The 404 problem for an unknown job. -/
def jobNotFound (jobId : JobId) : ResearchProblem where
  statusCode := 404
  type := "/problems/job-not-found"
  title := "Research job not found"
  detail := some ("No research job exists for " ++ jobId ++ ".")

/-- What an endpoint answers. -/
inductive Answer where
  | accepted (response : JobAcceptedResponse)
  | status (response : PollingStatusResponse)
  | problem (response : ProblemResponse)
  deriving DecidableEq, Repr

/-- The `try` statement of both endpoints: `respond` makes an answer of what
the body returns. -/
def answering {α : Type} (context : RequestContext) (respond : α → Answer)
    (body : Coroutine α) : Coroutine Answer := do
  match ← Program.attempt body with
  | .ok response => pure (respond response)
  | .error error => pure (.problem (exceptionResponse context error))

@[simp]
theorem answering_pure {α : Type} (context : RequestContext) (respond : α → Answer) (value : α) :
    answering context respond (.pure value) = .pure (respond value) :=
  rfl

@[simp]
theorem answering_raise {α : Type} (context : RequestContext) (respond : α → Answer)
    (error : Exn) :
    answering context respond (.raise error) =
      .pure (.problem (exceptionResponse context error)) :=
  rfl

theorem answering_await {α : Type} (context : RequestContext) (respond : α → Answer) (op : Op)
    (next : op.Reply → Coroutine α) :
    answering context respond ((await op).bind next) =
      .call op fun
        | .ok value => answering context respond (next value)
        | .error error => .pure (.problem (exceptionResponse context error)) := by
  refine congrArg (@Program.call Ops Exn Answer op) (funext fun reply => ?_)
  cases reply <;> rfl

theorem uses_answering {α : Type} {allowed : Op → Prop} (context : RequestContext)
    (respond : α → Answer) {body : Coroutine α} (uses : body.Uses allowed) :
    (answering context respond body).Uses allowed := by
  apply uses.attempt.bind
  intro outcome
  cases outcome <;> exact Program.uses_pure _

/-- `submit_research_job`. -/
def submitResearchJob (env : Environment) (context : RequestContext) (request : ResearchRequest) :
    Coroutine Answer :=
  answering context .accepted (submit env request)

/-- The report a row stores. -/
def reportOfRecord (record : FinalResearchReportRecord) : ResearchReport where
  jobId := record.jobId
  repositoryUrl := record.content.repositoryUrl
  deterministicData := record.content.deterministicData
  aiInsights := record.content.aiInsights
  aiFallbackReason := record.content.aiFallbackReason
  markdownReport := record.content.markdownReport
  createdAt := record.createdTime

/-- `_load_report`. -/
def loadReport (session : Session) (jobId : JobId) : Coroutine (Option ResearchReport) := do
  let selected ← await (.selectReport jobId)
  pure ((identify (session.reports jobId) selected).map reportOfRecord)

/-- A request's first look at the report table. -/
theorem loadReport_bind {α : Type} (jobId : JobId)
    (next : Option ResearchReport → Coroutine α) :
    (loadReport .empty jobId).bind next =
      (await (.selectReport jobId)).bind fun selected =>
        next (selected.row.map reportOfRecord) := by
  refine (Program.bind_assoc _ _ _).trans (congrArg _ (funext fun selected => ?_))
  exact congrArg (fun row => next (row.map reportOfRecord)) (identify_none selected)

/-- The snapshot reconstructed from a stored report. -/
def reportSnapshot (jobId : JobId) (report : ResearchReport) : ResearchJobStateSnapshot where
  jobId := jobId
  status := .completed
  progressMsg := "Research completed"
  updatedAt := report.createdAt
  instantData := some report.deterministicData
  aiFallback := some (isTruthy report.aiFallbackReason)
  aiFallbackReason := report.aiFallbackReason

def pollingResponse (snapshot : ResearchJobStateSnapshot) (report : Option ResearchReport) :
    PollingStatusResponse where
  jobId := snapshot.jobId
  status := snapshot.status
  progressMsg := snapshot.progressMsg
  updatedAt := snapshot.updatedAt
  instantData := snapshot.instantData
  report := report
  aiFallback := snapshot.aiFallback
  aiFallbackReason := snapshot.aiFallbackReason
  error := snapshot.error

/-- A poll that finds no snapshot: the report table decides. -/
def pollWithoutSnapshot (jobId : JobId) : Coroutine PollingStatusResponse := do
  match ← loadReport .empty jobId with
  | none => Program.raise (.researchProblem (jobNotFound jobId))
  | some report => pure (pollingResponse (reportSnapshot jobId report) (some report))

/-- A poll that finds a snapshot: a completed one is shown with its report. -/
def pollWithSnapshot (jobId : JobId) (snapshot : ResearchJobStateSnapshot) :
    Coroutine PollingStatusResponse :=
  if snapshot.status = .completed then do
    let report ← loadReport .empty jobId
    pure (pollingResponse snapshot report)
  else
    pure (pollingResponse snapshot none)

/-- The `try` block of `get_research_job_status`. -/
def pollJob (jobId : JobId) : Coroutine PollingStatusResponse := do
  match ← await (.getState jobId) with
  | none => pollWithoutSnapshot jobId
  | some snapshot => pollWithSnapshot jobId snapshot

/-- `get_research_job_status`. -/
def getResearchJobStatus (context : RequestContext) (jobId : JobId) : Coroutine Answer :=
  answering context .status (pollJob jobId)

end ResearchTool
