import ResearchTool.Python.Json

/-!
# Boundary schemas

The Pydantic models of `app/research/schema`.  A constraint declared with
`Field` is a field of the structure, so that a value of the type is a value
the schema accepts.
-/

namespace ResearchTool

open Python

/-- A `datetime` as `isoformat` prints it; the offset is absent for naive
values. -/
structure DateTime where
  year : Nat
  month : Nat
  day : Nat
  hour : Nat
  minute : Nat
  second : Nat
  microsecond : Nat := 0
  offsetMinutes : Option Int := some 0
  deriving DecidableEq, Repr

abbrev JobId := String

inductive JobStatus where
  | pending
  | processing
  | completed
  | failed
  deriving DecidableEq, Repr

inductive RiskLevel where
  | low
  | medium
  | high
  deriving DecidableEq, Repr

inductive AIConfidence where
  | high
  | low
  deriving DecidableEq, Repr

/-- The body of `POST /api/v1/research/jobs`. -/
structure ResearchRequest where
  url : String
  options : List (String × Json) := []
  url_minLength : 1 ≤ url.length := by decide
  url_maxLength : url.length ≤ 2048 := by decide

/-- `JobAcceptedResponse`: the status is the literal `"pending"`. -/
structure JobAcceptedResponse where
  jobId : JobId
  deriving DecidableEq, Repr

structure ParsedRepoTarget where
  owner : String
  repo : String
  canonicalUrl : String
  owner_minLength : owner ≠ ""
  repo_minLength : repo ≠ ""
  deriving DecidableEq, Repr

/-- One language of the breakdown, with the percentage as it is printed. -/
structure LanguageEntry where
  name : String
  percentage : PyFloat
  color : Option String := none
  deriving DecidableEq, Repr

structure CommitEntry where
  sha : String
  message : String
  committedAt : DateTime
  authorName : Option String := none
  deriving DecidableEq, Repr

structure InstantMetadata where
  name : String
  description : Option String := none
  stars : Nat
  forks : Nat
  primaryLang : Option String := none
  lastCommitAt : Option DateTime := none
  owner : Option String := none
  watchers : Option Int := none
  openIssues : Option Int := none
  licenseSpdx : Option String := none
  topics : List String := []
  languages : List LanguageEntry := []
  recentCommits : List CommitEntry := []
  isArchived : Bool := false
  isFork : Bool := false
  name_minLength : name ≠ "" := by decide
  deriving DecidableEq, Repr

structure PartialAnalysisWarning where
  stage : String
  message : String
  deriving DecidableEq, Repr

structure RepositoryTreeEntry where
  name : String
  type : String
  deriving DecidableEq, Repr

structure RepositoryRawContext where
  target : ParsedRepoTarget
  repositoryUrl : String
  defaultBranch : String
  commitSha : String
  instantData : InstantMetadata
  readmeText : Option String := none
  readmeByteSize : Option Int := none
  treeEntries : List RepositoryTreeEntry := []
  openIssueCount : Option Int := none
  deriving DecidableEq, Repr

structure LLMPromptPayload where
  repositoryUrl : String
  cacheKey : String
  commitSha : String
  deterministicData : InstantMetadata
  promptText : String
  warnings : List PartialAnalysisWarning := []
  deriving DecidableEq, Repr

/-- The body of a queue message. -/
structure ResearchJobMessage where
  jobId : JobId
  repoUrl : String
  enqueuedAt : DateTime
  attempt : Nat := 1
  options : List (String × Json) := []
  attempt_ge : 1 ≤ attempt := by decide

structure RepoOverview where
  projectPurpose : String
  techStack : List String
  architecture : String
  deriving DecidableEq, Repr

structure SecurityHealth where
  riskLevel : RiskLevel
  aiConfidence : AIConfidence
  findings : List String := []
  limitations : List String := []
  deriving DecidableEq, Repr

structure Recommendations where
  items : List String
  deriving DecidableEq, Repr

structure StructuredAIResponse where
  overview : RepoOverview
  securityHealth : SecurityHealth
  recommendations : Recommendations
  deriving DecidableEq, Repr

structure ResearchReport where
  jobId : JobId
  repositoryUrl : String
  deterministicData : InstantMetadata
  aiInsights : Option StructuredAIResponse := none
  aiFallbackReason : Option String := none
  markdownReport : String
  createdAt : DateTime
  deriving DecidableEq, Repr

structure ResearchJobStateSnapshot where
  jobId : JobId
  status : JobStatus
  progressMsg : String
  updatedAt : DateTime
  instantData : Option InstantMetadata := none
  aiFallback : Option Bool := none
  aiFallbackReason : Option String := none
  error : Option String := none
  deriving DecidableEq, Repr

structure PollingStatusResponse where
  jobId : JobId
  status : JobStatus
  progressMsg : String
  updatedAt : DateTime
  instantData : Option InstantMetadata := none
  report : Option ResearchReport := none
  aiFallback : Option Bool := none
  aiFallbackReason : Option String := none
  error : Option String := none
  deriving DecidableEq, Repr

/-- What identifies one receive of one message: SQS issues a new handle with
every receive. -/
structure ReceiptHandle where
  message : Nat
  receive : Nat
  deriving DecidableEq, Repr

structure ReceivedMessage where
  receiptHandle : ReceiptHandle
  body : ResearchJobMessage
  receiveCount : Nat
  receiveCount_ge : 1 ≤ receiveCount

end ResearchTool
