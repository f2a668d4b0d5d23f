import ResearchTool.Pydantic.Fields
import ResearchTool.ReportRenderer

/-!
# JSON forms of the schemas

`model_dump(mode="json")` and validation for the models that cross a transport
boundary, field by field as `app/research/schema` declares them.  The JSON form
of a `datetime` and the validators of the built-in types are Pydantic's.
-/

namespace ResearchTool

open Pydantic Python

/-- The validators of the built-in types, in Python mode or in JSON mode. -/
structure Validators where
  text : Json → Option String
  int : Json → Option Int
  float : Json → Option PyFloat
  bool : Json → Option Bool
  datetime : Json → Option DateTime

/-- The decoder reads the text of a finite float as this float. -/
def Python.PyFloat.IsFinite (value : PyFloat) : Prop :=
  readNumber value.text.toList = some (.float value.text, [])

/-- A built-in type accepts its own values, and the JSON forms of datetimes and
finite floats are lossless. -/
structure Validators.Documented (validators : Validators) (datetimeJson : DateTime → String) :
    Prop where
  text : ∀ value, validators.text (.string value) = some value
  int : ∀ value, validators.int (.int value) = some value
  float : ∀ value : PyFloat, value.IsFinite → validators.float (.float value.text) = some value
  bool : ∀ value, validators.bool (.bool value) = some value
  datetime : ∀ value, validators.datetime (.string (datetimeJson value)) = some value

def JobStatus.literal : JobStatus → String
  | pending => "pending"
  | processing => "processing"
  | completed => "completed"
  | failed => "failed"

/-- Every percentage of the metadata is a finite number. -/
def InstantMetadata.IsFinite (metadata : InstantMetadata) : Prop :=
  ∀ entry ∈ metadata.languages, entry.percentage.IsFinite

def ResearchJobStateSnapshot.IsFinite (snapshot : ResearchJobStateSnapshot) : Prop :=
  ∀ metadata ∈ snapshot.instantData, metadata.IsFinite

namespace Encoding

section Schemas

variable (datetimeJson : DateTime → String) (validators : Validators)

def text : Codec String where
  dump := .string
  validate := validators.text

def int : Codec Int where
  dump := .int
  validate := validators.int

/-- `int = Field(ge=0)`. -/
def natural : Codec Nat where
  dump value := .int value
  validate json := (validators.int json).bind fun value =>
    if 0 ≤ value then some value.toNat else none

/-- `int = Field(ge=1)`. -/
def positive : Codec { value : Nat // 1 ≤ value } :=
  constrained (natural validators) (1 ≤ ·)

theorem one_le_attempt : 1 ≤ 1 :=
  Nat.le_refl 1

/-- The first attempt, which is the default. -/
def firstAttempt : { value : Nat // 1 ≤ value } :=
  ⟨1, one_le_attempt⟩

theorem ne_empty (name : { value : String // value ≠ "" }) : name.1 ≠ "" :=
  name.2

def float : Codec PyFloat where
  dump value := .float value.text
  validate := validators.float

def bool : Codec Bool where
  dump := .bool
  validate := validators.bool

def datetime : Codec DateTime where
  dump value := .string (datetimeJson value)
  validate := validators.datetime

def languageEntry : Codec LanguageEntry :=
  model
    ((required "name" (text validators)).and <|
      (required "percentage" (float validators)).and <|
      defaulted "color" none (optional (text validators)))
    (fun (name, percentage, color) => { name, percentage, color })
    fun entry => (entry.name, entry.percentage, entry.color)

def commitEntry : Codec CommitEntry :=
  model
    ((required "sha" (text validators)).and <|
      (required "message" (text validators)).and <|
      (required "committed_at" (datetime datetimeJson validators)).and <|
      defaulted "author_name" none (optional (text validators)))
    (fun (sha, message, committedAt, authorName) => { sha, message, committedAt, authorName })
    fun entry => (entry.sha, entry.message, entry.committedAt, entry.authorName)

def instantMetadata : Codec InstantMetadata :=
  model
    ((required "name" (constrained (text validators) (· ≠ ""))).and <|
      (defaulted "description" none (optional (text validators))).and <|
      (required "stars" (natural validators)).and <|
      (required "forks" (natural validators)).and <|
      (defaulted "primary_lang" none (optional (text validators))).and <|
      (defaulted "last_commit_at" none (optional (datetime datetimeJson validators))).and <|
      (defaulted "owner" none (optional (text validators))).and <|
      (defaulted "watchers" none (optional (int validators))).and <|
      (defaulted "open_issues" none (optional (int validators))).and <|
      (defaulted "license_spdx" none (optional (text validators))).and <|
      (defaulted "topics" [] (list (text validators))).and <|
      (defaulted "languages" [] (list (languageEntry validators))).and <|
      (defaulted "recent_commits" [] (list (commitEntry datetimeJson validators))).and <|
      (defaulted "is_archived" false (bool validators)).and <|
      defaulted "is_fork" false (bool validators))
    (fun (name, description, stars, forks, primaryLang, lastCommitAt, owner, watchers, openIssues,
        licenseSpdx, topics, languages, recentCommits, isArchived, isFork) =>
      { name := name.1, description, stars, forks, primaryLang, lastCommitAt, owner, watchers,
        openIssues, licenseSpdx, topics, languages, recentCommits, isArchived, isFork,
        name_minLength := ne_empty name })
    fun metadata => (⟨metadata.name, metadata.name_minLength⟩, metadata.description,
      metadata.stars, metadata.forks, metadata.primaryLang, metadata.lastCommitAt, metadata.owner,
      metadata.watchers, metadata.openIssues, metadata.licenseSpdx, metadata.topics,
      metadata.languages, metadata.recentCommits, metadata.isArchived, metadata.isFork)

def repoOverview : Codec RepoOverview :=
  model
    ((required "project_purpose" (text validators)).and <|
      (required "tech_stack" (list (text validators))).and <|
      required "architecture" (text validators))
    (fun (projectPurpose, techStack, architecture) => { projectPurpose, techStack, architecture })
    fun overview => (overview.projectPurpose, overview.techStack, overview.architecture)

def securityHealth : Codec SecurityHealth :=
  model
    ((required "risk_level" (literal [.low, .medium, .high] RiskLevel.literal)).and <|
      (required "ai_confidence" (literal [.high, .low] AIConfidence.literal)).and <|
      (defaulted "findings" [] (list (text validators))).and <|
      defaulted "limitations" [] (list (text validators)))
    (fun (riskLevel, aiConfidence, findings, limitations) =>
      { riskLevel, aiConfidence, findings, limitations })
    fun health => (health.riskLevel, health.aiConfidence, health.findings, health.limitations)

def recommendations : Codec Recommendations :=
  model (required "items" (list (text validators))) (fun items => { items })
    fun recommendations => recommendations.items

def structuredAIResponse : Codec StructuredAIResponse :=
  model
    ((required "overview" (repoOverview validators)).and <|
      (required "security_health" (securityHealth validators)).and <|
      required "recommendations" (recommendations validators))
    (fun (overview, securityHealth, recommendations) =>
      { overview, securityHealth, recommendations })
    fun response => (response.overview, response.securityHealth, response.recommendations)

def researchJobStateSnapshot : Codec ResearchJobStateSnapshot :=
  model
    ((required "job_id" (text validators)).and <|
      (required "status"
        (literal [.pending, .processing, .completed, .failed] JobStatus.literal)).and <|
      (required "progress_msg" (text validators)).and <|
      (required "updated_at" (datetime datetimeJson validators)).and <|
      (defaulted "instant_data" none (optional (instantMetadata datetimeJson validators))).and <|
      (defaulted "ai_fallback" none (optional (bool validators))).and <|
      (defaulted "ai_fallback_reason" none (optional (text validators))).and <|
      defaulted "error" none (optional (text validators)))
    (fun (jobId, status, progressMsg, updatedAt, instantData, aiFallback, aiFallbackReason,
        error) =>
      { jobId, status, progressMsg, updatedAt, instantData, aiFallback, aiFallbackReason, error })
    fun snapshot => (snapshot.jobId, snapshot.status, snapshot.progressMsg, snapshot.updatedAt,
      snapshot.instantData, snapshot.aiFallback, snapshot.aiFallbackReason, snapshot.error)

def researchJobMessage : Codec ResearchJobMessage :=
  model
    ((required "job_id" (text validators)).and <|
      (required "repo_url" (text validators)).and <|
      (required "enqueued_at" (datetime datetimeJson validators)).and <|
      (defaulted "attempt" firstAttempt (positive validators)).and <|
      defaulted "options" [] dictionary)
    (fun (jobId, repoUrl, enqueuedAt, attempt, options) =>
      { jobId, repoUrl, enqueuedAt, attempt := attempt.1, options, attempt_ge := attempt.2 })
    fun message => (message.jobId, message.repoUrl, message.enqueuedAt,
      ⟨message.attempt, message.attempt_ge⟩, message.options)

end Schemas

/-! ## What is dumped is read back -/

section Lawful

variable {datetimeJson : DateTime → String} {validators : Validators}

theorem riskLevel_lawful :
    (literal [.low, .medium, .high] RiskLevel.literal).Lawful fun _ => True :=
  literal_lawful (by intro left right; cases left <;> cases right <;> decide) fun value => by
    cases value <;> decide

theorem aiConfidence_lawful :
    (literal [.high, .low] AIConfidence.literal).Lawful fun _ => True :=
  literal_lawful (by intro left right; cases left <;> cases right <;> decide) fun value => by
    cases value <;> decide

theorem jobStatus_lawful :
    (literal [.pending, .processing, .completed, .failed] JobStatus.literal).Lawful
      fun _ => True :=
  literal_lawful (by intro left right; cases left <;> cases right <;> decide) fun value => by
    cases value <;> decide

theorem text_present : (text validators).Present := fun _ => Json.noConfusion

theorem int_present : (int validators).Present := fun _ => Json.noConfusion

theorem bool_present : (bool validators).Present := fun _ => Json.noConfusion

theorem datetime_present : (datetime datetimeJson validators).Present := fun _ => Json.noConfusion

variable (documented : validators.Documented datetimeJson)

include documented

theorem text_lawful : (text validators).Lawful fun _ => True where
  reads value _ := documented.text value
  written _ _ := trivial

theorem int_lawful : (int validators).Lawful fun _ => True where
  reads value _ := documented.int value
  written _ _ := trivial

theorem natural_lawful : (natural validators).Lawful fun _ => True where
  reads value _ := by
    have read := documented.int (value : Int)
    simp only [natural, read, Option.bind_some, if_pos (Int.natCast_nonneg value),
      Int.toNat_natCast]
  written _ _ := trivial

theorem positive_lawful : (positive validators).Lawful fun _ => True :=
  constrained_lawful (natural_lawful documented)

theorem float_lawful : (float validators).Lawful PyFloat.IsFinite where
  reads value finite := documented.float value finite
  written _ finite := finite

theorem bool_lawful : (bool validators).Lawful fun _ => True where
  reads value _ := documented.bool value
  written _ _ := trivial

theorem datetime_lawful : (datetime datetimeJson validators).Lawful fun _ => True where
  reads value _ := documented.datetime value
  written _ _ := trivial

theorem optionalText_lawful : (optional (text validators)).Lawful fun _ => True :=
  (optional_lawful (text_lawful documented) text_present).mono fun _ _ _ _ => trivial

theorem texts_lawful : (list (text validators)).Lawful fun _ => True :=
  (list_lawful (text_lawful documented)).mono fun _ _ _ _ => trivial

theorem languageEntry_lawful :
    (languageEntry validators).Lawful fun entry => entry.percentage.IsFinite :=
  (model_lawful
    ((required_lawful "name" (text_lawful documented)).and <|
      (required_lawful "percentage" (float_lawful documented)).and <|
      defaulted_lawful "color" none (optionalText_lawful documented))
    (by simp) fun _ => rfl).mono fun _ finite => ⟨trivial, finite, trivial⟩

theorem commitEntry_lawful : (commitEntry datetimeJson validators).Lawful fun _ => True :=
  (model_lawful
    ((required_lawful "sha" (text_lawful documented)).and <|
      (required_lawful "message" (text_lawful documented)).and <|
      (required_lawful "committed_at" (datetime_lawful documented)).and <|
      defaulted_lawful "author_name" none (optionalText_lawful documented))
    (by simp) fun _ => rfl).mono fun _ _ => ⟨trivial, trivial, trivial, trivial⟩

theorem instantMetadata_lawful :
    (instantMetadata datetimeJson validators).Lawful InstantMetadata.IsFinite :=
  (model_lawful
    ((required_lawful "name" (constrained_lawful (text_lawful documented))).and <|
      (defaulted_lawful "description" none (optionalText_lawful documented)).and <|
      (required_lawful "stars" (natural_lawful documented)).and <|
      (required_lawful "forks" (natural_lawful documented)).and <|
      (defaulted_lawful "primary_lang" none (optionalText_lawful documented)).and <|
      (defaulted_lawful "last_commit_at" none
        (optional_lawful (datetime_lawful documented) datetime_present)).and <|
      (defaulted_lawful "owner" none (optionalText_lawful documented)).and <|
      (defaulted_lawful "watchers" none
        (optional_lawful (int_lawful documented) int_present)).and <|
      (defaulted_lawful "open_issues" none
        (optional_lawful (int_lawful documented) int_present)).and <|
      (defaulted_lawful "license_spdx" none (optionalText_lawful documented)).and <|
      (defaulted_lawful "topics" [] (texts_lawful documented)).and <|
      (defaulted_lawful "languages" [] (list_lawful (languageEntry_lawful documented))).and <|
      (defaulted_lawful "recent_commits" [] (list_lawful (commitEntry_lawful documented))).and <|
      (defaulted_lawful "is_archived" false (bool_lawful documented)).and <|
      defaulted_lawful "is_fork" false (bool_lawful documented))
    (by simp) fun _ => rfl).mono fun _ finite => by
      simp only [implies_true, true_and, and_true]
      exact finite

theorem repoOverview_lawful : (repoOverview validators).Lawful fun _ => True :=
  (model_lawful
    ((required_lawful "project_purpose" (text_lawful documented)).and <|
      (required_lawful "tech_stack" (texts_lawful documented)).and <|
      required_lawful "architecture" (text_lawful documented))
    (by simp) fun _ => rfl).mono fun _ _ => ⟨trivial, trivial, trivial⟩

theorem securityHealth_lawful : (securityHealth validators).Lawful fun _ => True :=
  (model_lawful
    ((required_lawful "risk_level" riskLevel_lawful).and <|
      (required_lawful "ai_confidence" aiConfidence_lawful).and <|
      (defaulted_lawful "findings" [] (texts_lawful documented)).and <|
      defaulted_lawful "limitations" [] (texts_lawful documented))
    (by simp) fun _ => rfl).mono fun _ _ => ⟨trivial, trivial, trivial, trivial⟩

theorem recommendations_lawful : (recommendations validators).Lawful fun _ => True :=
  model_lawful (required_lawful "items" (texts_lawful documented)) (by simp) fun _ => rfl

/-- Every analysis is read back from its JSON form. -/
theorem structuredAIResponse_lawful : (structuredAIResponse validators).Lawful fun _ => True :=
  (model_lawful
    ((required_lawful "overview" (repoOverview_lawful documented)).and <|
      (required_lawful "security_health" (securityHealth_lawful documented)).and <|
      required_lawful "recommendations" (recommendations_lawful documented))
    (by simp) fun _ => rfl).mono fun _ _ => ⟨trivial, trivial, trivial⟩

/-- A snapshot with finite percentages is read back from its JSON form. -/
theorem researchJobStateSnapshot_lawful :
    (researchJobStateSnapshot datetimeJson validators).Lawful ResearchJobStateSnapshot.IsFinite :=
  (model_lawful
    ((required_lawful "job_id" (text_lawful documented)).and <|
      (required_lawful "status" jobStatus_lawful).and <|
      (required_lawful "progress_msg" (text_lawful documented)).and <|
      (required_lawful "updated_at" (datetime_lawful documented)).and <|
      (defaulted_lawful "instant_data" none
        (optional_lawful (instantMetadata_lawful documented) (model_present _ _ _))).and <|
      (defaulted_lawful "ai_fallback" none
        (optional_lawful (bool_lawful documented) bool_present)).and <|
      (defaulted_lawful "ai_fallback_reason" none (optionalText_lawful documented)).and <|
      defaulted_lawful "error" none (optionalText_lawful documented))
    (by simp) fun _ => rfl).mono fun _ finite => by
      simp only [implies_true, true_and, and_true]
      exact finite

/-- A message whose options are a JSON object is read back from its JSON form. -/
theorem researchJobMessage_lawful :
    (researchJobMessage datetimeJson validators).Lawful fun message =>
      IsDictionary message.options := by
  have fields :=
    (required_lawful "job_id" (text_lawful documented)).and <|
      (required_lawful "repo_url" (text_lawful documented)).and <|
      (required_lawful "enqueued_at" (datetime_lawful documented)).and <|
      (defaulted_lawful "attempt" firstAttempt (positive_lawful documented)).and <|
      defaulted_lawful "options" [] dictionary_lawful
  refine (model_lawful fields (by simp) fun message => ?_).mono ?_
  · rfl
  · exact fun _ object => ⟨trivial, trivial, trivial, trivial, object⟩

end Lawful

end Encoding

end ResearchTool
