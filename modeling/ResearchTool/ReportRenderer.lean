import ResearchTool.Schema
import ResearchTool.Python.Text

/-!
# Report rendering

`build_markdown_report` and `build_research_report`.  The Markdown text is a
list of lines: the deterministic part, then either the AI sections or the
`AI Analysis` section that declares them unavailable.
-/

namespace ResearchTool

open Python

/-- `value or fallback` for an optional string. -/
def orDefault (value : Option String) (fallback : String) : String :=
  match value with
  | some text => if text = "" then fallback else text
  | none => fallback

/-- A number with at least `width` digits. -/
def zeroPadded (width n : Nat) : String :=
  let digits := toString n
  String.ofList (List.replicate (width - digits.length) '0') ++ digits

theorem isDigit_of_mem_zeroPadded {width n : Nat} {c : Char}
    (member : c ∈ (zeroPadded width n).toList) :
    c.isDigit = true := by
  rw [zeroPadded, String.toList_append, String.toList_ofList] at member
  rcases List.mem_append.mp member with padding | digit
  · rw [List.eq_of_mem_replicate padding]
    rfl
  · exact isDigit_of_mem_toString digit

/-- `str(datetime)`. -/
def DateTime.str (d : DateTime) : String :=
  let fraction := if d.microsecond = 0 then "" else "." ++ zeroPadded 6 d.microsecond
  let offset :=
    match d.offsetMinutes with
    | none => ""
    | some minutes =>
        (if minutes < 0 then "-" else "+") ++ zeroPadded 2 (minutes.natAbs / 60) ++ ":" ++
          zeroPadded 2 (minutes.natAbs % 60)
  zeroPadded 4 d.year ++ "-" ++ zeroPadded 2 d.month ++ "-" ++ zeroPadded 2 d.day ++ " " ++
    zeroPadded 2 d.hour ++ ":" ++ zeroPadded 2 d.minute ++ ":" ++ zeroPadded 2 d.second ++
    fraction ++ offset

def RiskLevel.literal : RiskLevel → String
  | low => "Low"
  | medium => "Medium"
  | high => "High"

def AIConfidence.literal : AIConfidence → String
  | high => "High"
  | low => "Low"

/-- A labelled number, omitted when it is `None`. -/
def optionalLine (label : String) : Option Int → List String
  | some value => [label ++ toString value]
  | none => []

def bulletLines (items : List String) : List String :=
  items.map ("- " ++ ·)

/-- A titled list after a blank line, omitted when it has no items. -/
def optionalSection (title : String) (items : List String) : List String :=
  if items.isEmpty then [] else "" :: title :: bulletLines items

/-- The block of repository facts.  The blank conditional lines are already
dropped; one blank line closes the block. -/
def overviewLines (rawContext : RepositoryRawContext) : List String :=
  let d := rawContext.instantData
  [ "# Repository Overview",
    "- Repository: " ++ rawContext.target.owner ++ "/" ++ rawContext.target.repo,
    "- Name: " ++ d.name,
    "- Description: " ++ orDefault d.description "No description provided",
    "- Stars: " ++ toString d.stars,
    "- Forks: " ++ toString d.forks ] ++
  optionalLine "- Watchers: " d.watchers ++
  optionalLine "- Open Issues: " d.openIssues ++
  ["- Primary Language: " ++ orDefault d.primaryLang "Unknown"] ++
  (match d.licenseSpdx with
    | some spdx => if spdx = "" then [] else ["- License: " ++ spdx]
    | none => []) ++
  (if d.isArchived then ["- Archived: Yes"] else []) ++
  (if d.isFork then ["- Fork: Yes"] else []) ++
  ["- Last Commit: " ++ (d.lastCommitAt.map DateTime.str).getD "Unknown", ""]

/-- Topics, languages and recent commits, each only when there is something
to list. -/
def activityLines (d : InstantMetadata) : List String :=
  (if d.topics.isEmpty then [] else ["## Topics", ", ".intercalate d.topics, ""]) ++
  (if d.languages.isEmpty then []
    else "## Languages" ::
      d.languages.map
        (fun language => "- " ++ language.name ++ ": " ++ language.percentage.text ++ "%") ++
      [""]) ++
  (if d.recentCommits.isEmpty then []
    else "## Recent Activity" ::
      (d.recentCommits.take 10).map (fun commit =>
        "- `" ++ commit.sha ++ "` " ++ commit.message ++
          (match commit.authorName with
            | some author => if author = "" then "" else " — " ++ author
            | none => "")) ++
      [""])

def insightLines (insights : StructuredAIResponse) : List String :=
  [ "## Project Insights", insights.overview.projectPurpose, "", "## Tech Stack" ] ++
  bulletLines insights.overview.techStack ++
  [ "", "## Architecture", insights.overview.architecture, "", "## Security & Health",
    "- Risk Level: " ++ insights.securityHealth.riskLevel.literal,
    "- AI Confidence: " ++ insights.securityHealth.aiConfidence.literal ] ++
  optionalSection "### Findings" insights.securityHealth.findings ++
  optionalSection "### Limitations" insights.securityHealth.limitations ++
  optionalSection "## Recommendations" insights.recommendations.items

/-- The section that replaces the AI sections when there are no insights. -/
def unavailableLines (aiFallbackReason : Option String) : List String :=
  [ "## AI Analysis",
    "AI insights were unavailable for this run.",
    "- Reason: " ++ orDefault aiFallbackReason "No reason provided" ]

/-- `"\n".join(lines).strip()`. -/
def renderLines (lines : List String) : String :=
  String.ofList (strip (join ['\n'] (lines.map String.toList)))

/-- `build_markdown_report`. -/
def buildMarkdownReport (rawContext : RepositoryRawContext)
    (aiInsights : Option StructuredAIResponse) (aiFallbackReason : Option String) : String :=
  renderLines (overviewLines rawContext ++ activityLines rawContext.instantData ++
    match aiInsights with
    | some insights => insightLines insights
    | none => unavailableLines aiFallbackReason)

/-- Two reports whose lines part at a character that is not white space. -/
theorem renderLines_ne {title left right : String} {lines leftLines rightLines : List String}
    {first c d : Char} {titleRest common leftRest rightRest : Text}
    (titleText : title.toList = first :: titleRest)
    (leftText : left.toList = common ++ c :: leftRest)
    (rightText : right.toList = common ++ d :: rightRest) (keepFirst : isSpace first = false)
    (keepLeft : isSpace c = false) (keepRight : isSpace d = false) (differ : c ≠ d) :
    renderLines (title :: lines ++ left :: leftLines) ≠
      renderLines (title :: lines ++ right :: rightLines) := by
  obtain ⟨body, head⟩ := join_cons ['\n'] title.toList (lines.map String.toList)
  obtain ⟨leftMore, leftJoined⟩ := join_cons ['\n'] left.toList (leftLines.map String.toList)
  obtain ⟨rightMore, rightJoined⟩ := join_cons ['\n'] right.toList (rightLines.map String.toList)
  rw [titleText] at head
  rw [leftText] at leftJoined
  rw [rightText] at rightJoined
  have parted := stripBy_ne_of_differ (titleRest ++ body ++ ['\n'] ++ common)
    (leftRest ++ leftMore) (rightRest ++ rightMore) keepFirst keepLeft keepRight differ
  intro same
  apply parted
  have same := String.ofList_injective same
  simp only [List.map_append, List.map_cons, join_append_cons, head, leftJoined, rightJoined,
    titleText, leftText, rightText, strip] at same
  simpa using same

/-- The AI sections and the section that replaces them cannot be confused. -/
theorem buildMarkdownReport_ne (rawContext : RepositoryRawContext)
    (insights : StructuredAIResponse) (reason other : Option String) :
    buildMarkdownReport rawContext (some insights) reason ≠
      buildMarkdownReport rawContext none other := by
  have title : "# Repository Overview".toList = '#' :: " Repository Overview".toList := by
    decide +kernel
  have insightTitle : "## Project Insights".toList =
      "## ".toList ++ 'P' :: "roject Insights".toList := by
    decide +kernel
  have unavailableTitle : "## AI Analysis".toList =
      "## ".toList ++ 'A' :: "I Analysis".toList := by
    decide +kernel
  exact renderLines_ne title insightTitle unavailableTitle rfl rfl rfl (by decide)

/-- `build_research_report`; `now` is the clock reading stored as
`created_at`. -/
def buildResearchReport (now : DateTime) (jobId : JobId) (rawContext : RepositoryRawContext)
    (aiInsights : Option StructuredAIResponse) (aiFallbackReason : Option String) :
    ResearchReport where
  jobId := jobId
  repositoryUrl := rawContext.repositoryUrl
  deterministicData := rawContext.instantData
  aiInsights := aiInsights
  aiFallbackReason := aiFallbackReason
  markdownReport := buildMarkdownReport rawContext aiInsights aiFallbackReason
  createdAt := now

end ResearchTool
