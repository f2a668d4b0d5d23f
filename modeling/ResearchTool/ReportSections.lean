import Mathlib.Data.List.ModifyLast
import ResearchTool.Markdown.Document
import ResearchTool.Pipeline

/-!
# The sections of a report

The renderer writes the AI's texts among its own lines as they are.  A text of
several lines can bring lines along that read like headings, and so forge a
section of the trusted facts.
-/

namespace ResearchTool

open Python Markdown

/-! ## The pieces of a report -/

/-- A line that is meant as text. -/
def plainLine (text : String) : Piece where
  isTitle := false
  text := text.toList

def titleLine (text : String) : Piece where
  isTitle := true
  text := text.toList

/-- A section that begins with its title, if it is there at all. -/
def sectionPieces (present : Bool) (title : String) (lines : List String) : List Piece :=
  if present then titleLine title :: lines.map plainLine else []

def languageLine (language : LanguageEntry) : String :=
  "- " ++ language.name ++ ": " ++ language.percentage.text ++ "%"

def commitLine (commit : CommitEntry) : String :=
  "- `" ++ commit.sha ++ "` " ++ commit.message ++
    (match commit.authorName with
      | some author => if author = "" then "" else " — " ++ author
      | none => "")

/-- The deterministic part of a report. -/
def contextPieces (rawContext : RepositoryRawContext) : List Piece :=
  let d := rawContext.instantData
  sectionPieces true "# Repository Overview" ((overviewLines rawContext).drop 1) ++
  sectionPieces (!d.topics.isEmpty) "## Topics" [", ".intercalate d.topics, ""] ++
  sectionPieces (!d.languages.isEmpty) "## Languages" (d.languages.map languageLine ++ [""]) ++
  sectionPieces (!d.recentCommits.isEmpty) "## Recent Activity"
    ((d.recentCommits.take 10).map commitLine ++ [""])

def bulletPieces (items : List String) : List Piece :=
  (bulletLines items).map plainLine

def optionalPieces (title : String) (items : List String) : List Piece :=
  if items.isEmpty then [] else plainLine "" :: titleLine title :: bulletPieces items

/-- The AI sections up to the assessment, which are always there. -/
def assessmentPieces (insights : StructuredAIResponse) : List Piece :=
  [titleLine "## Project Insights", plainLine insights.overview.projectPurpose, plainLine "",
    titleLine "## Tech Stack"] ++
  bulletPieces insights.overview.techStack ++
  [plainLine "", titleLine "## Architecture", plainLine insights.overview.architecture,
    plainLine "", titleLine "## Security & Health",
    plainLine ("- Risk Level: " ++ insights.securityHealth.riskLevel.literal),
    plainLine ("- AI Confidence: " ++ insights.securityHealth.aiConfidence.literal)]

def insightPieces (insights : StructuredAIResponse) : List Piece :=
  assessmentPieces insights ++
  optionalPieces "### Findings" insights.securityHealth.findings ++
  optionalPieces "### Limitations" insights.securityHealth.limitations ++
  optionalPieces "## Recommendations" insights.recommendations.items

def unavailablePieces (aiFallbackReason : Option String) : List Piece :=
  [titleLine "## AI Analysis", plainLine "AI insights were unavailable for this run.",
    plainLine ("- Reason: " ++ orDefault aiFallbackReason "No reason provided")]

/-- The part of a report that depends on the AI outcome. -/
def aiPieces (analysis : Analysis) : List Piece :=
  match analysis.aiInsights with
  | some insights => insightPieces insights
  | none => unavailablePieces analysis.aiFallbackReason

/-- The report of a context and an AI outcome. -/
def reportText (rawContext : RepositoryRawContext) (analysis : Analysis) : Text :=
  (buildMarkdownReport rawContext analysis.aiInsights analysis.aiFallbackReason).toList

@[simp]
theorem map_text_plainLine (lines : List String) :
    (lines.map plainLine).map Piece.text = lines.map String.toList := by
  rw [List.map_map]
  rfl

theorem map_text_sectionPieces (present : Bool) (title : String) (lines : List String) :
    (sectionPieces present title lines).map Piece.text =
      (if present then title :: lines else []).map String.toList := by
  unfold sectionPieces
  cases present
  · rfl
  · exact congrArg (title.toList :: ·) (map_text_plainLine lines)

theorem map_text_contextPieces (rawContext : RepositoryRawContext) :
    (contextPieces rawContext).map Piece.text =
      (overviewLines rawContext ++ activityLines rawContext.instantData).map String.toList := by
  have overview : overviewLines rawContext =
    "# Repository Overview" :: (overviewLines rawContext).drop 1 := rfl
  have topics : ∀ {α : Type} (list : List α) (lines : List String),
      (if (!list.isEmpty) = true then lines else []) = if list.isEmpty then [] else lines := by
    intro α list lines
    cases list <;> rfl
  unfold contextPieces activityLines
  simp only [List.map_append, map_text_sectionPieces, topics, if_true, ← overview,
    List.append_assoc]
  rfl

theorem map_text_optionalPieces (title : String) (items : List String) :
    (optionalPieces title items).map Piece.text =
      (optionalSection title items).map String.toList := by
  unfold optionalPieces optionalSection
  cases items.isEmpty
  · simp [bulletPieces, plainLine, titleLine]
  · rfl

theorem map_text_aiPieces (analysis : Analysis) :
    (aiPieces analysis).map Piece.text =
      (match analysis.aiInsights with
        | some insights => insightLines insights
        | none => unavailableLines analysis.aiFallbackReason).map String.toList := by
  unfold aiPieces
  cases analysis.aiInsights with
  | none => rfl
  | some insights =>
      simp only [insightPieces, assessmentPieces, insightLines, List.map_append,
        map_text_optionalPieces, bulletPieces, map_text_plainLine]
      rfl

/-- A report is the document of its pieces. -/
theorem reportText_eq (rawContext : RepositoryRawContext) (analysis : Analysis) :
    reportText rawContext analysis = render (contextPieces rawContext ++ aiPieces analysis) := by
  have pieces : (contextPieces rawContext ++ aiPieces analysis).map Piece.text =
      (overviewLines rawContext ++ activityLines rawContext.instantData ++
        match analysis.aiInsights with
        | some insights => insightLines insights
        | none => unavailableLines analysis.aiFallbackReason).map String.toList := by
    rw [List.map_append, map_text_contextPieces, map_text_aiPieces, ← List.map_append]
  unfold reportText buildMarkdownReport renderLines
  rw [String.toList_ofList]
  exact congrArg (fun lines => strip (join ['\n'] lines)) pieces.symm

/-! ## Trusted lines -/

/-- The text is one line. -/
def OneLine (text : String) : Prop :=
  '\n' ∉ text.toList

theorem OneLine.append {first second : String} (before : OneLine first) (after : OneLine second) :
    OneLine (first ++ second) := by
  simp only [OneLine, String.toList_append, List.mem_append, not_or]
  exact ⟨before, after⟩

theorem oneLine_natToString (n : Nat) : OneLine (toString n) := by
  intro member
  have digit := isDigit_of_mem_toString member
  cases digit

theorem oneLine_intToString (n : Int) : OneLine (toString n) := by
  intro member
  rcases mem_toString_int member with sign | digit
  · cases sign
  · cases digit

theorem oneLine_zeroPadded (width n : Nat) : OneLine (zeroPadded width n) := by
  intro member
  have digit := isDigit_of_mem_zeroPadded member
  cases digit

theorem oneLine_dateTime (d : DateTime) : OneLine d.str := by
  have dash : OneLine "-" := by simp [OneLine]
  have blank : OneLine " " := by simp [OneLine]
  have colon : OneLine ":" := by simp [OneLine]
  have dot : OneLine "." := by simp [OneLine]
  have plus : OneLine "+" := by simp [OneLine]
  have empty : OneLine "" := by simp [OneLine]
  have padded := oneLine_zeroPadded
  have fraction : OneLine
      (if d.microsecond = 0 then "" else "." ++ zeroPadded 6 d.microsecond) := by
    by_cases whole : d.microsecond = 0
    · rw [if_pos whole]
      exact empty
    · rw [if_neg whole]
      exact dot.append (padded _ _)
  have sign : ∀ minutes : Int, OneLine (if minutes < 0 then "-" else "+") := by
    intro minutes
    by_cases west : minutes < 0
    · rw [if_pos west]
      exact dash
    · rw [if_neg west]
      exact plus
  have date :
      OneLine (zeroPadded 4 d.year ++ "-" ++ zeroPadded 2 d.month ++ "-" ++ zeroPadded 2 d.day) :=
    ((((padded _ _).append dash).append (padded _ _)).append dash).append (padded _ _)
  have moment := ((((((date.append blank).append (padded 2 d.hour)).append colon).append
    (padded 2 d.minute)).append colon).append (padded 2 d.second)).append fraction
  apply moment.append
  cases d.offsetMinutes with
  | none => exact empty
  | some minutes => exact (((sign minutes).append (padded _ _)).append colon).append (padded _ _)

/-- A line that a reader takes for text. -/
def IsPlain (line : String) : Prop :=
  OneLine line ∧ isHeading line.toList = false

theorem isPlain_empty : IsPlain "" := by
  simp [IsPlain, OneLine, isHeading]

theorem isPlain_label {label text : String} (formed : IsLabel label.toList)
    (oneLine : OneLine text) :
    IsPlain (label ++ text) := by
  have labelLine : OneLine label := formed.1
  obtain ⟨c, marks, starts, other, _⟩ := formed.exists_eq_cons
  constructor
  · exact labelLine.append oneLine
  · rw [String.toList_append, starts]
    exact isHeading_cons_of_ne _ other

/-- No text of the pieces reads like a heading. -/
def Quiet (pieces : List Piece) : Prop :=
  ∀ piece ∈ pieces, piece.isTitle = false → headings piece.text = []

theorem quiet_append {first second : List Piece} :
    Quiet (first ++ second) ↔ Quiet first ∧ Quiet second :=
  List.forall_mem_append

theorem quiet_plainLine {lines : List String} :
    Quiet (lines.map plainLine) ↔ ∀ line ∈ lines, headings line.toList = [] := by
  rw [Quiet, List.forall_mem_map]
  constructor
  · exact fun quiet line member => quiet line member rfl
  · exact fun quiet line member _ => quiet line member

theorem quiet_nil : Quiet [] :=
  List.forall_mem_nil _

theorem quiet_titleLine_cons {title : String} {rest : List Piece} :
    Quiet (titleLine title :: rest) ↔ Quiet rest := by
  simp [Quiet, titleLine]

theorem quiet_plainLine_cons {line : String} {rest : List Piece} :
    Quiet (plainLine line :: rest) ↔ headings line.toList = [] ∧ Quiet rest := by
  simp [Quiet, plainLine]

theorem IsPlain.headings {line : String} (plain : IsPlain line) : headings line.toList = [] :=
  headings_of_not_mem plain.1 plain.2

theorem quiet_sectionPieces (present : Bool) (title : String) {lines : List String}
    (plain : ∀ line ∈ lines, IsPlain line) : Quiet (sectionPieces present title lines) := by
  cases present with
  | false =>
      intro piece member
      cases member
  | true =>
      have quiet : Quiet (lines.map plainLine) :=
        quiet_plainLine.mpr fun line member => (plain line member).headings
      intro piece member untitled
      rcases List.mem_cons.mp member with rfl | inside
      · cases untitled
      · exact quiet piece inside untitled

/-! ## Trusted contexts -/

/-- The characters of GitHub's topic names. -/
def isTopicChar (c : Char) : Bool :=
  ('a' ≤ c && c ≤ 'z') || isAsciiDigit c || c == '-'

def IsTopicSlug (topic : String) : Prop :=
  topic ≠ "" ∧ ∀ c ∈ topic.toList, isTopicChar c = true

structure CommitEntry.SingleLine (commit : CommitEntry) : Prop where
  sha : OneLine commit.sha
  message : OneLine commit.message
  authorName : ∀ author ∈ commit.authorName, OneLine author

/-- The metadata that a report shows is on single lines, and the topics are
slugs. -/
structure RepositoryRawContext.SingleLine (rawContext : RepositoryRawContext) : Prop where
  owner : OneLine rawContext.target.owner
  repo : OneLine rawContext.target.repo
  name : OneLine rawContext.instantData.name
  description : ∀ text ∈ rawContext.instantData.description, OneLine text
  primaryLang : ∀ language ∈ rawContext.instantData.primaryLang, OneLine language
  licenseSpdx : ∀ spdx ∈ rawContext.instantData.licenseSpdx, OneLine spdx
  topics : ∀ topic ∈ rawContext.instantData.topics, IsTopicSlug topic
  languages : ∀ language ∈ rawContext.instantData.languages, OneLine language.name
  recentCommits : ∀ commit ∈ rawContext.instantData.recentCommits, commit.SingleLine

theorem oneLine_orDefault {value : Option String} {fallback : String}
    (given : ∀ text ∈ value, OneLine text) (default : OneLine fallback) :
    OneLine (orDefault value fallback) := by
  cases value with
  | none => exact default
  | some text =>
      by_cases empty : text = ""
      · simpa [orDefault, empty] using default
      · simpa [orDefault, empty] using given text rfl

theorem plain_optionalLine {label : String} (formed : IsLabel label.toList) (value : Option Int) :
    ∀ line ∈ optionalLine label value, IsPlain line := by
  intro line member
  cases value with
  | none => cases member
  | some value =>
      rw [optionalLine, List.mem_singleton] at member
      rw [member]
      exact isPlain_label formed (oneLine_intToString value)

theorem plain_overviewLines {rawContext : RepositoryRawContext} (trusted : rawContext.SingleLine) :
    ∀ line ∈ (overviewLines rawContext).drop 1, IsPlain line := by
  have slash : OneLine "/" := by simp [OneLine]
  have unknown : OneLine "Unknown" := by simp [OneLine]
  have undescribed : OneLine "No description provided" := by simp [OneLine]
  have committed :
      OneLine ((rawContext.instantData.lastCommitAt.map DateTime.str).getD "Unknown") := by
    cases rawContext.instantData.lastCommitAt with
    | none => exact unknown
    | some moment => exact oneLine_dateTime moment
  have license : ∀ line ∈ (match rawContext.instantData.licenseSpdx with
      | some spdx => if spdx = "" then [] else ["- License: " ++ spdx]
      | none => []), IsPlain line := by
    have given := trusted.licenseSpdx
    intro line member
    cases present : rawContext.instantData.licenseSpdx with
    | none =>
        rw [present] at member
        cases member
    | some spdx =>
        rw [present] at member given
        by_cases empty : spdx = ""
        · simp [empty] at member
        · simp only [empty, if_false, List.mem_singleton] at member
          rw [member]
          exact isPlain_label (by simp [IsLabel, isSpace]) (given spdx rfl)
  have flag : ∀ (condition : Bool) (label : String), IsPlain label →
      ∀ line ∈ (if condition then [label] else []), IsPlain line := by
    intro condition label plain line member
    cases condition
    · cases member
    · rwa [List.mem_singleton.mp member]
  unfold overviewLines
  simp only [List.append_assoc, List.cons_append, List.drop_succ_cons, List.drop_zero,
    List.nil_append, List.forall_mem_cons, List.forall_mem_append]
  constructor
  · have full := (trusted.owner.append slash).append trusted.repo
    have plain : IsPlain ("- Repository: " ++
        (rawContext.target.owner ++ "/" ++ rawContext.target.repo)) :=
      isPlain_label (by simp [IsLabel, isSpace]) full
    simpa only [String.append_assoc] using plain
  constructor
  · exact isPlain_label (by simp [IsLabel, isSpace]) trusted.name
  constructor
  · exact isPlain_label (by simp [IsLabel, isSpace])
      (oneLine_orDefault trusted.description undescribed)
  constructor
  · exact isPlain_label (by simp [IsLabel, isSpace]) (oneLine_natToString _)
  constructor
  · exact isPlain_label (by simp [IsLabel, isSpace]) (oneLine_natToString _)
  constructor
  · exact plain_optionalLine (by simp [IsLabel, isSpace]) _
  constructor
  · exact plain_optionalLine (by simp [IsLabel, isSpace]) _
  constructor
  · exact isPlain_label (by simp [IsLabel, isSpace])
      (oneLine_orDefault trusted.primaryLang unknown)
  constructor
  · exact license
  constructor
  · exact flag _ _ (by simp [IsPlain, OneLine, isHeading, List.isPrefixOf])
  constructor
  · exact flag _ _ (by simp [IsPlain, OneLine, isHeading, List.isPrefixOf])
  constructor
  · exact isPlain_label (by simp [IsLabel, isSpace]) committed
  constructor
  · exact isPlain_empty
  · simp

theorem oneLine_topic {topic : String} (slug : IsTopicSlug topic) : OneLine topic := by
  intro member
  have letter := slug.2 _ member
  cases letter

theorem oneLine_intercalate {separator : String} (apart : OneLine separator) {items : List String}
    (lines : ∀ item ∈ items, OneLine item) : OneLine (separator.intercalate items) := by
  induction items with
  | nil => simp [OneLine]
  | cons item rest ih =>
      have later := ih fun other member => lines other (List.mem_cons_of_mem _ member)
      have line := lines item List.mem_cons_self
      cases rest with
      | nil => simpa using line
      | cons second rest =>
          rw [String.intercalate_cons_cons]
          exact (line.append apart).append later

/-- A list of slugs is one line that begins with a slug. -/
theorem plain_topics {topics : List String} (slugs : ∀ topic ∈ topics, IsTopicSlug topic) :
    IsPlain (", ".intercalate topics) := by
  cases topics with
  | nil => exact isPlain_empty
  | cons topic rest =>
      have slug := slugs topic List.mem_cons_self
      have apart : OneLine ", " := by simp [OneLine]
      have joined : (", ".intercalate (topic :: rest)).toList =
          join ", ".toList (topic.toList :: rest.map String.toList) := by
        rw [String.toList_intercalate]
        rfl
      constructor
      · have lines :=
          oneLine_intercalate apart fun other member => oneLine_topic (slugs other member)
        exact lines
      · obtain ⟨more, headed⟩ := join_cons ", ".toList topic.toList (rest.map String.toList)
        obtain ⟨c, letters, spelled⟩ := List.exists_cons_of_ne_nil
          (fun empty => slug.1 (String.toList_inj.mp empty) : topic.toList ≠ [])
        have letter := slug.2 c (by simp [spelled])
        rw [joined, headed, spelled]
        apply isHeading_cons_of_ne
        rintro rfl
        cases letter

theorem plain_languageLine {language : LanguageEntry} (named : OneLine language.name) :
    IsPlain (languageLine language) := by
  have colon : OneLine ": " := by simp [OneLine]
  have percent : OneLine "%" := by simp [OneLine]
  have full := ((named.append colon).append language.percentage.oneLine).append percent
  have plain : IsPlain ("- " ++ (language.name ++ ": " ++ language.percentage.text ++ "%")) :=
    isPlain_label (by simp [IsLabel, isSpace]) full
  simpa [languageLine, String.append_assoc] using plain

theorem plain_commitLine {commit : CommitEntry} (single : commit.SingleLine) :
    IsPlain (commitLine commit) := by
  have quote : OneLine "` " := by simp [OneLine]
  have dash : OneLine " — " := by simp [OneLine]
  have author : OneLine (match commit.authorName with
      | some author => if author = "" then "" else " — " ++ author
      | none => "") := by
    have given := single.authorName
    cases present : commit.authorName with
    | none => simp [OneLine]
    | some author =>
        rw [present] at given
        by_cases empty : author = ""
        · simp [empty, OneLine]
        · simpa [empty] using dash.append (given author rfl)
  have full := ((single.sha.append quote).append single.message).append author
  have label : IsLabel "- `".toList := by simp [IsLabel, isSpace]
  have plain := isPlain_label label full
  simpa [commitLine, String.append_assoc] using plain

theorem forall_plain_block {lines : List String} (plain : ∀ line ∈ lines, IsPlain line) :
    ∀ line ∈ lines ++ [""], IsPlain line := by
  rw [List.forall_mem_append]
  exact ⟨plain, by simp [isPlain_empty]⟩

/-- A trusted context brings no headings but its titles. -/
theorem quiet_contextPieces {rawContext : RepositoryRawContext} (trusted : rawContext.SingleLine) :
    Quiet (contextPieces rawContext) := by
  unfold contextPieces
  rw [quiet_append, quiet_append, quiet_append]
  constructor
  · constructor
    · constructor
      · exact quiet_sectionPieces _ _ (plain_overviewLines trusted)
      · apply quiet_sectionPieces
        simp [plain_topics trusted.topics, isPlain_empty]
    · apply quiet_sectionPieces
      apply forall_plain_block
      rw [List.forall_mem_map]
      exact fun language member => plain_languageLine (trusted.languages language member)
  · apply quiet_sectionPieces
    apply forall_plain_block
    rw [List.forall_mem_map]
    exact fun commit member =>
      plain_commitLine (trusted.recentCommits commit (List.mem_of_mem_take member))

/-! ## Untrusted texts -/

/-- The text brings no heading along after its first line. -/
def NoLaterHeading (text : Text) : Prop :=
  laterHeadings text = []

/-- The items bring no heading along after their first lines, when white space
is stripped from the end of the last one. -/
def HarmlessItems (items : List String) : Prop :=
  (∀ item ∈ items.dropLast, NoLaterHeading item.toList) ∧
    ∀ item ∈ items.getLast?, NoLaterHeading (item.toList.rdropWhile isSpace)

/-- The texts of the assessment that are never the last of a report. -/
def HarmlessAssessment (insights : StructuredAIResponse) : Prop :=
  headings insights.overview.projectPurpose.toList = [] ∧
    headings insights.overview.architecture.toList = [] ∧
    ∀ item ∈ insights.overview.techStack, NoLaterHeading item.toList

/-- All items of an assessment that follow its fixed lines, in their order. -/
def StructuredAIResponse.closingItems (insights : StructuredAIResponse) : List String :=
  insights.securityHealth.findings ++ insights.securityHealth.limitations ++
    insights.recommendations.items

/-- The AI outcome brings no line along that reads like a heading. -/
def Analysis.Harmless (analysis : Analysis) : Prop :=
  match analysis.aiInsights with
  | some insights => HarmlessAssessment insights ∧ HarmlessItems insights.closingItems
  | none => NoLaterHeading
      ((orDefault analysis.aiFallbackReason "No reason provided").toList.rdropWhile isSpace)

theorem quiet_bulletPieces {items : List String} :
    Quiet (bulletPieces items) ↔ ∀ item ∈ items, NoLaterHeading item.toList := by
  have dash : IsLabel "- ".toList := by simp [IsLabel, isSpace]
  have bullet : ∀ item : String, headings ("- " ++ item).toList = laterHeadings item.toList := by
    intro item
    rw [String.toList_append, headings_label dash]
  simp only [bulletPieces, bulletLines, quiet_plainLine, List.forall_mem_map, bullet,
    NoLaterHeading]

theorem quiet_assessmentPieces {insights : StructuredAIResponse} :
    Quiet (assessmentPieces insights) ↔ HarmlessAssessment insights := by
  have risk : IsPlain ("- Risk Level: " ++ insights.securityHealth.riskLevel.literal) := by
    apply isPlain_label (by simp [IsLabel, isSpace])
    cases insights.securityHealth.riskLevel <;> simp [OneLine, RiskLevel.literal]
  have confidence :
      IsPlain ("- AI Confidence: " ++ insights.securityHealth.aiConfidence.literal) := by
    apply isPlain_label (by simp [IsLabel, isSpace])
    cases insights.securityHealth.aiConfidence <;> simp [OneLine, AIConfidence.literal]
  unfold assessmentPieces HarmlessAssessment
  simp only [quiet_append, quiet_titleLine_cons, quiet_plainLine_cons,
    quiet_bulletPieces, quiet_nil, risk.headings, confidence.headings, isPlain_empty.headings,
    true_and, and_true]
  tauto

/-- A labelled text at the end of a report. -/
theorem quiet_stripped_label {label : String} (formed : IsLabel label.toList) (text : String) :
    Quiet [(plainLine (label ++ text)).stripped] ↔
      NoLaterHeading (text.toList.rdropWhile isSpace) := by
  have same : headings (plainLine (label ++ text)).stripped.text =
      laterHeadings (text.toList.rdropWhile isSpace) := by
    rw [Piece.stripped, plainLine, String.toList_append]
    exact headings_rdropWhile_label formed text.toList
  rw [Quiet, List.forall_mem_singleton, same]
  exact imp_iff_right rfl

/-- The pieces have the items of a report so far at their end, and the last
piece is a line that begins with a dash. -/
structure Closing (harmless : Prop) (pieces : List Piece) (items : List String) : Prop where
  whole : Quiet pieces ↔ harmless ∧ ∀ item ∈ items, NoLaterHeading item.toList
  stripped : ∃ before last, pieces = before ++ [last] ∧ '-' ∈ last.text ∧ last.isTitle = false ∧
    (Quiet (before ++ [last.stripped]) ↔ harmless ∧ HarmlessItems items)

theorem harmlessItems_concat {before : List String} {last : String} :
    HarmlessItems (before ++ [last]) ↔ (∀ item ∈ before, NoLaterHeading item.toList) ∧
      NoLaterHeading (last.toList.rdropWhile isSpace) := by
  simp [HarmlessItems]

theorem quiet_optionalPieces {title : String} {items : List String} (nonempty : items ≠ []) :
    Quiet (optionalPieces title items) ↔ ∀ item ∈ items, NoLaterHeading item.toList := by
  have shown : optionalPieces title items =
      plainLine "" :: titleLine title :: bulletPieces items := by
    simp [optionalPieces, nonempty]
  rw [shown, quiet_plainLine_cons, quiet_titleLine_cons, quiet_bulletPieces]
  exact and_iff_right isPlain_empty.headings

/-- Another titled list keeps the items at the end. -/
theorem Closing.optional {harmless : Prop} {pieces : List Piece} {items : List String}
    (closing : Closing harmless pieces items) (title : String) (further : List String) :
    Closing harmless (pieces ++ optionalPieces title further) (items ++ further) := by
  rcases List.eq_nil_or_concat' further with rfl | ⟨before, last, rfl⟩
  · simpa [optionalPieces] using closing
  · have whole : Quiet (pieces ++ optionalPieces title (before ++ [last])) ↔
        harmless ∧ ∀ item ∈ items ++ (before ++ [last]), NoLaterHeading item.toList := by
      rw [quiet_append, closing.whole, quiet_optionalPieces (by simp), and_assoc,
        ← List.forall_mem_append]
    have bullets : bulletPieces (before ++ [last]) =
        bulletPieces before ++ [plainLine ("- " ++ last)] := by
      simp [bulletPieces, bulletLines]
    have shown : pieces ++ optionalPieces title (before ++ [last]) =
        (pieces ++ plainLine "" :: titleLine title :: bulletPieces before) ++
          [plainLine ("- " ++ last)] := by
      simp [optionalPieces, bullets]
    have dash : IsLabel "- ".toList := by simp [IsLabel, isSpace]
    have lastQuiet := quiet_stripped_label dash last
    refine ⟨whole, _, _, shown, by simp [plainLine], rfl, ?_⟩
    rw [← List.append_assoc, harmlessItems_concat, List.forall_mem_append, quiet_append,
      quiet_append, closing.whole, quiet_plainLine_cons, quiet_titleLine_cons,
      quiet_bulletPieces, lastQuiet]
    have blank := isPlain_empty.headings
    tauto

theorem closing_assessmentPieces (insights : StructuredAIResponse) :
    Closing (HarmlessAssessment insights) (assessmentPieces insights) [] := by
  have confidence :
      IsPlain ("- AI Confidence: " ++ insights.securityHealth.aiConfidence.literal) := by
    apply isPlain_label (by simp [IsLabel, isSpace])
    cases insights.securityHealth.aiConfidence <;> simp [OneLine, AIConfidence.literal]
  obtain ⟨before, shown⟩ : ∃ before, assessmentPieces insights = before ++
      [plainLine ("- AI Confidence: " ++ insights.securityHealth.aiConfidence.literal)] :=
    ⟨_, (List.append_assoc _ [_, _, _, _, _, _] [_]).symm⟩
  have harmless := @quiet_assessmentPieces insights
  have lastQuiet : Quiet [(plainLine
      ("- AI Confidence: " ++ insights.securityHealth.aiConfidence.literal)).stripped] := by
    rw [quiet_stripped_label (by simp [IsLabel, isSpace])]
    cases insights.securityHealth.aiConfidence <;> rfl
  rw [shown, quiet_append, quiet_plainLine_cons] at harmless
  refine ⟨?_, _, _, shown, by simp [plainLine], rfl, ?_⟩
  · rw [quiet_assessmentPieces]
    simp
  · have noItems : HarmlessItems [] := by simp [HarmlessItems]
    rw [quiet_append, ← harmless]
    simp only [lastQuiet, confidence.headings, quiet_nil, noItems, and_true]

/-- The AI pieces as they stand in a stripped report. -/
def closedPieces (analysis : Analysis) : List Piece :=
  (aiPieces analysis).modifyLast Piece.stripped

theorem exists_aiPieces_eq (analysis : Analysis) :
    ∃ before last, aiPieces analysis = before ++ [last] ∧ '-' ∈ last.text ∧ last.isTitle = false ∧
      (Quiet (before ++ [last.stripped]) ↔ analysis.Harmless) := by
  unfold aiPieces Analysis.Harmless
  cases analysis.aiInsights with
  | some insights =>
      have items := ((closing_assessmentPieces insights).optional "### Findings"
        insights.securityHealth.findings).optional "### Limitations"
          insights.securityHealth.limitations
      have all := items.optional "## Recommendations" insights.recommendations.items
      exact all.stripped
  | none =>
      have opening : IsPlain "AI insights were unavailable for this run." := by
        simp [IsPlain, OneLine, isHeading, List.isPrefixOf]
      let reason := orDefault analysis.aiFallbackReason "No reason provided"
      refine ⟨[titleLine "## AI Analysis", plainLine "AI insights were unavailable for this run."],
        plainLine ("- Reason: " ++ reason), rfl, by simp [plainLine], rfl, ?_⟩
      rw [quiet_append, quiet_stripped_label (by simp [IsLabel, isSpace])]
      rw [quiet_titleLine_cons, quiet_plainLine_cons]
      simp only [opening.headings, quiet_nil, and_true, true_and, reason]

theorem quiet_closedPieces {analysis : Analysis} : Quiet (closedPieces analysis) ↔
    analysis.Harmless := by
  obtain ⟨before, last, pieces, _, _, harmless⟩ := exists_aiPieces_eq analysis
  rw [closedPieces, pieces, List.modifyLast_concat, harmless]

theorem titles_closedPieces (analysis : Analysis) :
    titles (closedPieces analysis) = titles (aiPieces analysis) := by
  obtain ⟨before, last, pieces, _, untitled, _⟩ := exists_aiPieces_eq analysis
  rw [closedPieces, pieces, List.modifyLast_concat, titles_append, titles_append]
  simp [titles, Piece.stripped, untitled]

theorem contextPieces_eq_cons (rawContext : RepositoryRawContext) :
    ∃ rest, contextPieces rawContext = titleLine "# Repository Overview" :: rest :=
  ⟨_, rfl⟩

/-- A report is the join of its pieces, once the last of them is stripped. -/
theorem reportText_eq_join (rawContext : RepositoryRawContext) (analysis : Analysis) :
    reportText rawContext analysis =
      join ['\n'] ((contextPieces rawContext ++ closedPieces analysis).map Piece.text) := by
  obtain ⟨before, last, pieces, dash, _, _⟩ := exists_aiPieces_eq analysis
  obtain ⟨rest, context⟩ := contextPieces_eq_cons rawContext
  have start : ∃ d letters, (titleLine "# Repository Overview").text = d :: letters ∧
      isSpace d = false := by
    simp [titleLine, isSpace]
  have rendered := render_eq_join (rest ++ before) start dash (by decide)
  rw [reportText_eq, closedPieces, pieces, List.modifyLast_concat, context]
  simpa using rendered

/-! ## Emitted headings -/

/-- The titles of the sections that hold the repository's facts. -/
def factTitles : List String :=
  ["# Repository Overview", "## Topics", "## Languages", "## Recent Activity"]

/-- The titles of the sections that depend on the AI outcome. -/
def outcomeTitles : List String :=
  ["## Project Insights", "## Tech Stack", "## Architecture", "## Security & Health",
    "### Findings", "### Limitations", "## Recommendations", "## AI Analysis"]

def contextHeadings (d : InstantMetadata) : List String :=
  ["# Repository Overview"] ++
  (if d.topics.isEmpty then [] else ["## Topics"]) ++
  (if d.languages.isEmpty then [] else ["## Languages"]) ++
  (if d.recentCommits.isEmpty then [] else ["## Recent Activity"])

def outcomeHeadings (analysis : Analysis) : List String :=
  match analysis.aiInsights with
  | some insights =>
      ["## Project Insights", "## Tech Stack", "## Architecture", "## Security & Health"] ++
      (if insights.securityHealth.findings.isEmpty then [] else ["### Findings"]) ++
      (if insights.securityHealth.limitations.isEmpty then [] else ["### Limitations"]) ++
      (if insights.recommendations.items.isEmpty then [] else ["## Recommendations"])
  | none => ["## AI Analysis"]

/-- The headings that the renderer writes itself, in its order. -/
def emittedHeadings (rawContext : RepositoryRawContext) (analysis : Analysis) : List Text :=
  (contextHeadings rawContext.instantData ++ outcomeHeadings analysis).map String.toList

theorem titles_plain (lines : List String) : titles (lines.map plainLine) = [] := by
  simp [titles, plainLine]

theorem titles_sectionPieces (present : Bool) (title : String) (lines : List String) :
    titles (sectionPieces present title lines) = if present then [title.toList] else [] := by
  cases present
  · rfl
  · have rest := titles_plain lines
    simp only [titles] at rest
    simp [sectionPieces, titles, titleLine, rest]

theorem titles_contextPieces (rawContext : RepositoryRawContext) :
    titles (contextPieces rawContext) =
      (contextHeadings rawContext.instantData).map String.toList := by
  have shown : ∀ {α : Type} (list : List α) (title : String),
      (if (!list.isEmpty) = true then [title.toList] else []) =
        (if list.isEmpty then [] else [title]).map String.toList := by
    intro α list title
    cases list <;> rfl
  unfold contextPieces contextHeadings
  simp only [titles_append, titles_sectionPieces, List.map_append, shown]
  rfl

theorem titles_optionalPieces (title : String) (items : List String) :
    titles (optionalPieces title items) =
      (if items.isEmpty then [] else [title]).map String.toList := by
  cases items with
  | nil => rfl
  | cons item rest =>
      have bullets := titles_plain (bulletLines (item :: rest))
      simp only [titles] at bullets
      simp [optionalPieces, titles, plainLine, titleLine, bulletPieces, bullets]

theorem titles_assessmentPieces (insights : StructuredAIResponse) :
    titles (assessmentPieces insights) =
      ["## Project Insights", "## Tech Stack", "## Architecture", "## Security & Health"].map
        String.toList := by
  have bullets := titles_plain (bulletLines insights.overview.techStack)
  unfold assessmentPieces
  rw [titles_append, titles_append, bulletPieces, bullets]
  rfl

theorem titles_aiPieces (analysis : Analysis) :
    titles (aiPieces analysis) = (outcomeHeadings analysis).map String.toList := by
  unfold aiPieces outcomeHeadings
  cases analysis.aiInsights with
  | none => rfl
  | some insights =>
      simp only [insightPieces, titles_append, titles_assessmentPieces, titles_optionalPieces,
        List.map_append]

theorem titles_reportPieces (rawContext : RepositoryRawContext) (analysis : Analysis) :
    titles (contextPieces rawContext ++ closedPieces analysis) =
      emittedHeadings rawContext analysis := by
  rw [titles_append, titles_contextPieces, titles_closedPieces, titles_aiPieces, emittedHeadings,
    List.map_append]

theorem contextHeadings_subset (d : InstantMetadata) : contextHeadings d ⊆ factTitles := by
  intro title member
  simp only [contextHeadings, List.mem_append, List.mem_ite_nil_left, List.mem_singleton] at member
  simp only [factTitles, List.mem_cons]
  tauto

theorem outcomeHeadings_subset (analysis : Analysis) :
    outcomeHeadings analysis ⊆ outcomeTitles := by
  intro title member
  unfold outcomeHeadings at member
  cases outcome : analysis.aiInsights with
  | none =>
      rw [outcome, List.mem_singleton] at member
      simp [outcomeTitles, member]
  | some insights =>
      rw [outcome] at member
      simp only [List.mem_append, List.mem_ite_nil_left, List.mem_cons] at member
      simp only [outcomeTitles, List.mem_cons]
      tauto

theorem headings_title {title : String} (member : title ∈ factTitles ++ outcomeTitles) :
    headings title.toList = [title.toList] := by
  have line : OneLine title ∧ isHeading title.toList = true := by
    revert title
    simp [factTitles, outcomeTitles, OneLine, isHeading]
  rw [headings, splitLines_of_not_mem line.1, List.filter_cons, line.2]
  rfl

theorem emittedHeadings_subset {rawContext : RepositoryRawContext} {analysis : Analysis} :
    ∀ title ∈ emittedHeadings rawContext analysis, headings title = [title] := by
  rw [emittedHeadings, List.forall_mem_map]
  intro title member
  apply headings_title
  rw [List.mem_append] at member ⊢
  exact member.imp (contextHeadings_subset _ ·) (outcomeHeadings_subset _ ·)

theorem headings_reportText (rawContext : RepositoryRawContext) (analysis : Analysis) :
    headings (reportText rawContext analysis) =
      (contextPieces rawContext ++ closedPieces analysis).flatMap fun piece =>
        headings piece.text := by
  obtain ⟨rest, context⟩ := contextPieces_eq_cons rawContext
  rw [reportText_eq_join, context, List.cons_append, List.map_cons, headings_join, ← List.map_cons,
    List.flatMap_map]

/-- A report has the emitted headings exactly if the AI outcome is harmless. -/
theorem headings_reportText_iff {rawContext : RepositoryRawContext}
    (trusted : rawContext.SingleLine)
    (analysis : Analysis) :
    headings (reportText rawContext analysis) = emittedHeadings rawContext analysis ↔
      analysis.Harmless := by
  have wellFormed : ∀ piece ∈ contextPieces rawContext ++ closedPieces analysis,
      piece.WellFormed := by
    rw [forall_wellFormed_iff, titles_reportPieces]
    exact emittedHeadings_subset
  have quiet := quiet_contextPieces trusted
  rw [headings_reportText, ← titles_reportPieces, headings_eq_titles_iff wellFormed]
  change Quiet _ ↔ _
  rw [quiet_append, quiet_closedPieces]
  exact and_iff_right quiet

/-! ## Reading the facts -/

/-- What a reader finds under a title of a report. -/
def readFacts (title : String) (report : Text) : List Text :=
  readSection title.toList report

theorem exists_closedPieces_eq (analysis : Analysis) :
    ∃ title ∈ outcomeTitles, ∃ rest, closedPieces analysis = titleLine title :: rest := by
  have opening : ∃ title ∈ outcomeTitles, ∃ second rest,
      aiPieces analysis = [titleLine title] ++ second :: rest := by
    unfold aiPieces
    cases analysis.aiInsights with
    | none => exact ⟨"## AI Analysis", by simp [outcomeTitles], _, _, rfl⟩
    | some insights => exact ⟨"## Project Insights", by simp [outcomeTitles], _, _, rfl⟩
  obtain ⟨title, member, second, rest, pieces⟩ := opening
  refine ⟨title, member, (second :: rest).modifyLast Piece.stripped, ?_⟩
  rw [closedPieces, pieces, List.modifyLast_append_of_right_ne_nil _ _ _ (by simp)]
  rfl

theorem splitLines_reportText (rawContext : RepositoryRawContext) (analysis : Analysis) :
    splitLines (reportText rawContext analysis) =
      ((contextPieces rawContext).flatMap fun piece => splitLines piece.text) ++
        (closedPieces analysis).flatMap fun piece => splitLines piece.text := by
  obtain ⟨rest, context⟩ := contextPieces_eq_cons rawContext
  rw [← List.flatMap_append, reportText_eq_join, context, List.cons_append, List.map_cons,
    splitLines_join, ← List.map_cons, List.flatMap_map]

theorem title_ne_of_fact {title other : String} (fact : title ∈ factTitles)
    (outcome : other ∈ outcomeTitles) : other ≠ title := by
  rintro rfl
  revert other
  simp [factTitles, outcomeTitles]

/-- Under a fact's title stand the lines of the context, whatever the AI says. -/
theorem readFacts_of_harmless (rawContext : RepositoryRawContext) {analysis : Analysis}
    (harmless : analysis.Harmless) {title : String} (fact : title ∈ factTitles) :
    readFacts title (reportText rawContext analysis) =
      underHeading title.toList false
        ((contextPieces rawContext).flatMap fun piece => splitLines piece.text) := by
  obtain ⟨opening, outcome, rest, pieces⟩ := exists_closedPieces_eq analysis
  have found := headings_title (List.mem_append_right factTitles outcome)
  have openingLine : OneLine opening := by
    revert opening
    simp [outcomeTitles, OneLine]
  have titled : isHeading opening.toList = true := by
    have member : opening.toList ∈ headings opening.toList := by simp [found]
    exact (List.mem_filter.mp member).2
  have wellFormed : ∀ piece ∈ closedPieces analysis, piece.WellFormed := by
    rw [forall_wellFormed_iff, titles_closedPieces, titles_aiPieces, List.forall_mem_map]
    exact fun other member =>
      headings_title (List.mem_append_right factTitles (outcomeHeadings_subset analysis member))
  have absent : ∀ line ∈ (closedPieces analysis).flatMap fun piece => splitLines piece.text,
      isHeading line = true → line ≠ title.toList := by
    intro line member heading
    have listed : line ∈ (closedPieces analysis).flatMap fun piece => headings piece.text := by
      rw [List.mem_flatMap] at member ⊢
      obtain ⟨piece, present, inside⟩ := member
      exact ⟨piece, present, List.mem_filter.mpr ⟨inside, heading⟩⟩
    have same := (headings_eq_titles_iff wellFormed).mpr (quiet_closedPieces.mpr harmless)
    rw [same, titles_closedPieces, titles_aiPieces, List.mem_map] at listed
    obtain ⟨other, emitted, rfl⟩ := listed
    intro equal
    exact title_ne_of_fact fact (outcomeHeadings_subset analysis emitted)
      (String.toList_inj.mp equal)
  have lines : ((closedPieces analysis).flatMap fun piece => splitLines piece.text) =
      opening.toList :: rest.flatMap fun piece => splitLines piece.text := by
    rw [pieces, List.flatMap_cons, titleLine, splitLines_of_not_mem openingLine]
    rfl
  rw [readFacts, readSection, splitLines_reportText]
  rw [lines] at absent ⊢
  exact underHeading_append false _ titled absent

/-- Both reports have the headings of the renderer, and the same facts are read
from them. -/
structure Unforged (rawContext : RepositoryRawContext) (first second : Analysis) : Prop where
  first_headings : headings (reportText rawContext first) = emittedHeadings rawContext first
  second_headings : headings (reportText rawContext second) = emittedHeadings rawContext second
  facts : ∀ title ∈ factTitles,
    readFacts title (reportText rawContext first) = readFacts title (reportText rawContext second)

/-- Two AI outcomes leave the facts of a report alone exactly if neither brings
a line along that reads like a heading. -/
theorem reports_unforged_iff {rawContext : RepositoryRawContext} (trusted : rawContext.SingleLine)
    (first second : Analysis) :
    Unforged rawContext first second ↔ first.Harmless ∧ second.Harmless := by
  constructor
  · rintro ⟨firstHeadings, secondHeadings, _⟩
    exact ⟨(headings_reportText_iff trusted first).mp firstHeadings,
      (headings_reportText_iff trusted second).mp secondHeadings⟩
  · rintro ⟨firstHarmless, secondHarmless⟩
    constructor
    · exact (headings_reportText_iff trusted first).mpr firstHarmless
    · exact (headings_reportText_iff trusted second).mpr secondHarmless
    · intro title fact
      rw [readFacts_of_harmless rawContext firstHarmless fact,
        readFacts_of_harmless rawContext secondHarmless fact]

/-! ## A forged section -/

namespace ReportSample

theorem owner_ne : "acme" ≠ "" := by
  decide

theorem repo_ne : "rocket" ≠ "" := by
  decide

def context : RepositoryRawContext where
  target := {
    owner := "acme"
    repo := "rocket"
    canonicalUrl := "https://github.com/acme/rocket"
    owner_minLength := owner_ne
    repo_minLength := repo_ne
  }
  repositoryUrl := "https://github.com/acme/rocket"
  defaultBranch := "main"
  commitSha := "c0ffee"
  instantData := { name := "Rocket", stars := 1, forks := 0, topics := ["space"] }

/-- An assessment with the purpose it reads out of the repository. -/
def analysis (projectPurpose : String) : Analysis where
  aiInsights := some {
    overview := { projectPurpose, techStack := ["Lean"], architecture := "One file" }
    securityHealth := { riskLevel := .low, aiConfidence := .high }
    recommendations := { items := [] }
  }
  aiFallbackReason := none

def unavailable : Analysis where
  aiInsights := none
  aiFallbackReason := some "LLM is unavailable"

theorem context_singleLine : context.SingleLine := by
  constructor <;> simp [context, OneLine, IsTopicSlug, isTopicChar, isAsciiDigit]

end ReportSample

open ReportSample in
/-- Two harmless outcomes, one with an assessment and one without. -/
theorem reports_unforged_rocket :
    (analysis "Rockets").Harmless ∧ unavailable.Harmless ∧
      Unforged context (analysis "Rockets") unavailable := by
  have assessed : (analysis "Rockets").Harmless := by
    unfold Analysis.Harmless
    simp only [analysis, HarmlessAssessment, HarmlessItems, StructuredAIResponse.closingItems,
      NoLaterHeading]
    decide +kernel
  have fallback : unavailable.Harmless := by
    unfold Analysis.Harmless
    simp only [unavailable, NoLaterHeading]
    decide +kernel
  exact ⟨assessed, fallback,
    (reports_unforged_iff context_singleLine _ _).mpr ⟨assessed, fallback⟩⟩

open ReportSample in
/-- A purpose of several lines adds a second overview to the facts. -/
theorem purpose_forges_overview :
    context.SingleLine ∧
      ¬ Unforged context (analysis "Rockets\n# Repository Overview\n- Stars: 999999") unavailable ∧
      "- Stars: 999999".toList ∈ readFacts "# Repository Overview"
        (reportText context (analysis "Rockets\n# Repository Overview\n- Stars: 999999")) := by
  have forged : "- Stars: 999999".toList ∈ readFacts "# Repository Overview"
      (reportText context (analysis "Rockets\n# Repository Overview\n- Stars: 999999")) := by
    rw [readFacts, readSection, splitLines_reportText]
    decide +kernel
  have honest : "- Stars: 999999".toList ∉ readFacts "# Repository Overview"
      (reportText context unavailable) := by
    rw [readFacts, readSection, splitLines_reportText]
    decide +kernel
  refine ⟨context_singleLine, ?_, forged⟩
  intro unforged
  have same := unforged.facts "# Repository Overview" (by simp [factTitles])
  rw [same] at forged
  exact honest forged

end ResearchTool
