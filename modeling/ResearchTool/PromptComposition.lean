import ResearchTool.ContextSanitizer

/-!
# The prompt as a composition of its parts

The header of a prompt is interpolated into a text that is then read as a
template.  The sections around it are copied, so that the prompt is the
composition of its parts exactly when the header survives that second reading.
-/

namespace ResearchTool

open Python

/-! ## The template -/

def openingTag : Text :=
  "<repository_content>".toList

def closingTag : Text :=
  "</repository_content>".toList

/-- The prompt around a header, a README section and a structure section. -/
def composePrompt (header readme tree : Text) : Text :=
  openingTag ++ "\n".toList ++ header ++ "\nREADME:\n".toList ++ readme ++
    "\n\nTop-level structure:\n".toList ++ tree ++ "\n".toList ++ closingTag

/-- The arguments of the template. -/
def promptArguments (readme tree : Text) : List (Text × Text) :=
  [("readme".toList, readme), ("tree".toList, tree)]

/-- What follows the header in the template. -/
def templateTail : Text :=
  "\nREADME:\n\x7breadme\x7d\n\nTop-level structure:\n\x7btree\x7d\n</repository_content>".toList

set_option maxRecDepth 8000 in
/-- A replacement field that the header leaves open swallows the sections. -/
theorem formatFrom_templateTail_inside {render : FormatField → Except PyError Text}
    {state : FormatState} (inside : state ≠ .literal) (shown : Text) :
    formatFrom render state templateTail ≠ .ok shown := by
  have failed : ∃ error, formatFrom render state templateTail = .error error := by
    cases state with
    | literal => exact absurd rfl inside
    | opened => exact ⟨_, rfl⟩
    | closed => exact ⟨_, rfl⟩
    | name read => exact ⟨_, rfl⟩
    | index read => exact ⟨_, rfl⟩
    | conversion read => exact ⟨_, rfl⟩
    | converted read conversion => exact ⟨_, rfl⟩
    | spec read conversion text depth => exact ⟨_, rfl⟩
  obtain ⟨error, failed⟩ := failed
  rw [failed]
  nofun

set_option maxRecDepth 8000 in
/-- After a complete header the sections are filled in. -/
theorem strFormat_templateTail (renderField : FieldRenderer) (readme tree : Text) :
    strFormat renderField (promptArguments readme tree) templateTail =
      .ok ("\nREADME:\n".toList ++ (readme ++ ("\n\nTop-level structure:\n".toList ++
        (tree ++ "\n</repository_content>".toList)))) := by
  rfl

theorem promptTemplate_eq (header : Text) :
    promptTemplate header = "<repository_content>\n".toList ++ (header ++ templateTail) :=
  List.append_assoc _ _ _

/-- The template holds the header between copied text, filled as if it stood
alone. -/
theorem strFormat_promptTemplate_eq_ok_iff {renderField : FieldRenderer}
    {header readme tree text : Text} :
    strFormat renderField (promptArguments readme tree) (promptTemplate header) = .ok text ↔
      ∃ shown, strFormat renderField (promptArguments readme tree) header = .ok shown ∧
        text = composePrompt shown readme tree := by
  have composed : ∀ shown : Text, composePrompt shown readme tree =
      "<repository_content>\n".toList ++ (shown ++ ("\nREADME:\n".toList ++ (readme ++
        ("\n\nTop-level structure:\n".toList ++
          (tree ++ "\n</repository_content>".toList))))) := by
    intro shown
    have opening : "<repository_content>\n".toList = openingTag ++ "\n".toList := by decide
    have closing : "\n</repository_content>".toList = "\n".toList ++ closingTag := by decide
    rw [composePrompt, opening, closing]
    simp only [List.append_assoc]
  simp only [composed]
  rw [promptTemplate_eq]
  exact formatFrom_between_eq_ok_iff (formatFrom_of_no_braces (by decide))
    (strFormat_templateTail renderField readme tree)
    fun _ shown inside => formatFrom_templateTail_inside inside shown

theorem fillTemplate_eq_ok_iff {renderField : FieldRenderer} {header readme tree text : Text} :
    fillTemplate renderField (promptTemplate header) readme tree = .ok text ↔
      ∃ shown, strFormat renderField (promptArguments readme tree) header = .ok shown ∧
        text = composePrompt shown readme tree := by
  rw [← strFormat_promptTemplate_eq_ok_iff]
  unfold fillTemplate promptArguments
  cases strFormat renderField [("readme".toList, readme), ("tree".toList, tree)]
    (promptTemplate header) <;> simp

/-! ## The sections -/

/-- The README section before any truncation. -/
def promptReadme (rawContext : RepositoryRawContext) : Text :=
  sanitizeText (strip (rawContext.readmeText.getD "").toList)

/-- The entries that are not blocked, in their order. -/
def promptEntries (rawContext : RepositoryRawContext) : List RepositoryTreeEntry :=
  rawContext.treeEntries.filter fun entry => !isBlockedEntry entry

def entryLine (entry : RepositoryTreeEntry) : Text :=
  ("- " ++ entry.name ++ " (" ++ entry.type ++ ")").toList

/-- The structure section before any truncation. -/
def promptTree (rawContext : RepositoryRawContext) : Text :=
  join ['\n'] ((promptEntries rawContext).map entryLine)

/-- A section as a prompt may show it: whole, or cut and marked. -/
def IsCutOf (shown whole : Text) : Prop :=
  shown = whole ∨ ∃ length, shown = whole.take length ++ truncationMarker

theorem isCutOf_truncateSection (overflow margin floor : Int) (whole : Text) :
    IsCutOf (truncateSection overflow margin floor whole) whole :=
  .inr ⟨_, rfl⟩

/-- A section, cut if the prompt around it is too long. -/
def cutSection (maxChars margin floor : Int) (prompt text : Text) : Text :=
  if maxChars < (prompt.length : Int) ∧ text ≠ [] then
    truncateSection ((prompt.length : Int) - maxChars) margin floor text
  else text

theorem isCutOf_cutSection (maxChars margin floor : Int) (prompt whole : Text) :
    IsCutOf (cutSection maxChars margin floor prompt whole) whole := by
  unfold cutSection
  split
  · exact isCutOf_truncateSection _ _ _ _
  · exact .inl rfl

/-- `build_prompt_payload` over the way the template is filled in and the two
sections. -/
def fitPrompt (fill : Text → Text → Except Exn Text) (readmeText treeText : Text)
    (maxContextTokens : Int) (rawContext : RepositoryRawContext) :
    Except Exn LLMPromptPayload := do
  let maxChars := maxContextTokens * 4
  let promptText ← fill readmeText treeText
  let overflows (text : Text) : Bool := maxChars < (text.length : Int)
  let (readmeText, promptText, warnings) ←
    if overflows promptText && !readmeText.isEmpty then do
      let readmeText :=
        truncateSection ((promptText.length : Int) - maxChars) 64 256 readmeText
      let promptText ← fill readmeText treeText
      pure (readmeText, promptText, [readmeWarning])
    else
      pure (readmeText, promptText, [])
  let (promptText, warnings) ←
    if overflows promptText && !treeText.isEmpty then do
      let treeText :=
        truncateSection ((promptText.length : Int) - maxChars) 32 128 treeText
      let promptText ← fill readmeText treeText
      pure (promptText, warnings ++ [treeWarning])
    else
      pure (promptText, warnings)
  pure {
    repositoryUrl := rawContext.repositoryUrl
    cacheKey := buildAiCacheKey rawContext.target.owner rawContext.target.repo rawContext.commitSha
    commitSha := rawContext.commitSha
    deterministicData := rawContext.instantData
    promptText := String.ofList promptText
    warnings := warnings
  }

section

variable {fill : Text → Text → Except Exn Text} {readme tree : Text} {maxContextTokens : Int}
  {rawContext : RepositoryRawContext}

/-- A template that cannot be filled ends the construction. -/
theorem fitPrompt_of_error {error : Exn} (failed : fill readme tree = .error error) :
    fitPrompt fill readme tree maxContextTokens rawContext = .error error := by
  rw [fitPrompt, failed]
  rfl

/-- A prompt within the budget is sent as it is filled in. -/
theorem fitPrompt_of_fits (rawContext : RepositoryRawContext) {text : Text}
    (filled : fill readme tree = .ok text)
    (fits : (text.length : Int) ≤ maxContextTokens * 4) :
    ∃ payload, fitPrompt fill readme tree maxContextTokens rawContext = .ok payload ∧
      payload.promptText = String.ofList text := by
  have within : decide (maxContextTokens * 4 < (text.length : Int)) = false := by simpa using fits
  simp only [fitPrompt, filled, within, bind, Except.bind, pure, Except.pure, Bool.false_and,
    Bool.false_eq_true, if_false]
  exact ⟨_, rfl, rfl⟩

/-- Which prompts are built: the template is filled three times, with the sections
as they are and after each cut. -/
theorem fitPrompt_eq_ok_iff {text : Text} :
    (∃ payload, fitPrompt fill readme tree maxContextTokens rawContext = .ok payload ∧
      payload.promptText.toList = text) ↔
    ∃ first second readmeText, readmeText = cutSection (maxContextTokens * 4) 64 256 first readme ∧
      fill readme tree = .ok first ∧ fill readmeText tree = .ok second ∧
      fill readmeText (cutSection (maxContextTokens * 4) 32 128 second tree) = .ok text := by
  have nonempty : ∀ text : Text, (!text.isEmpty) = true ↔ text ≠ [] := by
    intro text
    cases text <;> simp
  simp only [fitPrompt, bind, Except.bind, pure, Except.pure, Bool.and_eq_true, decide_eq_true_eq,
    nonempty, cutSection]
  cases first : fill readme tree with
  | error error => simp
  | ok whole =>
      by_cases readmeLong : maxContextTokens * 4 < (whole.length : Int) ∧ readme ≠ []
      · simp only [if_pos readmeLong, Except.ok.injEq, ↓existsAndEq, true_and]
        generalize truncateSection _ 64 256 readme = shortened
        cases second : fill shortened tree with
        | error error => simp
        | ok halfway =>
            by_cases treeLong : maxContextTokens * 4 < (halfway.length : Int) ∧ tree ≠ []
            · simp only [if_pos treeLong, Except.ok.injEq, exists_eq_left']
              generalize truncateSection _ 32 128 tree = kept
              cases fill shortened kept <;> simp
            · simp [if_neg treeLong, second]
      · simp only [if_neg readmeLong, Except.ok.injEq, ↓existsAndEq, true_and, first]
        by_cases treeLong : maxContextTokens * 4 < (whole.length : Int) ∧ tree ≠ []
        · simp only [if_pos treeLong]
          generalize truncateSection _ 32 128 tree = kept
          cases fill readme kept <;> simp
        · simp [if_neg treeLong, first]

end

theorem buildPromptPayload_eq (renderField : FieldRenderer) (maxContextTokens : Int)
    (rawContext : RepositoryRawContext) :
    buildPromptPayload renderField maxContextTokens rawContext =
      fitPrompt (fillTemplate renderField (promptTemplate (promptHeader rawContext)))
        (promptReadme rawContext) (promptTree rawContext) maxContextTokens rawContext :=
  rfl

/-! ## The intended prompt -/

/-- The six lines of the header. -/
def headerLines (rawContext : RepositoryRawContext) : List Text :=
  [ "Repository URL: ".toList ++ rawContext.repositoryUrl.toList,
    "Default branch: ".toList ++ rawContext.defaultBranch.toList,
    "Commit SHA: ".toList ++ rawContext.commitSha.toList,
    "Stars: ".toList ++ (toString rawContext.instantData.stars).toList,
    "Forks: ".toList ++ (toString rawContext.instantData.forks).toList,
    "Primary language: ".toList ++
      (orDefault rawContext.instantData.primaryLang "Unknown").toList ]

/-- What the prompt is to be: its lines, with every fact of the repository as
it is. -/
def intendedPrompt (rawContext : RepositoryRawContext) : Text :=
  join ['\n'] ([openingTag] ++ headerLines rawContext ++
    [[], "README:".toList, promptReadme rawContext, [], "Top-level structure:".toList,
      promptTree rawContext, closingTag])

theorem intendedPrompt_eq (rawContext : RepositoryRawContext) :
    intendedPrompt rawContext =
      composePrompt (promptHeader rawContext) (promptReadme rawContext)
        (promptTree rawContext) := by
  generalize readme : promptReadme rawContext = shownReadme
  generalize tree : promptTree rawContext = shownTree
  simp [intendedPrompt, headerLines, composePrompt, promptHeader, join, readme, tree]

/-- The prompt is the intended one whenever that fits the budget. -/
def PromptIsComposed (renderField : FieldRenderer) (rawContext : RepositoryRawContext) : Prop :=
  ∀ maxContextTokens : Int, ((intendedPrompt rawContext).length : Int) ≤ maxContextTokens * 4 →
    ∃ payload, buildPromptPayload renderField maxContextTokens rawContext = .ok payload ∧
      payload.promptText.toList = intendedPrompt rawContext

/-- The header lines formatted as a template are the header lines. -/
def HeaderIsLiteral (renderField : FieldRenderer) (rawContext : RepositoryRawContext) : Prop :=
  strFormat renderField (promptArguments (promptReadme rawContext) (promptTree rawContext))
    (promptHeader rawContext) = .ok (promptHeader rawContext)

theorem composePrompt_header_injective {first second readme tree : Text}
    (same : composePrompt first readme tree = composePrompt second readme tree) :
    first = second := by
  simpa [composePrompt] using same

/-- The intended prompt is built, for every budget it fits, if and only if the
header lines survive being formatted as a template. -/
theorem prompt_is_composed_iff (renderField : FieldRenderer) (rawContext : RepositoryRawContext) :
    PromptIsComposed renderField rawContext ↔ HeaderIsLiteral renderField rawContext := by
  constructor
  · intro composed
    cases filled : fillTemplate renderField (promptTemplate (promptHeader rawContext))
        (promptReadme rawContext) (promptTree rawContext) with
    | error error =>
        obtain ⟨payload, built, _⟩ := composed (intendedPrompt rawContext).length (by omega)
        rw [buildPromptPayload_eq, fitPrompt_of_error filled] at built
        cases built
    | ok text =>
        -- a budget for both the intended prompt and the one that is filled in
        let budget : Int := (intendedPrompt rawContext).length + text.length
        obtain ⟨payload, built, intended⟩ := composed budget (by simp only [budget]; omega)
        obtain ⟨same, fits, filledIn⟩ :=
          fitPrompt_of_fits rawContext filled
            (show (text.length : Int) ≤ budget * 4 by simp only [budget]; omega)
        rw [buildPromptPayload_eq, fits] at built
        cases built
        obtain ⟨shown, formatted, composition⟩ := fillTemplate_eq_ok_iff.mp filled
        rw [filledIn, String.toList_ofList, composition, intendedPrompt_eq] at intended
        rw [composePrompt_header_injective intended] at formatted
        exact formatted
  · intro literal budget fits
    have filled := fillTemplate_eq_ok_iff.mpr ⟨_, literal, rfl⟩
    rw [intendedPrompt_eq] at fits ⊢
    rw [buildPromptPayload_eq]
    obtain ⟨payload, built, text⟩ := fitPrompt_of_fits rawContext filled fits
    refine ⟨payload, built, ?_⟩
    rw [text, String.toList_ofList]

/-! ## Headers without braces -/

/-- The parts of the header that the repository decides. -/
def headerFields (rawContext : RepositoryRawContext) : List String :=
  [rawContext.repositoryUrl, rawContext.defaultBranch, rawContext.commitSha,
    orDefault rawContext.instantData.primaryLang "Unknown"]

def HeaderFieldsBraceless (rawContext : RepositoryRawContext) : Prop :=
  ∀ field ∈ headerFields rawContext, '{' ∉ field.toList ∧ '}' ∉ field.toList

/-- The parts of the header that the code decides. -/
def headerLabels : List String :=
  ["Repository URL: ", "\n", "Default branch: ", "Commit SHA: ", "Stars: ", "Forks: ",
    "Primary language: "]

theorem not_mem_promptHeader {rawContext : RepositoryRawContext} {c : Char}
    (fields : ∀ field ∈ headerFields rawContext, c ∉ field.toList)
    (labels : ∀ label ∈ headerLabels, c ∉ label.toList) (notDigit : c.isDigit = false) :
    c ∉ promptHeader rawContext := by
  have number : ∀ n : Nat, c ∉ (toString n).toList := by
    intro n member
    rw [isDigit_of_mem_toString member] at notDigit
    cases notDigit
  simp only [headerFields, headerLabels, List.forall_mem_cons] at fields labels
  simp only [promptHeader, String.toList_append, List.mem_append, number, fields, labels, or_self,
    not_false_eq_true]

/-- A header without braces is copied. -/
theorem strFormat_of_braceless (renderField : FieldRenderer) {rawContext : RepositoryRawContext}
    (braceless : HeaderFieldsBraceless rawContext) (readme tree : Text) :
    strFormat renderField (promptArguments readme tree) (promptHeader rawContext) =
      .ok (promptHeader rawContext) :=
  formatFrom_of_no_braces
    ⟨not_mem_promptHeader (fun field member => (braceless field member).1) (by decide) (by decide),
      not_mem_promptHeader (fun field member => (braceless field member).2) (by decide)
        (by decide)⟩

theorem headerIsLiteral_of_braceless {renderField : FieldRenderer}
    {rawContext : RepositoryRawContext} (braceless : HeaderFieldsBraceless rawContext) :
    HeaderIsLiteral renderField rawContext :=
  strFormat_of_braceless renderField braceless _ _

/-! ## A branch with a brace -/

/-- A repository with nothing but a default branch. -/
def branchContext (branch : String) : RepositoryRawContext where
  target := {
    owner := "octo"
    repo := "demo"
    canonicalUrl := "https://github.com/octo/demo"
    owner_minLength := by decide
    repo_minLength := by decide }
  repositoryUrl := "https://github.com/octo/demo"
  defaultBranch := branch
  commitSha := "c0ffee"
  instantData := { name := "demo", stars := 1, forks := 0 }

/-- An unknown field is a missing key. -/
def missingKey : FieldRenderer :=
  fun _ field =>
    .error { className := "KeyError", message := "'" ++ String.ofList field.name ++ "'" }

def bracedContext : RepositoryRawContext :=
  branchContext "release\x7d"

/-- The template up to a brace at the end of the branch. -/
theorem promptTemplate_of_branch {rawContext : RepositoryRawContext} {branch : String}
    (ends : rawContext.defaultBranch = branch ++ "\x7d") :
    ∃ rest, promptTemplate (promptHeader rawContext) =
      ("<repository_content>\n".toList ++ ("Repository URL: ".toList ++
        (rawContext.repositoryUrl.toList ++ ("\n".toList ++ ("Default branch: ".toList ++
          branch.toList))))) ++ '}' :: '\n' :: rest := by
  have brace : "\x7d".toList = ['}'] := by decide
  have newline : "\n".toList = ['\n'] := by decide
  rw [promptTemplate_eq, promptHeader, ends]
  generalize templateTail = tail
  generalize "<repository_content>\n".toList = opening
  simp only [String.toList_append, brace, List.append_assoc]
  rw [newline]
  exact ⟨_, rfl⟩

theorem formatFrom_stray_brace {render : FormatField → Except PyError Text} {before rest : Text}
    (plain : '{' ∉ before ∧ '}' ∉ before) :
    formatFrom render .literal (before ++ '}' :: '\n' :: rest) =
      formatError "Single '\x7d' encountered in format string" := by
  rw [formatFrom_append (formatFrom_of_no_braces plain)]
  rfl

/-- A repository whose default branch is called `release}` fits the default
budget and raises, however fields are rendered. -/
theorem prompt_rejects_braced_branch :
    ((intendedPrompt bracedContext).length : Int) ≤ 32000 * 4 ∧
      ∀ renderField, buildPromptPayload renderField 32000 bracedContext =
          .error (.other "ValueError" "Single '\x7d' encountered in format string") ∧
        ¬ PromptIsComposed renderField bracedContext := by
  have fits : ((intendedPrompt bracedContext).length : Int) ≤ 32000 * 4 := by decide +kernel
  have failed : ∀ renderField, buildPromptPayload renderField 32000 bracedContext =
      .error (.other "ValueError" "Single '\x7d' encountered in format string") := by
    intro renderField
    rw [buildPromptPayload_eq]
    apply fitPrompt_of_error
    obtain ⟨rest, template⟩ :=
      promptTemplate_of_branch (show bracedContext.defaultBranch = "release" ++ "\x7d" by decide)
    rw [fillTemplate, strFormat, template, formatFrom_stray_brace (by decide)]
    rfl
  refine ⟨fits, fun renderField => ⟨failed renderField, fun composed => ?_⟩⟩
  obtain ⟨payload, built, _⟩ := composed 32000 fits
  rw [failed renderField] at built
  cases built

end ResearchTool
