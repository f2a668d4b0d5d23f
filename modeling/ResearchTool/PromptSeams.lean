import ResearchTool.PromptComposition
import ResearchTool.Python.Occurrence

/-!
# Words across the seams of a prompt

The prompt joins untrusted texts by fixed ones.  For a language none of whose
words fits across a seam, the prompt contains a word exactly when one of the
untrusted texts does, whole or cut.
-/

namespace ResearchTool

open Python

/-- The letters that meet where a fixed text follows an untrusted one, or the
other way round. -/
def promptSeams : List (Char × Char) :=
  [(':', ' '), (':', '\n'), ('\n', 'D'), ('\n', 'C'), ('\n', 'S'), ('\n', 'R'), ('\n', 'T'),
    ('\n', '.'), (' ', '('), (')', '\n')]

/-- The fixed texts that end in a colon. -/
def promptLabels : List Text :=
  ["Repository URL:", "Default branch:", "Commit SHA:", "Stars:", "Forks:", "Primary language:",
    "README:", "Top-level structure:"].map String.toList

/-- A language whose words lie across no seam and in no fixed text. -/
structure PromptLanguage (words : Text → Prop) (follows : Char → Char → Bool) : Prop where
  nonempty : ¬ words []
  chains : ∀ word, words word → word.IsChain fun c d => follows c d = true
  digitless : ∀ word, words word → ∀ c ∈ word, c.isDigit = false
  first : ∀ word, words word → ∀ c ∈ word.head?, c ∉ [' ', '\n', '-', '(']
  last : ∀ word, words word → ∀ c ∈ word.getLast?, c ∉ [' ', '\n', ')']
  seams : ∀ seam ∈ promptSeams, follows seam.1 seam.2 = false
  labels : ∀ label ∈ promptLabels, ¬ Contains words label
  marker : ¬ Contains words "...[truncated]".toList

namespace PromptLanguage

variable {words : Text → Prop} {follows : Char → Char → Bool}
  (language : PromptLanguage words follows)

include language

theorem apart_of_seam {left right : Text} {c d : Char} (seam : (c, d) ∈ promptSeams)
    (ends : left.getLast? = some c) (begins : right.head? = some d) : Apart words left right := by
  apply apart_of_isChain language.chains
  rw [ends, begins]
  rintro _ ⟨⟩ _ ⟨⟩
  simp [language.seams _ seam]

theorem contains_at_seam {c d : Char} (seam : (c, d) ∈ promptSeams) (left right : Text) :
    Contains words (left ++ c :: d :: right) ↔
      Contains words (left ++ [c]) ∨ Contains words (d :: right) := by
  rw [← contains_append_iff (language.apart_of_seam seam (c := c) (d := d) (by simp) rfl),
    List.append_assoc]
  rfl

/-- Nothing starts in the blanks and signs before an untrusted text. -/
theorem contains_skip {left right : Text} (skipped : left ⊆ [' ', '\n', '-', '(']) :
    Contains words (left ++ right) ↔ Contains words right :=
  contains_append_of_first language.nonempty
    fun word listed c start inside => language.first word listed c start (skipped inside)

/-- Nothing ends in the blanks and signs after an untrusted text. -/
theorem contains_drop {left right : Text} (dropped : right ⊆ [' ', '\n', ')']) :
    Contains words (left ++ right) ↔ Contains words left :=
  contains_append_of_last language.nonempty
    fun word listed c final inside => language.last word listed c final (dropped inside)

/-- A label is no part of a word. -/
theorem contains_labelled {label : Text} {blank : Char} (listed : label ∈ promptLabels)
    (space : blank = ' ' ∨ blank = '\n') (rest : Text) :
    Contains words (label ++ blank :: rest) ↔ Contains words rest := by
  have colon : ∀ label ∈ promptLabels, label.getLast? = some ':' := by decide
  have seam : (':', blank) ∈ promptSeams := by rcases space with rfl | rfl <;> decide
  have blanks : [blank] ⊆ [' ', '\n', '-', '('] := by rcases space with rfl | rfl <;> decide
  rw [contains_append_iff (language.apart_of_seam seam (colon label listed) rfl),
    ← List.singleton_append, language.contains_skip blanks]
  simp [language.labels label listed]

/-- A line ends before the next label. -/
theorem contains_line {label : Text} {blank : Char} (listed : label ∈ promptLabels)
    (space : blank = ' ' ∨ blank = '\n') (seam : label.head?.any fun d => ('\n', d) ∈ promptSeams)
    (line rest : Text) :
    Contains words (line ++ '\n' :: (label ++ blank :: rest)) ↔
      Contains words line ∨ Contains words rest := by
  obtain ⟨d, begins, seam⟩ := (Option.any_eq_true _ _).mp seam
  obtain ⟨tail, rfl⟩ := List.head?_eq_some_iff.mp begins
  rw [List.cons_append, language.contains_at_seam (of_decide_eq_true seam), ← List.cons_append,
    language.contains_drop (by decide), language.contains_labelled listed space]

/-- A line with a number is no part of a word. -/
theorem contains_number (number : Nat) (rest : Text) :
    Contains words ((toString number).toList ++ '\n' :: rest) ↔ Contains words rest := by
  rw [← List.singleton_append, ← List.append_assoc]
  apply contains_append_of_first language.nonempty
  intro word listed c start inside
  rcases List.mem_append.mp inside with digit | newline
  · have foreign := language.digitless word listed c (List.mem_of_mem_head? start)
    rw [isDigit_of_mem_toString digit] at foreign
    cases foreign
  · exact language.first word listed c start (by simp [List.mem_singleton.mp newline])

/-- The header shows its four untrusted texts apart from each other. -/
theorem contains_promptHeader (rawContext : RepositoryRawContext) :
    Contains words (promptHeader rawContext) ↔
      ∃ field ∈ headerFields rawContext, Contains words field.toList := by
  have lines : promptHeader rawContext =
      "Repository URL:".toList ++ ' ' :: (rawContext.repositoryUrl.toList ++ '\n' ::
        ("Default branch:".toList ++ ' ' :: (rawContext.defaultBranch.toList ++ '\n' ::
          ("Commit SHA:".toList ++ ' ' :: (rawContext.commitSha.toList ++ '\n' ::
            ("Stars:".toList ++ ' ' :: ((toString rawContext.instantData.stars).toList ++ '\n' ::
              ("Forks:".toList ++ ' ' :: ((toString rawContext.instantData.forks).toList ++ '\n' ::
                ("Primary language:".toList ++ ' ' ::
                  ((orDefault rawContext.instantData.primaryLang "Unknown").toList ++
                    ['\n']))))))))))) := by
    simp [promptHeader]
  rw [lines, language.contains_labelled (by decide) (.inl rfl),
    language.contains_line (by decide) (.inl rfl) (by decide),
    language.contains_line (by decide) (.inl rfl) (by decide),
    language.contains_line (by decide) (.inl rfl) (by decide),
    language.contains_number, language.contains_labelled (by decide) (.inl rfl),
    language.contains_number, language.contains_labelled (by decide) (.inl rfl),
    language.contains_drop (by decide)]
  simp only [headerFields, List.exists_mem_cons_iff, List.not_mem_nil, false_and, exists_false,
    or_false]

/-- The three untrusted parts of a prompt are apart from each other. -/
theorem contains_body (shown readme tree : Text) :
    Contains words (shown ++ "\nREADME:\n".toList ++ readme ++
        "\n\nTop-level structure:\n".toList ++ tree) ↔
      Contains words shown ∨ Contains words readme ∨ Contains words tree := by
  have first : "\nREADME:\n".toList = '\n' :: ("README:".toList ++ ['\n']) := by decide
  have second : "\n\nTop-level structure:\n".toList =
      '\n' :: '\n' :: ("Top-level structure:".toList ++ ['\n']) := by decide
  have parts : shown ++ "\nREADME:\n".toList ++ readme ++ "\n\nTop-level structure:\n".toList ++
      tree =
      shown ++ '\n' :: ("README:".toList ++ '\n' :: ((readme ++ ['\n']) ++ '\n' ::
        ("Top-level structure:".toList ++ '\n' :: tree))) := by
    rw [first, second]
    simp
  rw [parts, language.contains_line (by decide) (.inr rfl) (by decide),
    language.contains_line (by decide) (.inr rfl) (by decide), language.contains_drop (by decide)]

/-- An entry is shown in one line. -/
theorem contains_entryLine (entry : RepositoryTreeEntry) :
    Contains words (entryLine entry) ↔
      Contains words entry.name.toList ∨ Contains words entry.type.toList := by
  have parts : entryLine entry =
      ['-', ' '] ++ (entry.name.toList ++ ' ' :: '(' :: (entry.type.toList ++ [')'])) := by
    simp [entryLine]
  rw [parts, language.contains_skip (by decide), language.contains_at_seam (by decide),
    language.contains_drop (by decide), ← List.singleton_append,
    language.contains_skip (by decide), language.contains_drop (by decide)]

theorem contains_promptTree (rawContext : RepositoryRawContext) :
    Contains words (promptTree rawContext) ↔
      ∃ entry ∈ promptEntries rawContext,
        Contains words entry.name.toList ∨ Contains words entry.type.toList := by
  have closed : ∀ line ∈ (promptEntries rawContext).map entryLine, line.getLast? = some ')' := by
    intro line member
    obtain ⟨entry, _, rfl⟩ := List.mem_map.mp member
    simp [entryLine, List.getLast?_cons]
  rw [promptTree, join, contains_intercalate_iff language.nonempty (List.cons_ne_nil _ _)
    (fun line member => language.apart_of_seam (by decide) (closed line member) rfl)
    (fun word listed c start inside =>
      language.first word listed c start (by simp [List.mem_singleton.mp inside]))]
  simp [language.contains_entryLine]

/-- Cutting a section makes no word. -/
theorem contains_of_isCutOf {shown whole : Text} (cut : IsCutOf shown whole)
    (contains : Contains words shown) : Contains words whole := by
  rcases cut with rfl | ⟨length, rfl⟩
  · exact contains
  · have marker : truncationMarker = '\n' :: '.' :: "..[truncated]".toList := by decide
    rw [marker, language.contains_at_seam (by decide),
      language.contains_drop (by decide)] at contains
    rcases contains with inside | marked
    · exact inside.mono (List.take_prefix _ _).isInfix
    · exact absurd marked language.marker

end PromptLanguage

/-! ## Prompts free of a language -/

/-- No entry that is shown has a word in its name or type. -/
def EntriesFree (words : Text → Prop) (rawContext : RepositoryRawContext) : Prop :=
  ∀ entry ∈ promptEntries rawContext,
    ¬ Contains words entry.name.toList ∧ ¬ Contains words entry.type.toList

/-- No field of the header has a word. -/
def HeaderFieldsFree (words : Text → Prop) (rawContext : RepositoryRawContext) : Prop :=
  ∀ field ∈ headerFields rawContext, ¬ Contains words field.toList

section

variable {renderField : FieldRenderer} {rawContext : RepositoryRawContext}

/-- The header as the template shows it above two sections. -/
def HeaderAbove (renderField : FieldRenderer) (rawContext : RepositoryRawContext)
    (readme tree shown : Text) : Prop :=
  strFormat renderField (promptArguments readme tree) (promptHeader rawContext) = .ok shown

/-- The header as the template shows it when the sections are whole. -/
def HeaderShown (renderField : FieldRenderer) (rawContext : RepositoryRawContext) (shown : Text) :
    Prop :=
  strFormat renderField (promptArguments (promptReadme rawContext) (promptTree rawContext))
    (promptHeader rawContext) = .ok shown

/-- No replacement field of the header refers to a section. -/
def HeaderIgnoresSections (renderField : FieldRenderer) (rawContext : RepositoryRawContext) :
    Prop :=
  ∀ readme tree, strFormat renderField (promptArguments readme tree) (promptHeader rawContext) =
    strFormat renderField (promptArguments (promptReadme rawContext) (promptTree rawContext))
      (promptHeader rawContext)

/-- The sections a budget leaves: first the README is cut, if the prompt with the
whole sections is too long, and then the tree, if it still is.  The header may
quote a section, and is shown with the sections as they are at the time. -/
def PromptParts (renderField : FieldRenderer) (rawContext : RepositoryRawContext)
    (maxContextTokens : Int) (shown readme tree : Text) : Prop :=
  ∃ whole halfway, HeaderShown renderField rawContext whole ∧
    readme = cutSection (maxContextTokens * 4) 64 256
      (composePrompt whole (promptReadme rawContext) (promptTree rawContext))
      (promptReadme rawContext) ∧
    HeaderAbove renderField rawContext readme (promptTree rawContext) halfway ∧
    tree = cutSection (maxContextTokens * 4) 32 128
      (composePrompt halfway readme (promptTree rawContext)) (promptTree rawContext) ∧
    HeaderAbove renderField rawContext readme tree shown

/-- The prompts that are built are composed of these parts. -/
theorem exists_payload_iff {maxContextTokens : Int} {text : Text} :
    (∃ payload, buildPromptPayload renderField maxContextTokens rawContext = .ok payload ∧
      payload.promptText.toList = text) ↔
    ∃ shown readme tree, PromptParts renderField rawContext maxContextTokens shown readme tree ∧
      text = composePrompt shown readme tree := by
  rw [buildPromptPayload_eq, fitPrompt_eq_ok_iff]
  simp only [fillTemplate_eq_ok_iff]
  constructor
  · rintro ⟨_, _, readme, cut, ⟨whole, formatted, rfl⟩, ⟨halfway, refilled, rfl⟩, shown, last, rfl⟩
    exact ⟨shown, readme, _, ⟨whole, halfway, formatted, cut, refilled, rfl, last⟩, rfl⟩
  · rintro ⟨shown, readme, _, ⟨whole, halfway, formatted, cut, refilled, rfl, last⟩, rfl⟩
    exact ⟨_, _, readme, cut, ⟨whole, formatted, rfl⟩, ⟨halfway, refilled, rfl⟩, shown, last, rfl⟩

namespace PromptParts

variable {maxContextTokens : Int} {shown readme tree : Text}
  (parts : PromptParts renderField rawContext maxContextTokens shown readme tree)

include parts

theorem readme_isCutOf : IsCutOf readme (promptReadme rawContext) := by
  obtain ⟨whole, halfway, -, rfl, -⟩ := parts
  exact isCutOf_cutSection _ _ _ _ _

theorem tree_isCutOf : IsCutOf tree (promptTree rawContext) := by
  obtain ⟨whole, halfway, -, -, -, rfl, -⟩ := parts
  exact isCutOf_cutSection _ _ _ _ _

/-- A header that ignores the sections is shown as above the whole ones. -/
theorem headerShown (ignores : HeaderIgnoresSections renderField rawContext) :
    HeaderShown renderField rawContext shown := by
  obtain ⟨whole, halfway, -, -, -, -, above⟩ := parts
  rw [HeaderShown, ← ignores readme tree]
  exact above

end PromptParts

/-- Under some budget no section is cut. -/
theorem exists_whole_parts {shown : Text} (formatted : HeaderShown renderField rawContext shown) :
    ∃ maxContextTokens, PromptParts renderField rawContext maxContextTokens shown
      (promptReadme rawContext) (promptTree rawContext) := by
  let text := composePrompt shown (promptReadme rawContext) (promptTree rawContext)
  have fits : ¬ (text.length : Int) * 4 < (text.length : Int) := by omega
  have uncut : ∀ margin floor part,
      part = cutSection ((text.length : Int) * 4) margin floor text part := by
    intro margin floor part
    exact (if_neg fun long => fits long.1).symm
  exact ⟨text.length, shown, shown, formatted, uncut 64 256 _, formatted,
    uncut 32 128 _, formatted⟩

variable {words : Text → Prop} {follows : Char → Char → Bool} {Good : Text → Prop}

/-- Every prompt is good exactly when none of its parts has a word: the header as
it is shown, the whole README, and the entries. -/
theorem PromptLanguage.prompts_iff (language : PromptLanguage words follows)
    (good : ∀ shown readme tree, Good (composePrompt shown readme tree) ↔
      ¬ Contains words shown ∧ ¬ Contains words readme ∧ ¬ Contains words tree) :
    (∀ maxContextTokens payload,
        buildPromptPayload renderField maxContextTokens rawContext = .ok payload →
          Good payload.promptText.toList) ↔
      ∀ maxContextTokens shown readme tree,
        PromptParts renderField rawContext maxContextTokens shown readme tree →
          ¬ Contains words shown ∧ ¬ Contains words (promptReadme rawContext) ∧
            EntriesFree words rawContext := by
  constructor
  · intro prompts
    have composed : ∀ maxContextTokens shown readme tree,
        PromptParts renderField rawContext maxContextTokens shown readme tree →
          Good (composePrompt shown readme tree) := by
      intro maxContextTokens shown readme tree parts
      obtain ⟨payload, built, same⟩ := exists_payload_iff.mpr ⟨shown, readme, tree, parts, rfl⟩
      exact same ▸ prompts maxContextTokens payload built
    intro maxContextTokens shown readme tree parts
    have header := ((good _ _ _).mp (composed _ _ _ _ parts)).1
    -- a larger budget shows the sections as they are
    obtain ⟨whole, _, formatted, -⟩ := parts
    obtain ⟨larger, uncut⟩ := exists_whole_parts formatted
    obtain ⟨-, readmeFree, treeFree⟩ := (good _ _ _).mp (composed _ _ _ _ uncut)
    rw [language.contains_promptTree] at treeFree
    exact ⟨header, readmeFree, fun entry member =>
      ⟨fun name => treeFree ⟨entry, member, .inl name⟩,
        fun type => treeFree ⟨entry, member, .inr type⟩⟩⟩
  · intro free maxContextTokens payload built
    obtain ⟨shown, readme, tree, parts, same⟩ := exists_payload_iff.mp ⟨payload, built, rfl⟩
    obtain ⟨header, readmeFree, entriesFree⟩ := free _ _ _ _ parts
    rw [same]
    refine (good _ _ _).mpr ⟨header, ?_, ?_⟩
    · exact fun contains => readmeFree (language.contains_of_isCutOf parts.readme_isCutOf contains)
    · intro contains
      have whole := language.contains_of_isCutOf parts.tree_isCutOf contains
      obtain ⟨entry, member, name | type⟩ := (language.contains_promptTree rawContext).mp whole
      · exact (entriesFree entry member).1 name
      · exact (entriesFree entry member).2 type

/-- Over a header that quotes no section, what is shown does not depend on the
budget. -/
theorem forall_parts_iff (ignores : HeaderIgnoresSections renderField rawContext)
    {holds : Text → Prop} :
    (∀ maxContextTokens shown readme tree,
        PromptParts renderField rawContext maxContextTokens shown readme tree → holds shown) ↔
      ∀ shown, HeaderShown renderField rawContext shown → holds shown := by
  constructor
  · intro all shown formatted
    obtain ⟨maxContextTokens, parts⟩ := exists_whole_parts formatted
    exact all _ _ _ _ parts
  · intro all maxContextTokens shown readme tree parts
    exact all shown (parts.headerShown ignores)

/-- Over a header without braces, what is shown is the header. -/
theorem forall_shown_iff (braceless : HeaderFieldsBraceless rawContext) {holds : Text → Prop} :
    (∀ maxContextTokens shown readme tree,
        PromptParts renderField rawContext maxContextTokens shown readme tree → holds shown) ↔
      holds (promptHeader rawContext) := by
  have formatted := strFormat_of_braceless renderField braceless
  have ignores : HeaderIgnoresSections renderField rawContext := by
    intro readme tree
    rw [formatted, formatted]
  rw [forall_parts_iff ignores]
  simp [HeaderShown, formatted]

/-- No field of the header has a word exactly when the header has none. -/
theorem PromptLanguage.headerFieldsFree_iff (language : PromptLanguage words follows) :
    ¬ Contains words (promptHeader rawContext) ↔ HeaderFieldsFree words rawContext := by
  rw [language.contains_promptHeader, HeaderFieldsFree]
  push Not
  rfl

end

end ResearchTool
