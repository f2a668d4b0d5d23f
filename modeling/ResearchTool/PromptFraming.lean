import ResearchTool.PromptSeams
import ResearchTool.Redaction

/-!
# The delimiters of the prompt

The prompt is one delimited block exactly when no untrusted text spells a
delimiter: the fixed texts do not, redaction and truncation cannot, and no
delimiter fits across a seam.
-/

namespace ResearchTool

open Python

/-- The two tags around the block. -/
def IsDelimiter (word : Text) : Prop :=
  word = openingTag ∨ word = closingTag

/-- The text is one delimited block: each tag occurs once, at its end. -/
structure IsFramed (text : Text) : Prop where
  opens : openingTag <+: text
  closes : closingTag <:+ text
  opens_once : ∀ before after, text = before ++ openingTag ++ after → before = []
  closes_once : ∀ before after, text = before ++ closingTag ++ after → after = []

/-! ## The language of the tags -/

def isTagLetter (c : Char) : Bool :=
  (openingTag ++ closingTag).contains c

def tagFollows (c d : Char) : Bool :=
  isTagLetter c && isTagLetter d

theorem delimiterLanguage : PromptLanguage IsDelimiter tagFollows where
  nonempty := by
    rintro (same | same) <;> cases same
  chains := by
    rintro _ (rfl | rfl) <;> decide
  digitless := by
    rintro _ (rfl | rfl) <;> decide
  first := by
    rintro _ (rfl | rfl) <;> decide
  last := by
    rintro _ (rfl | rfl) <;> decide
  seams := by decide
  labels := by
    have absent : ∀ label ∈ promptLabels, ¬ openingTag <:+: label ∧ ¬ closingTag <:+: label := by
      decide
    rintro label listed ⟨_, rfl | rfl, inside⟩
    · exact (absent label listed).1 inside
    · exact (absent label listed).2 inside
  marker := by
    rintro ⟨_, rfl | rfl, inside⟩
    · exact absurd inside (by decide)
    · exact absurd inside (by decide)

theorem unmarked_isDelimiter : Unmarked IsDelimiter := by
  rintro _ (rfl | rfl) <;> decide

/-- Redaction neither makes nor breaks a delimiter. -/
theorem contains_delimiter_sanitizeText {text : Text} :
    Contains IsDelimiter (sanitizeText text) ↔ Contains IsDelimiter text := by
  constructor
  · exact contains_of_contains_sanitizeText unmarked_isDelimiter
  · rintro ⟨_, rfl | rfl, occurs⟩
    · exact ⟨openingTag, .inl rfl, infix_sanitizeText (by decide) (by decide) occurs⟩
    · exact ⟨closingTag, .inr rfl, infix_sanitizeText (by decide) (by decide) occurs⟩

/-- Neither does stripping. -/
theorem contains_delimiter_strip {text : Text} :
    Contains IsDelimiter (strip text) ↔ Contains IsDelimiter text := by
  have nonempty := delimiterLanguage.nonempty
  have first : ∀ word, IsDelimiter word → ∀ c ∈ word.head?, isSpace c = false := by
    rintro _ (rfl | rfl) <;> decide
  have last : ∀ word, IsDelimiter word → ∀ c ∈ word.getLast?, isSpace c = false := by
    rintro _ (rfl | rfl) <;> decide
  rw [strip, stripBy, contains_rdropWhile_iff nonempty last, contains_dropWhile_iff nonempty first]

theorem contains_delimiter_promptReadme (rawContext : RepositoryRawContext) :
    Contains IsDelimiter (promptReadme rawContext) ↔
      Contains IsDelimiter (rawContext.readmeText.getD "").toList := by
  rw [promptReadme, contains_delimiter_sanitizeText, contains_delimiter_strip]

/-! ## Framed prompts -/

/-- A block is framed exactly when no delimiter occurs between its tags. -/
theorem isFramed_iff (body : Text) :
    IsFramed (openingTag ++ '\n' :: (body ++ '\n' :: closingTag)) ↔
      ¬ Contains IsDelimiter body := by
  have opening : '\n' ∉ openingTag := by decide
  have closing : '\n' ∉ closingTag := by decide
  have closingNested : ¬ closingTag <:+: openingTag := by decide
  have openingNested : ¬ openingTag <:+: closingTag := by decide
  constructor
  · rintro framed ⟨_, rfl | rfl, before, after, rfl⟩
    · have none := framed.opens_once (openingTag ++ '\n' :: before)
        (after ++ '\n' :: closingTag) (by simp)
      cases none
    · have none := framed.closes_once (openingTag ++ '\n' :: before)
        (after ++ '\n' :: closingTag) (by simp)
      simp at none
  · intro free
    have inside : ∀ {word before after}, IsDelimiter word → body ≠ before ++ word ++ after := by
      rintro word before after delimiter rfl
      exact free ⟨word, delimiter, before, after, rfl⟩
    refine ⟨List.prefix_append _ _, ⟨openingTag ++ '\n' :: (body ++ ['\n']), by simp⟩, ?_, ?_⟩
    · intro before after same
      rcases occurrence_cases opening same.symm with ⟨rest, tag⟩ | ⟨rest, _, later⟩
      · have lengths := congrArg List.length tag
        simp only [List.length_append] at lengths
        exact List.length_eq_zero_iff.mp (by omega)
      · rcases occurrence_cases opening later.symm with ⟨more, between⟩ | ⟨more, _, tag⟩
        · exact absurd between (inside (.inl rfl))
        · exact absurd ⟨more, after, tag.symm⟩ openingNested
    · intro before after same
      rcases occurrence_cases closing same.symm with ⟨rest, tag⟩ | ⟨rest, _, later⟩
      · exact absurd ⟨before, rest, tag.symm⟩ closingNested
      · rcases occurrence_cases closing later.symm with ⟨more, between⟩ | ⟨more, _, tag⟩
        · exact absurd between (inside (.inr rfl))
        · have lengths := congrArg List.length tag
          simp only [List.length_append] at lengths
          exact List.length_eq_zero_iff.mp (by omega)

theorem isFramed_composePrompt_iff (shown readme tree : Text) :
    IsFramed (composePrompt shown readme tree) ↔
      ¬ Contains IsDelimiter shown ∧ ¬ Contains IsDelimiter readme ∧
      ¬ Contains IsDelimiter tree := by
  have newline : "\n".toList = ['\n'] := by decide
  have block : composePrompt shown readme tree = openingTag ++ '\n' ::
      ((shown ++ "\nREADME:\n".toList ++ readme ++ "\n\nTop-level structure:\n".toList ++ tree) ++
        '\n' :: closingTag) := by
    rw [composePrompt, newline]
    simp only [List.append_assoc, List.cons_append, List.nil_append]
  rw [block, isFramed_iff, delimiterLanguage.contains_body]
  push Not
  rfl

/-- Every prompt of the repository is framed. -/
def PromptIsFramed (renderField : FieldRenderer) (rawContext : RepositoryRawContext) : Prop :=
  ∀ maxContextTokens payload,
    buildPromptPayload renderField maxContextTokens rawContext = .ok payload →
      IsFramed payload.promptText.toList

/-- No text of the repository that a prompt shows contains a delimiter. -/
structure Undelimited (rawContext : RepositoryRawContext) : Prop where
  header : HeaderFieldsFree IsDelimiter rawContext
  readme : ¬ Contains IsDelimiter (rawContext.readmeText.getD "").toList
  entries : EntriesFree IsDelimiter rawContext

/-- The prompts of a repository are framed if and only if none of its texts contains
a delimiter, where the header counts as it is shown above the sections that the
budget leaves.  Over a header that quotes no section this does not depend on
the budget, and over one without braces it is a matter of the header's
fields. -/
theorem prompt_is_framed_iff (renderField : FieldRenderer) (rawContext : RepositoryRawContext) :
    (PromptIsFramed renderField rawContext ↔ ∀ maxContextTokens shown readme tree,
      PromptParts renderField rawContext maxContextTokens shown readme tree →
        ¬ Contains IsDelimiter shown ∧
          ¬ Contains IsDelimiter (rawContext.readmeText.getD "").toList ∧
          EntriesFree IsDelimiter rawContext) ∧
    (HeaderIgnoresSections renderField rawContext →
      (PromptIsFramed renderField rawContext ↔ ∀ shown, HeaderShown renderField rawContext shown →
        ¬ Contains IsDelimiter shown ∧
          ¬ Contains IsDelimiter (rawContext.readmeText.getD "").toList ∧
          EntriesFree IsDelimiter rawContext)) ∧
    (HeaderFieldsBraceless rawContext →
      (PromptIsFramed renderField rawContext ↔ Undelimited rawContext)) := by
  have exactly : PromptIsFramed renderField rawContext ↔ ∀ maxContextTokens shown readme tree,
      PromptParts renderField rawContext maxContextTokens shown readme tree →
        ¬ Contains IsDelimiter shown ∧
          ¬ Contains IsDelimiter (rawContext.readmeText.getD "").toList ∧
          EntriesFree IsDelimiter rawContext := by
    rw [PromptIsFramed, delimiterLanguage.prompts_iff isFramed_composePrompt_iff,
      contains_delimiter_promptReadme]
  refine ⟨exactly, fun ignores => ?_, fun braceless => ?_⟩
  · rw [exactly, forall_parts_iff ignores]
  · rw [exactly, forall_shown_iff braceless, delimiterLanguage.headerFieldsFree_iff]
    exact ⟨fun ⟨header, readme, entries⟩ => ⟨header, readme, entries⟩,
      fun ⟨header, readme, entries⟩ => ⟨header, readme, entries⟩⟩

theorem not_contains_isDelimiter_iff {text : Text} :
    ¬ Contains IsDelimiter text ↔ ¬ openingTag <:+: text ∧ ¬ closingTag <:+: text := by
  constructor
  · intro free
    exact ⟨fun inside => free ⟨_, .inl rfl, inside⟩, fun inside => free ⟨_, .inr rfl, inside⟩⟩
  · rintro ⟨opening, closing⟩ ⟨_, rfl | rfl, inside⟩
    · exact opening inside
    · exact closing inside

/-- A repository whose README talks about tags. -/
def taggedContext : RepositoryRawContext :=
  { branchContext "main" with
    readmeText := some "See <repository> and content>.", treeEntries := [⟨"src", "tree"⟩] }

theorem prompt_is_framed_tagged : PromptIsFramed missingKey taggedContext := by
  have braceless : HeaderFieldsBraceless taggedContext := by
    unfold HeaderFieldsBraceless
    decide +kernel
  apply ((prompt_is_framed_iff missingKey taggedContext).2.2 braceless).mpr
  constructor
  · simp only [HeaderFieldsFree, not_contains_isDelimiter_iff]
    decide +kernel
  · rw [not_contains_isDelimiter_iff]
    decide +kernel
  · simp only [EntriesFree, not_contains_isDelimiter_iff]
    decide +kernel

/-- A repository whose README closes the block. -/
def escapingContext : RepositoryRawContext :=
  { branchContext "main" with readmeText := some "</repository_content>" }

theorem prompt_readme_escapes : ¬ PromptIsFramed missingKey escapingContext := by
  intro framed
  have braceless : HeaderFieldsBraceless escapingContext := by
    unfold HeaderFieldsBraceless
    decide +kernel
  obtain ⟨maxContextTokens, parts⟩ := exists_whole_parts
    (strFormat_of_braceless missingKey braceless _ _)
  have readme := ((delimiterLanguage.prompts_iff isFramed_composePrompt_iff).mp framed
    _ _ _ _ parts).2.1
  rw [contains_delimiter_promptReadme] at readme
  exact readme ⟨closingTag, .inr rfl, by decide +kernel⟩

end ResearchTool
