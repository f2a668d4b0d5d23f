import ResearchTool.PromptComposition

/-!
# The budget of a prompt

A prompt that is too long loses the end of its README and then the end of its
structure.  Both cuts have a floor: a section is never cut below it, and the
marker is appended even where the floor leaves nothing to cut.
-/

namespace ResearchTool

open Python

/-- The prompt of a repository without README and entries. -/
def barePrompt (rawContext : RepositoryRawContext) : Text :=
  intendedPrompt { rawContext with readmeText := none, treeEntries := [] }

/-- A section with a certain number of characters around it: too long for the
budget and not empty. -/
def needsCut (around : Nat) (maxChars : Int) (text : Text) : Bool :=
  decide (maxChars < (around + text.length : Nat)) && !text.isEmpty

/-- A section after its turn of the truncation. -/
def shownSection (around : Nat) (maxChars margin floor : Int) (text : Text) : Text :=
  if needsCut around maxChars text then
    truncateSection ((around + text.length : Nat) - maxChars) margin floor text
  else
    text

/-- The README section of a prompt. -/
def shownReadme (bare : Nat) (maxChars : Int) (readme tree : Text) : Text :=
  shownSection (bare + tree.length) maxChars 64 256 readme

/-- The structure section of a prompt beside the README section it shows. -/
def shownTree (bare : Nat) (maxChars : Int) (readme tree : Text) : Text :=
  shownSection (bare + (shownReadme bare maxChars readme tree).length) maxChars 32 128 tree

/-- The warnings of a prompt. -/
def cutWarnings (bare : Nat) (maxChars : Int) (readme tree : Text) :
    List PartialAnalysisWarning :=
  (if needsCut (bare + tree.length) maxChars readme then [readmeWarning] else []) ++
    if needsCut (bare + (shownReadme bare maxChars readme tree).length) maxChars tree then
      [treeWarning]
    else []

/-! ## The prompt that is built -/

theorem length_composePrompt (header readme tree : Text) :
    (composePrompt header readme tree).length =
      (composePrompt header [] []).length + readme.length + tree.length := by
  simp only [composePrompt, List.length_append, List.length_nil]
  omega

theorem barePrompt_eq (rawContext : RepositoryRawContext) :
    barePrompt rawContext = composePrompt (promptHeader rawContext) [] [] := by
  rw [barePrompt, intendedPrompt_eq]
  rfl

section

variable (header readme tree : Text) (maxChars : Int)

/-- The README is cut when the prompt is too long. -/
theorem readme_needsCut_eq :
    (decide (maxChars < ((composePrompt header readme tree).length : Int)) && !readme.isEmpty) =
      needsCut ((composePrompt header [] []).length + tree.length) maxChars readme := by
  rw [length_composePrompt, needsCut, Nat.add_right_comm]

/-- The structure is cut when the prompt is still too long. -/
theorem tree_needsCut_eq :
    (decide (maxChars < ((composePrompt header readme tree).length : Int)) && !tree.isEmpty) =
      needsCut ((composePrompt header [] []).length + readme.length) maxChars tree := by
  rw [length_composePrompt, needsCut]

theorem truncateSection_readme (margin floor : Int) :
    truncateSection (((composePrompt header readme tree).length : Int) - maxChars) margin floor
        readme =
      truncateSection ((((composePrompt header [] []).length + tree.length + readme.length : Nat) :
        Int) - maxChars) margin floor readme := by
  rw [length_composePrompt, Nat.add_right_comm]

end

/-- A template that is always filled gives the sections after their turns. -/
theorem fitPrompt_of_fills (header readme tree : Text) (maxContextTokens : Int)
    (rawContext : RepositoryRawContext) :
    ∃ payload, fitPrompt (fun readme tree => .ok (composePrompt header readme tree)) readme tree
        maxContextTokens rawContext = .ok payload ∧
      payload.promptText.toList =
        composePrompt header
          (shownReadme (composePrompt header [] []).length (maxContextTokens * 4) readme tree)
          (shownTree (composePrompt header [] []).length (maxContextTokens * 4) readme tree) ∧
      payload.warnings =
        cutWarnings (composePrompt header [] []).length (maxContextTokens * 4) readme tree := by
  simp only [fitPrompt, bind, Except.bind, pure, Except.pure, readme_needsCut_eq, cutWarnings,
    shownTree, shownReadme, shownSection, truncateSection_readme]
  generalize maxContextTokens * 4 = maxChars
  generalize around : (composePrompt header [] []).length = bare
  by_cases readmeLong : needsCut (bare + tree.length) maxChars readme = true
  · simp only [readmeLong, if_true]
    generalize truncateSection _ 64 256 readme = shown
    rw [tree_needsCut_eq, around]
    by_cases treeLong : needsCut (bare + shown.length) maxChars tree = true
    · simp only [treeLong, if_true]
      refine ⟨_, rfl, ?_, rfl⟩
      rw [String.toList_ofList, length_composePrompt, around]
    · simp only [treeLong]
      exact ⟨_, rfl, String.toList_ofList, rfl⟩
  · have whole := Bool.eq_false_iff.mpr readmeLong
    simp only [whole, Bool.false_eq_true, if_false, List.nil_append, tree_needsCut_eq, around]
    by_cases treeLong : needsCut (bare + readme.length) maxChars tree = true
    · simp only [treeLong, if_true]
      refine ⟨_, rfl, ?_, rfl⟩
      rw [String.toList_ofList, length_composePrompt, around]
    · simp only [treeLong]
      exact ⟨_, rfl, String.toList_ofList, rfl⟩

/-- A prompt whose header has no braces is its header around the sections after
their turns. -/
theorem buildPromptPayload_of_braceless (renderField : FieldRenderer) (maxContextTokens : Int)
    {rawContext : RepositoryRawContext} (braceless : HeaderFieldsBraceless rawContext) :
    ∃ payload, buildPromptPayload renderField maxContextTokens rawContext = .ok payload ∧
      payload.promptText.toList =
        composePrompt (promptHeader rawContext)
          (shownReadme (barePrompt rawContext).length (maxContextTokens * 4)
            (promptReadme rawContext) (promptTree rawContext))
          (shownTree (barePrompt rawContext).length (maxContextTokens * 4)
            (promptReadme rawContext) (promptTree rawContext)) ∧
      payload.warnings = cutWarnings (barePrompt rawContext).length (maxContextTokens * 4)
        (promptReadme rawContext) (promptTree rawContext) := by
  have fills : fillTemplate renderField (promptTemplate (promptHeader rawContext)) =
      fun readme tree => .ok (composePrompt (promptHeader rawContext) readme tree) := by
    funext readme tree
    exact fillTemplate_eq_ok_iff.mpr ⟨_, strFormat_of_braceless renderField braceless _ _, rfl⟩
  rw [buildPromptPayload_eq, fills, barePrompt_eq]
  exact fitPrompt_of_fills _ _ _ _ _

/-! ## The length of a prompt -/

theorem needsCut_eq_true_iff {around : Nat} {maxChars : Int} {text : Text} :
    needsCut around maxChars text = true ↔
      maxChars < (around : Int) + text.length ∧ text ≠ [] := by
  simp [needsCut]

/-- A section beside which the prompt is still too long has been cut to its
floor, or was empty. -/
theorem length_shownSection {around : Nat} {maxChars margin floor : Int} {text : Text}
    (small : 15 ≤ margin) (positive : 0 ≤ floor)
    (long : maxChars < (around : Int) + (shownSection around maxChars margin floor text).length) :
    ((shownSection around maxChars margin floor text).length : Int) ≤ floor + 15 := by
  have marker : truncationMarker.length = 15 := by decide
  unfold shownSection at long ⊢
  split at long
  · next cut =>
      rw [if_pos cut]
      simp only [truncateSection, List.length_append, List.length_take, marker] at long ⊢
      omega
  · next fits =>
      rw [if_neg fits]
      rw [needsCut_eq_true_iff, not_and, not_not] at fits
      rw [fits long]
      simp only [List.length_nil]
      omega

/-- If the prompt stays too long, so it was when the README had been cut. -/
theorem long_of_shownTree_long {bare : Nat} {maxChars : Int} {readme tree : Text}
    (long : maxChars < (bare : Int) + (shownReadme bare maxChars readme tree).length +
      (shownTree bare maxChars readme tree).length) :
    maxChars < (bare : Int) + tree.length + (shownReadme bare maxChars readme tree).length := by
  unfold shownTree shownSection at long
  split at long
  · next cut =>
      have overflow := (needsCut_eq_true_iff.mp cut).1
      omega
  · omega

/-- A prompt is within its budget, or at most 414 characters longer than the
prompt without README and structure. -/
theorem prompt_within_budget (renderField : FieldRenderer) (maxContextTokens : Int)
    {rawContext : RepositoryRawContext} (braceless : HeaderFieldsBraceless rawContext) :
    ∃ payload, buildPromptPayload renderField maxContextTokens rawContext = .ok payload ∧
      (payload.promptText.length : Int) ≤
        max (4 * maxContextTokens) ((barePrompt rawContext).length + 414) ∧
      ((barePrompt rawContext).length + 414 ≤ 4 * maxContextTokens →
        payload.promptText.length ≤ 4 * maxContextTokens) := by
  obtain ⟨payload, built, text, -⟩ :=
    buildPromptPayload_of_braceless renderField maxContextTokens braceless
  have bound : (payload.promptText.length : Int) ≤
      max (4 * maxContextTokens) ((barePrompt rawContext).length + 414) := by
    rw [← String.length_toList, text, length_composePrompt, ← barePrompt_eq]
    generalize promptReadme rawContext = readme
    generalize promptTree rawContext = tree
    generalize (barePrompt rawContext).length = bare
    by_cases long : maxContextTokens * 4 < (bare : Int) +
        (shownReadme bare (maxContextTokens * 4) readme tree).length +
        (shownTree bare (maxContextTokens * 4) readme tree).length
    · have readmeFloor : ((shownReadme bare (maxContextTokens * 4) readme tree).length : Int) ≤
          256 + 15 := by
        apply length_shownSection (by decide) (by decide)
        simpa [shownReadme] using long_of_shownTree_long long
      have treeFloor : ((shownTree bare (maxContextTokens * 4) readme tree).length : Int) ≤
          128 + 15 := by
        apply length_shownSection (by decide) (by decide)
        simpa [shownTree] using long
      omega
    · omega
  refine ⟨payload, built, bound, ?_⟩
  omega

/-- A repository with a long README and many files. -/
def longContext : RepositoryRawContext :=
  { branchContext "main" with
    readmeText := some (String.ofList (List.replicate 300 'x'))
    treeEntries := "abcdefghijklmnopqrst".toList.map fun letter =>
      ⟨"chapter-" ++ String.singleton letter, "blob"⟩ }

theorem longContext_braceless : HeaderFieldsBraceless longContext := by
  unfold HeaderFieldsBraceless
  decide +kernel

/-- No unsafe instruction starts with an `x`. -/
theorem sanitizeText_replicate (n : Nat) :
    sanitizeText (List.replicate n 'x') = List.replicate n 'x' := by
  induction n with
  | zero => rfl
  | succ n ih => exact congrArg (List.cons 'x') ih

theorem promptReadme_longContext : promptReadme longContext = List.replicate 300 'x' := by
  have stripped : strip (String.ofList (List.replicate 300 'x')).toList =
      List.replicate 300 'x' := by
    rw [String.toList_ofList]
    decide +kernel
  exact (congrArg sanitizeText stripped).trans (sanitizeText_replicate 300)

theorem lengths_longContext : (barePrompt longContext).length = 204 ∧
    (promptReadme longContext).length = 300 ∧ (promptTree longContext).length = 379 := by
  rw [promptReadme_longContext]
  decide +kernel

/-- Under a budget of 200 tokens both sections are cut, and the prompt is within
it. -/
theorem prompt_within_budget_cut :
    shownReadme 204 800 (promptReadme longContext) (promptTree longContext) ≠
        promptReadme longContext ∧
      shownTree 204 800 (promptReadme longContext) (promptTree longContext) ≠
        promptTree longContext ∧
      ∃ payload, buildPromptPayload missingKey 200 longContext = .ok payload ∧
        (payload.promptText.length : Int) ≤ 800 := by
  obtain ⟨payload, built, -, within⟩ := prompt_within_budget missingKey 200 longContext_braceless
  rw [lengths_longContext.1] at within
  rw [promptReadme_longContext]
  exact ⟨by decide +kernel, by decide +kernel, payload, built, within (by decide)⟩

/-! ## Honest truncation -/

/-- A section is shown whole and without a warning, or a proper part of it is
shown with the marker and one warning, and no longer than the whole. -/
def SectionIsHonest (shown whole : Text) (warning : PartialAnalysisWarning)
    (warnings : List PartialAnalysisWarning) : Prop :=
  (shown = whole ∧ warning ∉ warnings) ∨
    ∃ kept, kept < whole.length ∧ shown = whole.take kept ++ truncationMarker ∧
      shown.length ≤ whole.length ∧ warnings.count warning = 1

/-- The prompt of a repository under a budget is honest about its sections, and
nothing is cut when the whole prompt fits. -/
def TruncationIsHonest (renderField : FieldRenderer) (maxContextTokens : Int)
    (rawContext : RepositoryRawContext) : Prop :=
  ∃ payload readme tree,
    buildPromptPayload renderField maxContextTokens rawContext = .ok payload ∧
    payload.promptText.toList = composePrompt (promptHeader rawContext) readme tree ∧
    readme = shownReadme (barePrompt rawContext).length (4 * maxContextTokens)
      (promptReadme rawContext) (promptTree rawContext) ∧
    tree = shownTree (barePrompt rawContext).length (4 * maxContextTokens)
      (promptReadme rawContext) (promptTree rawContext) ∧
    SectionIsHonest readme (promptReadme rawContext) readmeWarning payload.warnings ∧
    SectionIsHonest tree (promptTree rawContext) treeWarning payload.warnings ∧
    ((intendedPrompt rawContext).length ≤ 4 * maxContextTokens →
      payload.promptText.toList = intendedPrompt rawContext ∧ payload.warnings = [])

/-- Whenever the prompt is too long there is room for both cuts: the README has
none or at least 271 characters, and the structure has none or at least 143,
unless the README alone makes the prompt fit. -/
def CutsHaveRoom (maxContextTokens : Int) (rawContext : RepositoryRawContext) : Prop :=
  let bare := (barePrompt rawContext).length
  let readme := (promptReadme rawContext).length
  let tree := (promptTree rawContext).length
  4 * maxContextTokens < bare + readme + tree →
    (readme = 0 ∨ 271 ≤ readme) ∧
    (tree = 0 ∨ 143 ≤ tree ∨
      bare + (if readme = 0 then 0 else 271) + tree ≤ 4 * maxContextTokens)

/-- A section is honest if it needs no cut, or its floor and the marker fit into
it. -/
theorem sectionIsHonest_iff {around : Nat} {maxChars margin floor : Int} {text : Text}
    {warning : PartialAnalysisWarning} {warnings : List PartialAnalysisWarning}
    (small : 15 ≤ margin) (positive : 0 ≤ floor)
    (warned : warnings.count warning = if needsCut around maxChars text then 1 else 0) :
    SectionIsHonest (shownSection around maxChars margin floor text) text warning warnings ↔
      (maxChars < (around : Int) + text.length → text = [] ∨ floor + 15 ≤ text.length) := by
  have marker : truncationMarker.length = 15 := by decide
  unfold shownSection
  by_cases cut : needsCut around maxChars text = true
  · rw [if_pos cut] at warned ⊢
    obtain ⟨long, named⟩ := needsCut_eq_true_iff.mp cut
    have listed : warning ∈ warnings := List.count_pos_iff.mp (by omega)
    constructor
    · rintro (⟨-, absent⟩ | ⟨kept, -, -, shorter, -⟩) -
      · exact absurd listed absent
      · right
        simp only [truncateSection, List.length_append, List.length_take, marker] at shorter
        omega
    · intro room
      have room := (room long).resolve_left named
      refine .inr ⟨_, ?_, rfl, ?_, warned⟩
      · omega
      · simp only [truncateSection, List.length_append, List.length_take, marker]
        omega
  · rw [if_neg cut] at warned ⊢
    constructor
    · intro _ long
      rw [needsCut_eq_true_iff, not_and, not_not] at cut
      exact .inl (cut long)
    · intro _
      exact .inl ⟨rfl, List.count_eq_zero.mp warned⟩

section

variable (bare : Nat) (maxChars : Int) (readme tree : Text)

theorem count_readmeWarning :
    (cutWarnings bare maxChars readme tree).count readmeWarning =
      if needsCut (bare + tree.length) maxChars readme then 1 else 0 := by
  have different : treeWarning ≠ readmeWarning := by decide
  unfold cutWarnings
  split <;> split <;> simp [different]

theorem count_treeWarning :
    (cutWarnings bare maxChars readme tree).count treeWarning =
      if needsCut (bare + (shownReadme bare maxChars readme tree).length) maxChars tree then 1
      else 0 := by
  have different : readmeWarning ≠ treeWarning := by decide
  unfold cutWarnings
  split <;> split <;> simp [different]

/-- Nothing is cut from a prompt that fits. -/
theorem shown_of_fits (fits : (bare + readme.length + tree.length : Nat) ≤ maxChars) :
    shownReadme bare maxChars readme tree = readme ∧ shownTree bare maxChars readme tree = tree ∧
      cutWarnings bare maxChars readme tree = [] := by
  have readmeFits : needsCut (bare + tree.length) maxChars readme = false := by
    rw [← Bool.not_eq_true, needsCut_eq_true_iff]
    omega
  have shown : shownReadme bare maxChars readme tree = readme := by
    rw [shownReadme, shownSection, readmeFits]
    rfl
  have treeFits : needsCut (bare + readme.length) maxChars tree = false := by
    rw [← Bool.not_eq_true, needsCut_eq_true_iff]
    omega
  refine ⟨shown, ?_, ?_⟩
  · rw [shownTree, shown, shownSection, treeFits]
    rfl
  · rw [cutWarnings, shown, readmeFits, treeFits]
    rfl

variable {readme} in
/-- How long a README is shown that has room for its cut. -/
theorem length_shownReadme (long : maxChars < (bare : Int) + readme.length + tree.length)
    (room : readme.length = 0 ∨ 271 ≤ readme.length) :
    maxChars < (bare : Int) + (shownReadme bare maxChars readme tree).length + tree.length ↔
      ¬ bare + (if readme.length = 0 then 0 else 271) + tree.length ≤ maxChars := by
  have marker : truncationMarker.length = 15 := by decide
  unfold shownReadme shownSection
  split
  · next cut =>
      have named := List.length_pos_iff.mpr (needsCut_eq_true_iff.mp cut).2
      rw [if_neg (by omega)]
      simp only [truncateSection, List.length_append, List.length_take, marker]
      omega
  · next whole =>
      rw [needsCut_eq_true_iff, not_and, not_not] at whole
      have empty := whole (by omega)
      subst empty
      simp

end

/-- When each section of a built prompt is honest. -/
theorem sections_honest_iff {warnings : List PartialAnalysisWarning} {bare : Nat} {maxChars : Int}
    {readme tree : Text} (listed : warnings = cutWarnings bare maxChars readme tree) :
    (SectionIsHonest (shownReadme bare maxChars readme tree) readme readmeWarning warnings ↔
      (maxChars < ((bare + tree.length : Nat) : Int) + readme.length →
        readme = [] ∨ (256 : Int) + 15 ≤ readme.length)) ∧
    (SectionIsHonest (shownTree bare maxChars readme tree) tree treeWarning warnings ↔
      (maxChars < ((bare + (shownReadme bare maxChars readme tree).length : Nat) : Int) +
          tree.length → tree = [] ∨ (128 : Int) + 15 ≤ tree.length)) := by
  subst listed
  constructor
  · exact sectionIsHonest_iff (by decide) (by decide) (count_readmeWarning _ _ _ _)
  · exact sectionIsHonest_iff (by decide) (by decide) (count_treeWarning _ _ _ _)

section

variable {renderField : FieldRenderer} {maxContextTokens : Int} {rawContext : RepositoryRawContext}
  (braceless : HeaderFieldsBraceless rawContext)

include braceless

theorem cutsHaveRoom_of_honest
    (honest : TruncationIsHonest renderField maxContextTokens rawContext) :
    CutsHaveRoom maxContextTokens rawContext := by
  obtain ⟨payload, built, -, warnings⟩ :=
    buildPromptPayload_of_braceless renderField maxContextTokens braceless
  rw [Int.mul_comm] at warnings
  obtain ⟨readmeHonest, treeHonest⟩ := sections_honest_iff warnings
  obtain ⟨other, readme, tree, same, -, rfl, rfl, first, second, -⟩ := honest
  intro long
  obtain rfl : payload = other := Except.ok.inj (built.symm.trans same)
  have room : (promptReadme rawContext).length = 0 ∨ 271 ≤ (promptReadme rawContext).length := by
    rcases readmeHonest.mp first (by omega) with empty | enough
    · exact .inl (List.length_eq_zero_iff.mpr empty)
    · omega
  refine ⟨room, ?_⟩
  by_contra crowded
  rw [not_or, not_or] at crowded
  have still := (length_shownReadme _ _ _ long room).mpr crowded.2.2
  rcases treeHonest.mp second (by omega) with empty | enough
  · exact crowded.1 (List.length_eq_zero_iff.mpr empty)
  · omega

theorem honest_of_cutsHaveRoom (room : CutsHaveRoom maxContextTokens rawContext) :
    TruncationIsHonest renderField maxContextTokens rawContext := by
  obtain ⟨payload, built, text, warnings⟩ :=
    buildPromptPayload_of_braceless renderField maxContextTokens braceless
  rw [Int.mul_comm] at text warnings
  obtain ⟨readmeHonest, treeHonest⟩ := sections_honest_iff warnings
  have whole := shown_of_fits (barePrompt rawContext).length (4 * maxContextTokens)
    (promptReadme rawContext) (promptTree rawContext)
  refine ⟨payload, _, _, built, text, rfl, rfl, readmeHonest.mpr ?_, treeHonest.mpr ?_, ?_⟩
  · intro long
    rcases (room (by omega)).1 with empty | enough
    · exact .inl (List.length_eq_zero_iff.mp empty)
    · omega
  · intro still
    by_cases long : 4 * maxContextTokens < (barePrompt rawContext).length +
        (promptReadme rawContext).length + (promptTree rawContext).length
    · obtain ⟨readmeRoom, treeRoom⟩ := room long
      have crowded := (length_shownReadme _ _ _ long readmeRoom).mp (by omega)
      rcases treeRoom with empty | enough | fits
      · exact .inl (List.length_eq_zero_iff.mp empty)
      · omega
      · exact absurd fits crowded
    · rw [(whole (by omega)).1] at still
      omega
  · intro fits
    rw [intendedPrompt_eq, length_composePrompt, ← barePrompt_eq] at fits
    obtain ⟨readme, tree, none⟩ := whole (by omega)
    rw [text, warnings, intendedPrompt_eq, readme, tree]
    exact ⟨rfl, none⟩

end

/-- The truncation of a prompt is honest if and only if there is room for the
cuts it makes. -/
theorem truncation_is_honest_iff (renderField : FieldRenderer) (maxContextTokens : Int)
    {rawContext : RepositoryRawContext} (braceless : HeaderFieldsBraceless rawContext) :
    TruncationIsHonest renderField maxContextTokens rawContext ↔
      CutsHaveRoom maxContextTokens rawContext :=
  ⟨cutsHaveRoom_of_honest braceless, honest_of_cutsHaveRoom braceless⟩

/-- A repository with nothing but a README. -/
def readmeContext (readme : String) : RepositoryRawContext :=
  { branchContext "main" with readmeText := some readme }

theorem readmeContext_braceless (readme : String) :
    HeaderFieldsBraceless (readmeContext readme) := by
  have same : headerFields (readmeContext readme) = headerFields (branchContext "main") := rfl
  unfold HeaderFieldsBraceless
  rw [same]
  decide +kernel

theorem length_barePrompt_readmeContext (readme : String) :
    (barePrompt (readmeContext readme)).length = 204 := by
  have same : barePrompt (readmeContext readme) = barePrompt (readmeContext "") := rfl
  rw [same]
  decide +kernel

theorem promptReadme_hello : promptReadme (readmeContext "hello") = ['h', 'e', 'l', 'l', 'o'] := by
  decide +kernel

/-- Both sections are cut, and there is room for it. -/
theorem truncation_is_honest_cut : TruncationIsHonest missingKey 200 longContext := by
  apply (truncation_is_honest_iff missingKey 200 longContext_braceless).mpr
  unfold CutsHaveRoom
  rw [lengths_longContext.1, lengths_longContext.2.1, lengths_longContext.2.2]
  decide

/-- A short README is marked as truncated, and nothing of it has been dropped. -/
theorem truncation_of_short_readme :
    ∃ payload, buildPromptPayload missingKey 10 (readmeContext "hello") = .ok payload ∧
      payload.warnings = [readmeWarning] ∧
      ¬ TruncationIsHonest missingKey 10 (readmeContext "hello") := by
  have braceless := readmeContext_braceless "hello"
  obtain ⟨payload, built, -, warnings⟩ := buildPromptPayload_of_braceless missingKey 10 braceless
  rw [length_barePrompt_readmeContext, promptReadme_hello] at warnings
  refine ⟨payload, built, warnings.trans (by decide), fun honest => ?_⟩
  have room := cutsHaveRoom_of_honest braceless honest
  unfold CutsHaveRoom at room
  rw [length_barePrompt_readmeContext, promptReadme_hello] at room
  revert room
  decide

end ResearchTool
