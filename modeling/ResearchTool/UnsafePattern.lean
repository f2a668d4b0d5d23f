import ResearchTool.PromptRedaction
import ResearchTool.Python.Pattern

/-!
# Redaction as a substitution

`_UNSAFE_INSTRUCTION_RE` as a backtracking pattern.  The matcher of the
sanitizer finds what backtracking finds, and `_sanitize_text` is the
substitution of the pattern: complete, minimal and stable, also under the cut
of `build_prompt_payload`.
-/

namespace ResearchTool

open Python

/-! ## The pattern -/

/-- A character under `(?i)`. -/
def ignoringCase (c : Char) : Pattern Char :=
  .letter fun d => ignoreCase d == c

namespace PatternPiece

/-- A piece as `re` reads it: `\s+` is one blank and a greedy run, `\s*` a greedy
run. -/
def pattern : PatternPiece → Pattern Char
  | literal text => .concatenation (text.map ignoringCase)
  | spaces => .sequence (.letter isSpace) (.run isSpace)
  | optionalSpaces => .run isSpace

end PatternPiece

/-- `_UNSAFE_INSTRUCTION_RE`. -/
def unsafeInstructionRe : Pattern Char :=
  .alternation
    (unsafeInstructions.map fun pieces => .concatenation (pieces.map PatternPiece.pattern))

/-! ## The matcher against the pattern -/

theorem remainders_literal (literal text : Text) :
    (PatternPiece.literal literal).pattern.remainders text =
      (matchLiteral literal text).toList := by
  induction literal generalizing text with
  | nil => rfl
  | cons p literal ih =>
      cases text with
      | nil => rfl
      | cons c text =>
          have step : (PatternPiece.literal (p :: literal)).pattern.remainders (c :: text) =
              (if ignoreCase c == p then [text] else []).flatMap
                (PatternPiece.literal literal).pattern.remainders := rfl
          rw [step, matchLiteral]
          by_cases same : ignoreCase c = p
          · simp [same, ih]
          · simp [same]

/-- What starts with a literal does not begin with a blank. -/
theorem remainders_blank {p c : Char} {literal rest : Text} {pieces : List PatternPiece}
    (firm : Firm (.literal (p :: literal) :: pieces) = true) (space : isSpace c = true) :
    (Pattern.concatenation ((PatternPiece.literal (p :: literal) :: pieces).map
      PatternPiece.pattern)).remainders (c :: rest) = [] := by
  simp only [Firm, List.all_cons, Bool.and_eq_true, Bool.not_eq_true'] at firm
  have other : ignoreCase c ≠ p := by
    intro same
    rw [ignoreCase_of_isSpace space] at same
    rw [← same, space] at firm
    cases firm.1.1
  rw [List.map_cons, Pattern.concatenation_cons, Pattern.remainders, remainders_literal,
    matchLiteral, if_neg other]
  rfl

/-- There is at most one way to match the pieces of an alternative, and the
matcher finds it. -/
theorem remainders_pieces {pieces : List PatternPiece} (firm : Firm pieces = true) (text : Text) :
    (Pattern.concatenation (pieces.map PatternPiece.pattern)).remainders text =
      (matchPieces pieces text).toList := by
  fun_induction Firm pieces generalizing text with
  | case1 => rfl
  | case2 literal pieces ih =>
      simp only [Bool.and_eq_true] at firm
      rw [List.map_cons, Pattern.concatenation_cons, Pattern.remainders, remainders_literal,
        matchPieces]
      cases matchLiteral literal text with
      | none => rfl
      | some rest => simp [ih firm.2]
  | case3 c literal pieces ih =>
      have whole := Pattern.remainders_run_sequence fun d rest space =>
        @remainders_blank c d literal rest pieces firm space
      cases text with
      | nil => rfl
      | cons blank text =>
          rw [matchPieces.eq_3]
          by_cases space : isSpace blank = true
          · rw [if_pos space, List.dropWhile_cons_of_pos space, ← ih firm, ← whole]
            simp [PatternPiece.pattern, Pattern.remainders, space]
          · rw [if_neg space]
            simp [PatternPiece.pattern, Pattern.remainders, space]
  | case4 c literal pieces ih =>
      have whole := Pattern.remainders_run_sequence fun d rest space =>
        @remainders_blank c d literal rest pieces firm space
      rw [matchPieces, ← ih firm, ← whole]
      rfl
  | case5 => cases firm

/-- Trying the alternatives in order is trying the first that matches. -/
theorem matchUnsafe_eq (text : Text) :
    matchUnsafe text =
      (unsafeInstructionRe.remainder text).map fun rest => text.length - rest.length := by
  have tried : ∀ options : List (List PatternPiece), (∀ pieces ∈ options, Firm pieces = true) →
      ((options.map fun pieces => Pattern.concatenation (pieces.map PatternPiece.pattern)).flatMap
        fun option => option.remainders text).head? =
          options.findSome? fun pieces => matchPieces pieces text := by
    intro options firm
    induction options with
    | nil => rfl
    | cons pieces options ih =>
        have ih := ih fun other listed => firm other (List.mem_cons_of_mem _ listed)
        rw [List.map_cons, List.flatMap_cons, remainders_pieces (firm pieces List.mem_cons_self),
          List.findSome?_cons]
        cases matchPieces pieces text with
        | none => exact ih
        | some rest => rfl
  rw [Pattern.remainder, unsafeInstructionRe, Pattern.remainders_alternation,
    tried unsafeInstructions firm_unsafeInstructions, matchUnsafe, List.map_findSome?]
  rfl

theorem unsafeInstructionRe_absent_iff {text : Text} :
    unsafeInstructionRe.Absent text ↔ ¬ Contains UnsafeWord text := by
  rw [← hasNoUnsafeInstruction_iff]
  simp only [Pattern.Absent, HasNoUnsafeInstruction, matchUnsafe_eq, Option.map_eq_none_iff]

theorem unsafeInstructionRe_consumes : ¬ unsafeInstructionRe.Matches [] := by
  intro empty
  have tried : ([] : Text) ∈ unsafeInstructionRe.remainders [] :=
    Pattern.mem_remainders_iff.mpr ⟨[], rfl, empty⟩
  have none : unsafeInstructionRe.remainders [] = [] := by rfl
  rw [none] at tried
  cases tried

/-! ## Redaction against the substitution -/

theorem redactFrom_eq (skip : Nat) (text : Text) :
    redactFrom skip text =
      (unsafeInstructionRe.scanFrom skip text).flatMap (Segment.replaced redactedMarker) := by
  induction text generalizing skip with
  | nil => cases skip <;> rfl
  | cons c rest ih =>
      cases skip with
      | succ skip => exact ih skip
      | zero =>
          rw [redactFrom, Pattern.scanFrom, matchUnsafe_eq]
          cases unsafeInstructionRe.remainder (c :: rest) with
          | none =>
              simp only [Option.map_none, ih]
              rfl
          | some left =>
              have passed : (c :: rest).length - left.length - 1 = rest.length - left.length := by
                rw [List.length_cons]
                omega
              simp only [Option.map_some, passed, ih]
              rfl

/-- The result of redaction has no match and is stable, it is the substitution of
the pattern, and no cut of it brings a match back. -/
theorem redaction_complete_minimal_stable (value : Text) :
    unsafeInstructionRe.Absent (sanitizeText value) ∧
      sanitizeText (sanitizeText value) = sanitizeText value ∧
      (∀ result, unsafeInstructionRe.Substitutes redactedMarker value result ↔
        result = sanitizeText value) ∧
      ∀ kept, kept <+: sanitizeText value →
        unsafeInstructionRe.Absent (kept ++ truncationMarker) := by
  have clean := not_contains_sanitizeText value
  have absent := unsafeInstructionRe_absent_iff.mpr clean
  refine ⟨absent, ?_, ?_, ?_⟩
  · rw [sanitizeText, redactFrom_eq, ← Pattern.scan, absent.scan_eq, List.flatMap_map]
    exact List.flatMap_singleton' _
  · intro result
    rw [Pattern.substitutes_iff unsafeInstructionRe_consumes, sanitizeText, redactFrom_eq,
      ← Pattern.scan, eq_comm]
  · intro kept front
    have cut : IsCutOf (kept ++ truncationMarker) (sanitizeText value) := by
      obtain ⟨rest, same⟩ := front
      exact .inr ⟨kept.length, by rw [← same, List.take_left]⟩
    rw [unsafeInstructionRe_absent_iff]
    exact fun contains => clean (unsafeLanguage.contains_of_isCutOf cut contains)

example : sanitizeText "System  PROMPT: user :".toList = "[redacted]: [redacted]".toList := by
  decide +kernel

end ResearchTool
