import ResearchTool.Loguru.Markup

/-!
# The expansion of a format text

For a callable formatter Loguru parses the returned text for colour markup and
expands what is left with `str.format_map`.  Doubling the braces of a line is
the inverse of the second layer and leaves the first one as it is.
-/

namespace ResearchTool.Loguru

open Python

inductive Fault where
  | markup (fault : MarkupFault)
  | format (error : PyError)
  deriving DecidableEq, Repr

/-- The line a sink writes for a format text whose braces are doubled;
`renderField` renders replacement fields over the record, of which there are
none. -/
def expand (palette : Palette) (renderField : FormatField → Except PyError Text) (format : Text) :
    Except Fault Text :=
  match palette.colour [] (tagPattern.scan format) with
  | .error fault => .error (.markup fault)
  | .ok text => (formatFrom renderField .literal text).mapError .format

/-! ## Doubled braces -/

theorem dropWhile_doubleBraces (accepts : Char → Bool) (text : Text) :
    (doubleBraces text).dropWhile accepts = doubleBraces (text.dropWhile accepts) := by
  induction text with
  | nil => rfl
  | cons c rest ih =>
      rw [doubleBraces_cons]
      by_cases accepted : accepts c = true
      · have all : ∀ d ∈ doubleBrace c, accepts d = true := by
          intro d member
          unfold doubleBrace at member
          split at member <;> simp_all
        rw [List.dropWhile_append_of_pos all, ih, List.dropWhile_cons_of_pos accepted]
      · rw [List.dropWhile_cons_of_neg accepted, doubleBraces_cons, doubleBrace]
        split <;> exact List.dropWhile_cons_of_neg accepted

/-- A pattern that matches with doubled braces as it does without. -/
def IsStable (pattern : Pattern Char) : Prop :=
  ∀ text, pattern.remainders (doubleBraces text) = (pattern.remainders text).map doubleBraces

theorem isStable_empty : IsStable .empty :=
  fun _ => rfl

theorem isStable_letter {accepts : Char → Bool} (opening : accepts '{' = false)
    (closing : accepts '}' = false) : IsStable (.letter accepts) := by
  intro text
  cases text with
  | nil => rfl
  | cons c rest =>
      by_cases brace : c = '{' ∨ c = '}'
      · rcases brace with rfl | rfl <;> simp [doubleBrace, Pattern.remainders, opening, closing]
      · simp only [not_or] at brace
        rw [doubleBraces_cons, doubleBrace_of_ne brace.1 brace.2]
        by_cases accepted : accepts c = true <;> simp [Pattern.remainders, accepted]

theorem isStable_sequence {first second : Pattern Char} (head : IsStable first)
    (tail : IsStable second) : IsStable (.sequence first second) := by
  intro text
  simp only [Pattern.remainders, head text, List.flatMap_map, List.map_flatMap, tail _]

theorem isStable_either {first second : Pattern Char} (left : IsStable first)
    (right : IsStable second) : IsStable (.either first second) := by
  intro text
  simp only [Pattern.remainders, left text, right text, List.map_append]

theorem isStable_run_sequence {accepts : Char → Bool} {next : Pattern Char}
    (stops : ∀ c rest, accepts c = true → next.remainders (c :: rest) = [])
    (tail : IsStable next) : IsStable (.sequence (.run accepts) next) := by
  intro text
  rw [Pattern.remainders_run_sequence stops, Pattern.remainders_run_sequence stops,
    dropWhile_doubleBraces, tail]

theorem isStable_tagPattern : IsStable tagPattern := by
  have marks : ∀ next : Pattern Char, ∀ c rest, (c == '\\') = true →
      (Pattern.sequence (.letter (· == '<')) next).remainders (c :: rest) = [] := by
    intro next c rest mark
    rw [beq_iff_eq.mp mark]
    rfl
  have names : ∀ next : Pattern Char, ∀ c rest, isNameChar c = true →
      (Pattern.sequence (.letter (· == '>')) next).remainders (c :: rest) = [] := by
    intro next c rest name
    simp only [isNameChar, Bool.and_eq_true, bne_iff_ne] at name
    simp [Pattern.remainders, name.1.1.1.2]
  have ground : IsStable groundPattern :=
    isStable_either (isStable_sequence (isStable_letter rfl rfl)
      (isStable_sequence (isStable_letter rfl rfl)
        (isStable_sequence (isStable_letter rfl rfl) isStable_empty))) isStable_empty
  have closing : IsStable (.either (.letter (· == '/')) .empty) :=
    isStable_either (isStable_letter rfl rfl) isStable_empty
  apply isStable_run_sequence (marks _)
  apply isStable_sequence (isStable_letter rfl rfl)
  apply isStable_sequence closing
  apply isStable_sequence ground
  apply isStable_run_sequence (names _)
  exact isStable_sequence (isStable_letter rfl rfl) isStable_empty

theorem remainder_doubleBraces (text : Text) :
    tagPattern.remainder (doubleBraces text) = (tagPattern.remainder text).map doubleBraces := by
  rw [Pattern.remainder, isStable_tagPattern, List.head?_map]
  rfl

def IsBraceless (text : Text) : Prop :=
  '{' ∉ text ∧ '}' ∉ text

theorem isBraceless_of_isCode {code : Text} (isCode : IsCode code) : IsBraceless code :=
  ⟨fun member => isCode _ member (by simp), fun member => isCode _ member (by simp)⟩

/-- No brace stands in a tag. -/
theorem isBraceless_of_matches {word : Text} (listed : tagPattern.Matches word) :
    IsBraceless word := by
  obtain ⟨count, _, rfl, slash, ground, name, rfl, closing, grounded, named⟩ :=
    tagPattern_matches_iff.mp listed
  have plain : ∀ brace ∈ ['{', '}'], brace ∉ slash ∧ brace ∉ ground ∧ brace ∉ name := by
    intro brace listed
    have special : isNameChar brace = false ∧ isSpace brace = false ∧ brace ≠ '/' ∧
        brace ≠ 'f' ∧ brace ≠ 'b' ∧ brace ≠ 'g' := by
      revert brace
      decide
    obtain ⟨noName, noSpace, noSlash, noF, noB, noG⟩ := special
    refine ⟨?_, ?_, fun member => ?_⟩
    · rcases closing with rfl | rfl <;> simp [noSlash]
    · rcases grounded with rfl | ⟨letter, blank, letters, isBlank, rfl⟩
      · simp
      · have other : brace ≠ blank := by
          rintro rfl
          cases noSpace.symm.trans isBlank
        rcases letters with rfl | rfl <;> simp [noF, noB, noG, other]
    · cases noName.symm.trans (named brace member)
  have opening := plain '{' (by simp)
  have closing := plain '}' (by simp)
  constructor <;> simp [List.mem_replicate, *]

/-- The segments of a text whose braces are doubled. -/
def doubleSegment : Segment Char → List (Segment Char)
  | .kept c => (doubleBrace c).map .kept
  | .matched word => [.matched word]

theorem source_doubleSegment {segments : List (Segment Char)}
    (listed : ∀ word, .matched word ∈ segments → tagPattern.Matches word) :
    (segments.flatMap doubleSegment).flatMap Segment.source =
      doubleBraces (segments.flatMap Segment.source) := by
  induction segments with
  | nil => rfl
  | cons segment rest ih =>
      rw [List.flatMap_cons, List.flatMap_append,
        ih fun word member => listed word (List.mem_cons_of_mem _ member), List.flatMap_cons,
        doubleBraces_append]
      cases segment with
      | kept c => simp [doubleSegment, Segment.source, List.flatMap_map, doubleBraces]
      | matched word =>
          have plain := isBraceless_of_matches (listed word List.mem_cons_self)
          simp [doubleSegment, Segment.source, doubleBraces_of_no_braces plain]

theorem remainder_brace {c : Char} (brace : c = '{' ∨ c = '}') (text : Text) :
    tagPattern.remainder (c :: text) = none := by
  cases found : tagPattern.remainder (c :: text) with
  | none => rfl
  | some rest =>
      obtain ⟨word, same, listed⟩ := Pattern.matches_of_remainder found
      obtain ⟨count, inside, rfl⟩ := exists_body listed
      cases count with
      | zero =>
          have letter : c = '<' := (List.cons.inj same).1
          rcases brace with rfl | rfl <;> cases letter
      | succ count =>
          have letter : c = '\\' := (List.cons.inj same).1
          rcases brace with rfl | rfl <;> cases letter

theorem scans_doubleSegment {segments : List (Segment Char)} (scans : tagPattern.Scans segments) :
    tagPattern.Scans (segments.flatMap doubleSegment) := by
  induction scans with
  | nil => exact .nil
  | @kept c later unmatched rest ih =>
      rw [List.flatMap_cons, doubleSegment]
      by_cases brace : c = '{' ∨ c = '}'
      · have twice : doubleBrace c = [c, c] := by rcases brace with rfl | rfl <;> rfl
        rw [twice]
        exact .kept (remainder_brace brace _) (.kept (remainder_brace brace _) ih)
      · simp only [not_or] at brace
        have once := doubleBrace_of_ne brace.1 brace.2
        rw [once]
        apply Pattern.Scans.kept _ ih
        have doubled := remainder_doubleBraces (c :: later.flatMap Segment.source)
        rw [unmatched, doubleBraces_cons, once] at doubled
        rw [source_doubleSegment fun word => rest.matches]
        exact doubled
  | @matched word later nonempty found rest ih =>
      apply Pattern.Scans.matched nonempty _ ih
      have doubled := remainder_doubleBraces (word ++ later.flatMap Segment.source)
      have listed := (Pattern.Scans.matched nonempty found rest).matches List.mem_cons_self
      rw [found, doubleBraces_append, doubleBraces_of_no_braces (isBraceless_of_matches listed)]
        at doubled
      rw [source_doubleSegment fun word => rest.matches]
      exact doubled

theorem scan_doubleBraces (text : Text) :
    tagPattern.scan (doubleBraces text) = (tagPattern.scan text).flatMap doubleSegment := by
  obtain ⟨scans, source⟩ := Pattern.scans_scan tagPattern_consumes text
  obtain ⟨doubled, doubledSource⟩ := Pattern.scans_scan tagPattern_consumes (doubleBraces text)
  apply doubled.unique (scans_doubleSegment scans)
  rw [doubledSource, source_doubleSegment fun word => scans.matches, source]

theorem map_map {ε : Type} (text : Except ε Text) (first second : Text → Text) :
    (text.map first).map second = text.map (second ∘ first) := by
  cases text <;> rfl

namespace Palette

variable {palette : Palette}

theorem colour_kept_append (opened : List Text) (text : Text) (rest : List (Segment Char)) :
    palette.colour opened (text.map .kept ++ rest) =
      (palette.colour opened rest).map (text ++ ·) := by
  induction text with
  | nil =>
      rw [List.map_nil, List.nil_append]
      cases palette.colour opened rest <;> rfl
  | cons c text ih =>
      rw [List.map_cons, List.cons_append, colour, ih]
      cases palette.colour opened rest <;> rfl

/-- The markup of a text with doubled braces becomes that of the text, with the
braces doubled. -/
theorem colour_doubleSegment {segments : List (Segment Char)}
    (listed : ∀ word, .matched word ∈ segments → tagPattern.Matches word) (opened : List Text) :
    palette.colour opened (segments.flatMap doubleSegment) =
      (palette.colour opened segments).map doubleBraces := by
  induction segments generalizing opened with
  | nil => cases opened <;> rfl
  | cons segment rest ih =>
      have ih := ih fun word member => listed word (List.mem_cons_of_mem _ member)
      cases segment with
      | kept c =>
          rw [List.flatMap_cons, doubleSegment, colour_kept_append, colour, ih, map_map, map_map]
          rfl
      | matched word =>
          have plain := isBraceless_of_matches (listed word List.mem_cons_self)
          obtain ⟨count, inside, rfl⟩ := exists_body (listed word List.mem_cons_self)
          have escape : ∀ count, doubleBraces (List.replicate count '\\') =
              List.replicate count '\\' := fun count => doubleBraces_of_no_braces (by simp)
          rw [List.flatMap_cons, doubleSegment, List.singleton_append, colour, colour]
          simp only [backslashes_word, markup_word, body_word]
          split_ifs with odd
          · have whole : doubleBraces ('<' :: (inside ++ ['>'])) = '<' :: (inside ++ ['>']) := by
              apply doubleBraces_of_no_braces
              simp only [IsBraceless, List.mem_append, not_or] at plain
              exact ⟨plain.1.2, plain.2.2⟩
            rw [ih, map_map, map_map]
            congr 1
            funext text
            simp only [Function.comp_apply, doubleBraces_append, escape, whole]
          · cases applied : palette.apply opened inside with
            | error fault => rfl
            | ok next =>
                obtain ⟨code, after⟩ := next
                have shown := doubleBraces_of_no_braces
                  (isBraceless_of_isCode (isCode_of_apply applied))
                simp only [bind, Except.bind]
                rw [ih, map_map, map_map]
                congr 1
                funext text
                simp only [Function.comp_apply, doubleBraces_append, escape, shown]

end Palette

/-- With doubled braces the expansion is that of the markup. -/
theorem expand_doubleBraces (palette : Palette) (renderField : FormatField → Except PyError Text)
    (line shown : Text) :
    expand palette renderField (doubleBraces line) = .ok shown ↔
      palette.colour [] (tagPattern.scan line) = .ok shown := by
  obtain ⟨scans, _⟩ := Pattern.scans_scan tagPattern_consumes line
  rw [expand, scan_doubleBraces, Palette.colour_doubleSegment fun word => scans.matches]
  cases coloured : palette.colour [] (tagPattern.scan line) with
  | error fault => simp [Except.map]
  | ok text => simp only [Except.map, formatFrom_doubleBraces, Except.mapError, Except.ok.injEq]

/-- A line survives the expansion exactly if it has no tag. -/
theorem expand_eq_self_iff (palette : Palette) (renderField : FormatField → Except PyError Text)
    (line : Text) :
    expand palette renderField (doubleBraces line) = .ok line ↔ ¬ Contains IsTag line := by
  rw [expand_doubleBraces, Palette.colour_eq_self_iff, tagPattern_absent_iff]

end ResearchTool.Loguru
