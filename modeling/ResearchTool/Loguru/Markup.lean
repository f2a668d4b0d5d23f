import ResearchTool.Python.Format
import ResearchTool.Python.Pattern

/-!
# Colour markup

The markup Loguru reads in a format text: tags in angle brackets, with
backslashes in front of those that are meant literally.  The known tags and
their codes are a parameter; in an uncoloured sink the codes are empty.  A text
comes out as it is exactly if it has no tag.
-/

namespace ResearchTool.Loguru

open Python

/-! ## Markup -/

/-- `[^<>\s]`, and no brace: a format is split at its braces before it is searched
for tags. -/
def isNameChar (c : Char) : Bool :=
  c != '<' && c != '>' && c != '{' && c != '}' && !isSpace c

/-- `(?:[fb]g\s)?`. -/
def groundPattern : Pattern Char :=
  .either (.concatenation [.letter fun c => c == 'f' || c == 'b', .letter (· == 'g'),
    .letter isSpace]) .empty

/-- `\\*</?(?:[fb]g\s)?[^<>\s]*>`: a tag and the backslashes in front of it. -/
def tagPattern : Pattern Char :=
  .concatenation [.run (· == '\\'), .letter (· == '<'), .either (.letter (· == '/')) .empty,
    groundPattern, .run isNameChar, .letter (· == '>')]

/-- A code has none of the characters that mean something to the expansion. -/
def IsCode (code : Text) : Prop :=
  ∀ c ∈ code, c ∉ ['<', '\\', '{', '}']

/-- The known tags with the codes they show, and the code that ends a colour. -/
structure Palette where
  code : Text → Option Text
  reset : Text
  isCode : ∀ tag shown, code tag = some shown → IsCode shown
  isCode_reset : IsCode reset

inductive MarkupFault where
  | unknown (name : Text)
  | unopened (name : Text)
  | crossed (name : Text)
  | unclosed (name : Text)
  deriving DecidableEq, Repr

def backslashes (word : Text) : Nat :=
  (word.takeWhile (· == '\\')).length

/-- A matched tag without the backslashes in front of it. -/
def markup (word : Text) : Text :=
  word.dropWhile (· == '\\')

/-- What stands between the angle brackets. -/
def body (word : Text) : Text :=
  (markup word).tail.dropLast

namespace Palette

variable (palette : Palette)

/-- The codes of the open tags, the outermost first. -/
def openCodes (opened : List Text) : Text :=
  opened.reverse.flatMap fun tag => (palette.code tag).getD []

/-- A tag that is not escaped: the code it shows and the open tags behind it. -/
def apply (opened : List Text) : Text → Except MarkupFault (Text × List Text)
  | '/' :: name =>
      match opened with
      | last :: earlier =>
          if name = [] ∨ name = last then .ok (palette.reset ++ palette.openCodes earlier, earlier)
          else if name ∈ opened then .error (.crossed name)
          else .error (.unopened name)
      | [] => .error (.unopened name)
  | name =>
      match palette.code name with
      | some code => .ok (code, name :: opened)
      | none => .error (.unknown name)

/-- The scanned text with its markup replaced, under the open tags, the innermost
first.  Half of the backslashes in front of a tag are shown; an odd one escapes
the tag. -/
def colour : List Text → List (Segment Char) → Except MarkupFault Text
  | [], [] => .ok []
  | last :: earlier, [] => .error (.unclosed ((last :: earlier).getLast (List.cons_ne_nil _ _)))
  | opened, .kept c :: rest => (colour opened rest).map (c :: ·)
  | opened, .matched word :: rest =>
      let shown := List.replicate (backslashes word / 2) '\\'
      if backslashes word % 2 = 1 then (colour opened rest).map (shown ++ markup word ++ ·)
      else do
        let (code, opened) ← palette.apply opened (body word)
        (colour opened rest).map (shown ++ code ++ ·)

end Palette

/-! ## Tags -/

def IsGround (ground : Text) : Prop :=
  ground = [] ∨ ∃ c blank, (c = 'f' ∨ c = 'b') ∧ isSpace blank = true ∧ ground = [c, 'g', blank]

/-- A tag without backslashes. -/
def IsTag (tag : Text) : Prop :=
  ∃ slash ground name, tag = '<' :: (slash ++ (ground ++ (name ++ ['>']))) ∧
    (slash = [] ∨ slash = ['/']) ∧ IsGround ground ∧ ∀ c ∈ name, isNameChar c = true

theorem groundPattern_matches_iff {ground : Text} :
    groundPattern.Matches ground ↔ IsGround ground := by
  simp only [groundPattern, Pattern.concatenation, List.foldr_cons, List.foldr_nil,
    Pattern.Matches, IsGround, Bool.or_eq_true, beq_iff_eq]
  constructor
  · rintro (⟨_, _, rfl, ⟨c, letter, rfl⟩, _, _, rfl, ⟨_, rfl, rfl⟩, _, _, rfl,
      ⟨blank, space, rfl⟩, rfl⟩ | rfl)
    · exact .inr ⟨c, blank, letter, space, rfl⟩
    · exact .inl rfl
  · rintro (rfl | ⟨c, blank, letter, space, rfl⟩)
    · exact .inr rfl
    · exact .inl ⟨[c], ['g', blank], rfl, ⟨c, letter, rfl⟩, ['g'], [blank], rfl, ⟨'g', rfl, rfl⟩,
        [blank], [], rfl, ⟨blank, space, rfl⟩, rfl⟩

theorem tagPattern_matches_iff {word : Text} :
    tagPattern.Matches word ↔
      ∃ count tag, word = List.replicate count '\\' ++ tag ∧ IsTag tag := by
  simp only [tagPattern, Pattern.concatenation, List.foldr_cons, List.foldr_nil, Pattern.Matches,
    groundPattern_matches_iff, beq_iff_eq]
  constructor
  · rintro ⟨marks, _, rfl, escaped, _, _, rfl, ⟨_, rfl, rfl⟩, slash, _, rfl, closing,
      ground, _, rfl, grounded, name, _, rfl, named, _, _, rfl, ⟨_, rfl, rfl⟩, rfl⟩
    refine ⟨marks.length, _, ?_, slash, ground, name, rfl, ?_, grounded, named⟩
    · rw [← List.eq_replicate_of_mem escaped]
      rfl
    · rcases closing with ⟨_, rfl, rfl⟩ | rfl
      · exact .inr rfl
      · exact .inl rfl
  · rintro ⟨count, _, rfl, slash, ground, name, rfl, closing, grounded, named⟩
    refine ⟨_, _, rfl, fun c member => List.eq_of_mem_replicate member, ['<'], _, rfl,
      ⟨'<', rfl, rfl⟩, slash, _, rfl, ?_, ground, _, rfl, grounded, name, _, rfl, named,
      ['>'], [], rfl, ⟨'>', rfl, rfl⟩, rfl⟩
    rcases closing with rfl | rfl
    · exact .inr rfl
    · exact .inl ⟨'/', rfl, rfl⟩

theorem tagPattern_consumes : ¬ tagPattern.Matches [] := by
  rw [tagPattern_matches_iff]
  rintro ⟨count, _, same, _, _, _, rfl, _⟩
  exact List.cons_ne_nil _ _ (List.append_eq_nil_iff.mp same.symm).2

/-- A search for markup fails where there is no tag. -/
theorem tagPattern_absent_iff {text : Text} : tagPattern.Absent text ↔ ¬ Contains IsTag text := by
  rw [Pattern.absent_iff_not_contains]
  apply not_congr
  constructor
  · rintro ⟨_, listed, occurs⟩
    obtain ⟨count, tag, rfl, isTag⟩ := tagPattern_matches_iff.mp listed
    exact ⟨tag, isTag, (List.suffix_append _ _).isInfix.trans occurs⟩
  · rintro ⟨tag, isTag, occurs⟩
    exact ⟨tag, tagPattern_matches_iff.mpr ⟨0, tag, rfl, isTag⟩, occurs⟩

/-- What the parts of a matched word are. -/
theorem exists_body {word : Text} (listed : tagPattern.Matches word) :
    ∃ count inside, word = List.replicate count '\\' ++ '<' :: (inside ++ ['>']) := by
  obtain ⟨count, _, rfl, slash, ground, name, rfl, _⟩ := tagPattern_matches_iff.mp listed
  exact ⟨count, slash ++ (ground ++ name), by simp⟩

section

variable (count : Nat) (inside : Text)

theorem backslashes_word : backslashes (List.replicate count '\\' ++ '<' :: inside) = count := by
  rw [backslashes, List.takeWhile_append_of_pos (by simp)]
  simp

theorem markup_word :
    markup (List.replicate count '\\' ++ '<' :: inside) = '<' :: inside := by
  rw [markup, List.dropWhile_append_of_pos (by simp)]
  rfl

theorem body_word : body (List.replicate count '\\' ++ '<' :: (inside ++ ['>'])) = inside := by
  rw [body, markup_word]
  simp

end

/-! ## Markup is never shown as it is -/

/-- The characters that markup is made of, of which every tag shows fewer. -/
def marks (text : Text) : Nat :=
  text.countP fun c => c == '<' || c == '\\'

theorem marks_append (first second : Text) :
    marks (first ++ second) = marks first + marks second :=
  List.countP_append

theorem marks_cons (c : Char) (text : Text) : marks (c :: text) = marks [c] + marks text :=
  marks_append [c] text

theorem marks_of_isCode {code : Text} (isCode : IsCode code) : marks code = 0 := by
  rw [marks, List.countP_eq_zero]
  intro c member mark
  simp only [Bool.or_eq_true, beq_iff_eq] at mark
  have foreign := isCode c member
  rcases mark with rfl | rfl <;> simp at foreign

theorem marks_replicate (count : Nat) : marks (List.replicate count '\\') = count := by
  simp [marks, List.countP_replicate]

theorem marks_tag (text : Text) : marks ('<' :: text) = marks text + 1 := by
  simp [marks]

theorem map_eq_ok_iff {ε : Type} {text : Except ε Text} {next : Text → Text} {shown : Text} :
    text.map next = .ok shown ↔ ∃ later, text = .ok later ∧ next later = shown := by
  cases text <;> simp [Except.map]

namespace Palette

variable {palette : Palette}

theorem isCode_openCodes (opened : List Text) : IsCode (palette.openCodes opened) := by
  intro c member
  obtain ⟨tag, _, inside⟩ := List.mem_flatMap.mp member
  cases known : palette.code tag with
  | none =>
      rw [known] at inside
      cases inside
  | some shown =>
      rw [known] at inside
      exact palette.isCode tag shown known c inside

theorem isCode_of_apply {opened after : List Text} {inside code : Text}
    (applied : palette.apply opened inside = .ok (code, after)) : IsCode code := by
  unfold apply at applied
  split at applied
  · split at applied
    · split_ifs at applied
      cases applied
      intro c member
      rcases List.mem_append.mp member with first | later
      · exact palette.isCode_reset c first
      · exact isCode_openCodes _ c later
    · cases applied
  · split at applied
    · next known =>
        cases applied
        exact palette.isCode _ _ known
    · cases applied

/-- Every tag costs a mark. -/
theorem marks_colour {segments : List (Segment Char)}
    (listed : ∀ word, .matched word ∈ segments → tagPattern.Matches word) {opened : List Text}
    {shown : Text} (coloured : palette.colour opened segments = .ok shown) :
    marks shown + segments.countP Segment.isMatch ≤ marks (segments.flatMap Segment.source) := by
  induction segments generalizing opened shown with
  | nil =>
      cases opened with
      | nil =>
          cases coloured
          exact le_rfl
      | cons last earlier => cases coloured
  | cons segment rest ih =>
      have ih := @ih fun word member => listed word (List.mem_cons_of_mem _ member)
      cases segment with
      | kept c =>
          rw [colour, map_eq_ok_iff] at coloured
          obtain ⟨text, later, rfl⟩ := coloured
          have fewer := ih later
          have shownMarks := marks_cons c text
          have sourceMarks := marks_cons c (rest.flatMap Segment.source)
          rw [Pattern.source_kept, List.countP_cons_of_neg (by simp [Segment.isMatch])]
          omega
      | matched word =>
          obtain ⟨count, inside, rfl⟩ := exists_body (listed word List.mem_cons_self)
          rw [Pattern.source_matched, List.countP_cons_of_pos rfl, marks_append, marks_append,
            marks_replicate, marks_tag]
          rw [colour] at coloured
          simp only [backslashes_word, markup_word, body_word] at coloured
          split_ifs at coloured with odd
          · obtain ⟨text, later, rfl⟩ := map_eq_ok_iff.mp coloured
            have fewer := ih later
            rw [marks_append, marks_append, marks_replicate, marks_tag]
            omega
          · cases applied : palette.apply opened inside with
            | error fault =>
                rw [applied] at coloured
                cases coloured
            | ok next =>
                rw [applied] at coloured
                obtain ⟨text, later, rfl⟩ := map_eq_ok_iff.mp coloured
                have fewer := ih later
                rw [marks_append, marks_append, marks_replicate,
                  marks_of_isCode (isCode_of_apply applied)]
                omega

theorem colour_kept (text : Text) : palette.colour [] (text.map .kept) = .ok text := by
  induction text with
  | nil => rfl
  | cons c rest ih =>
      rw [List.map_cons, colour, ih]
      rfl

/-- A text is shown as it is exactly if it has no markup. -/
theorem colour_eq_self_iff {text : Text} :
    palette.colour [] (tagPattern.scan text) = .ok text ↔ tagPattern.Absent text := by
  constructor
  · intro coloured
    obtain ⟨scans, source⟩ := Pattern.scans_scan tagPattern_consumes text
    have fewer := marks_colour (fun word => scans.matches) coloured
    rw [source] at fewer
    rw [Pattern.absent_iff_kept tagPattern_consumes]
    intro segment member
    by_contra isMatch
    have counted := List.countP_pos_iff.mpr ⟨segment, member, by simpa using isMatch⟩
    omega
  · intro absent
    rw [absent.scan_eq, colour_kept]

end Palette

end ResearchTool.Loguru
