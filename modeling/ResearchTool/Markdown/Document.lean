import ResearchTool.Python.Text

/-!
# Documents of titled lines

A document is a list of pieces, each meant to be a title or plain text, joined
by line breaks and stripped.  Its readers split it into lines again and take
every line that starts like a heading for a title.  Both views agree exactly
when no piece of plain text brings a heading line along.
-/

namespace ResearchTool.Markdown

open Python

/-! ## Lines and headings -/

/-- `text.split("\n")`. -/
def splitLines (text : Text) : List Text :=
  text.splitOn '\n'

/-- The line starts with `# `, `## ` or `### `. -/
def isHeading (line : Text) : Bool :=
  ["# ", "## ", "### "].any fun mark => mark.toList.isPrefixOf line

/-- The heading lines of a text, in order. -/
def headings (text : Text) : List Text :=
  (splitLines text).filter isHeading

/-- The lines under a title: those whose last heading before them is the title. -/
def underHeading (title : Text) : Bool → List Text → List Text
  | _, [] => []
  | inside, line :: rest =>
      if isHeading line then
        underHeading title (line == title) rest
      else if inside then
        line :: underHeading title inside rest
      else
        underHeading title inside rest

/-- What a reader finds under a title of a document. -/
def readSection (title text : Text) : List Text :=
  underHeading title false (splitLines text)

theorem splitLines_of_not_mem {text : Text} (oneLine : '\n' ∉ text) : splitLines text = [text] :=
  List.splitOn_eq_singleton oneLine

theorem splitLines_append (before after : Text) :
    splitLines (before ++ '\n' :: after) = splitLines before ++ splitLines after :=
  List.splitOn_append_cons_self before after

theorem splitLines_join (first : Text) (rest : List Text) :
    splitLines (join ['\n'] (first :: rest)) = (first :: rest).flatMap splitLines := by
  induction rest generalizing first with
  | nil => simp [join]
  | cons second rest ih =>
      have step : join ['\n'] (first :: second :: rest) =
          first ++ '\n' :: join ['\n'] (second :: rest) := by
        simp [join, List.intercalate_cons_cons]
      rw [step, splitLines_append, ih]
      rfl

/-- A label in front of a text changes its first line only. -/
theorem splitLines_label {label : Text} (oneLine : '\n' ∉ label) (text : Text) :
    ∃ first rest, splitLines text = first :: rest ∧
      splitLines (label ++ text) = (label ++ first) :: rest := by
  induction label with
  | nil =>
      obtain ⟨first, rest, lines⟩ := List.exists_cons_of_ne_nil (List.splitOn_ne_nil '\n' text)
      exact ⟨first, rest, lines, lines⟩
  | cons c label ih =>
      rw [List.mem_cons, not_or] at oneLine
      obtain ⟨first, rest, lines, labelled⟩ := ih oneLine.2
      refine ⟨first, rest, lines, ?_⟩
      have other : (c == '\n') = false := beq_eq_false_iff_ne.mpr (Ne.symm oneLine.1)
      rw [splitLines] at labelled
      rw [splitLines, List.cons_append, List.splitOn_cons_eq_if_modifyHead, other, labelled]
      rfl

theorem headings_of_not_mem {text : Text} (oneLine : '\n' ∉ text)
    (plain : isHeading text = false) :
    headings text = [] := by
  simp [headings, splitLines_of_not_mem oneLine, plain]

theorem headings_join (first : Text) (rest : List Text) :
    headings (join ['\n'] (first :: rest)) = (first :: rest).flatMap headings := by
  rw [headings, splitLines_join, List.filter_flatMap]
  rfl

theorem isHeading_cons_of_ne {c : Char} (rest : Text) (other : c ≠ '#') :
    isHeading (c :: rest) = false := by
  simp [isHeading, List.isPrefixOf, Ne.symm other]

/-! ## Labels -/

/-- One line whose first character begins no heading and is not stripped. -/
def IsLabel (label : Text) : Prop :=
  '\n' ∉ label ∧ ∃ c ∈ label.head?, c ≠ '#' ∧ isSpace c = false

/-- The heading lines after the first line. -/
def laterHeadings (text : Text) : List Text :=
  (splitLines text).tail.filter isHeading

theorem IsLabel.exists_eq_cons {label : Text} (formed : IsLabel label) :
    ∃ c rest, label = c :: rest ∧ c ≠ '#' ∧ isSpace c = false := by
  obtain ⟨_, c, starts, other, printed⟩ := formed
  exact ⟨c, label.tail, List.eq_cons_of_mem_head? starts, other, printed⟩

/-- A labelled text has the headings after its first line only. -/
theorem headings_label {label : Text} (formed : IsLabel label) (text : Text) :
    headings (label ++ text) = laterHeadings text := by
  obtain ⟨c, marks, starts, other, _⟩ := formed.exists_eq_cons
  obtain ⟨first, rest, lines, labelled⟩ := splitLines_label formed.1 text
  have plain : isHeading (label ++ first) = false := by
    rw [starts]
    exact isHeading_cons_of_ne _ other
  rw [headings, laterHeadings, lines, labelled, List.filter_cons, plain]
  rfl

/-! ## Pieces -/

structure Piece where
  isTitle : Bool
  text : Text

/-- The pieces that are meant to be titles. -/
def titles (pieces : List Piece) : List Text :=
  (pieces.filter Piece.isTitle).map Piece.text

/-- A title is one line that starts like a heading. -/
def Piece.WellFormed (piece : Piece) : Prop :=
  piece.isTitle = true → headings piece.text = [piece.text]

theorem titles_append (first second : List Piece) :
    titles (first ++ second) = titles first ++ titles second := by
  simp [titles]

theorem forall_wellFormed_iff {pieces : List Piece} :
    (∀ piece ∈ pieces, piece.WellFormed) ↔ ∀ title ∈ titles pieces, headings title = [title] := by
  simp only [titles, List.forall_mem_map, List.mem_filter, Piece.WellFormed, and_imp]

theorem length_titles_le {pieces : List Piece} (wellFormed : ∀ piece ∈ pieces, piece.WellFormed) :
    (titles pieces).length ≤ (pieces.flatMap fun piece => headings piece.text).length := by
  induction pieces with
  | nil => rfl
  | cons piece rest ih =>
      have later := ih fun other member => wellFormed other (List.mem_cons_of_mem _ member)
      rw [List.flatMap_cons, List.length_append]
      by_cases title : piece.isTitle = true
      · have found := wellFormed piece List.mem_cons_self title
        simp only [titles, List.filter_cons, title, if_true, List.map_cons,
          List.length_cons, found, List.length_nil] at later ⊢
        omega
      · simp only [titles, List.filter_cons, title, if_false, Bool.false_eq_true] at later ⊢
        omega

/-- The heading lines are the titles exactly if plain text has none. -/
theorem headings_eq_titles_iff {pieces : List Piece}
    (wellFormed : ∀ piece ∈ pieces, piece.WellFormed) :
    (pieces.flatMap fun piece => headings piece.text) = titles pieces ↔
      ∀ piece ∈ pieces, piece.isTitle = false → headings piece.text = [] := by
  induction pieces with
  | nil => simp [titles]
  | cons piece rest ih =>
      have formed : ∀ other ∈ rest, other.WellFormed :=
        fun other member => wellFormed other (List.mem_cons_of_mem _ member)
      have later := ih formed
      by_cases title : piece.isTitle = true
      · have found := wellFormed piece List.mem_cons_self title
        have listed : titles (piece :: rest) = piece.text :: titles rest := by
          simp [titles, title]
        rw [List.flatMap_cons, found, listed, List.singleton_append, List.cons.injEq, later]
        simp [title]
      · have plain : piece.isTitle = false := by simpa using title
        have listed : titles (piece :: rest) = titles rest := by
          simp [titles, plain]
        rw [List.flatMap_cons, listed]
        constructor
        · intro same
          have lengths := congrArg List.length same
          have least := length_titles_le formed
          rw [List.length_append] at lengths
          have none : headings piece.text = [] := List.eq_nil_of_length_eq_zero (by omega)
          rw [none, List.nil_append, later] at same
          intro other member untitled
          rcases List.mem_cons.mp member with rfl | inside
          · exact none
          · exact same other inside untitled
        · intro quiet
          rw [quiet piece List.mem_cons_self plain, List.nil_append, later]
          exact fun other member => quiet other (List.mem_cons_of_mem _ member)

/-! ## Stripping -/

/-- Nothing before a character that is kept is stripped at the end. -/
theorem rdropWhile_append_of_mem {drop : Char → Bool} (before : Text) {text : Text} {c : Char}
    (member : c ∈ text) (kept : drop c = false) :
    (before ++ text).rdropWhile drop = before ++ text.rdropWhile drop := by
  have stops : text.reverse.dropWhile drop ≠ [] := by
    intro dropped
    have all := List.dropWhile_eq_nil_iff.mp dropped c (List.mem_reverse.mpr member)
    rw [kept] at all
    cases all
  rw [List.rdropWhile, List.reverse_append, List.dropWhile_append, if_neg (by simpa using stops),
    List.reverse_append, List.reverse_reverse]
  rfl

/-- So has a labelled text that is stripped at its end. -/
theorem headings_rdropWhile_label {label : Text} (formed : IsLabel label) (text : Text) :
    headings ((label ++ text).rdropWhile isSpace) = laterHeadings (text.rdropWhile isSpace) := by
  by_cases blank : ∀ c ∈ text, isSpace c = true
  · -- all of the text is stripped, and what is left begins like the label
    have dropped : text.rdropWhile isSpace = [] := by
      rw [List.rdropWhile_eq_nil_iff]
      exact blank
    obtain ⟨c, marks, starts, other, printed⟩ := formed.exists_eq_cons
    have start : [] ++ [c] <+: ([] ++ c :: (marks ++ text)).rdropWhile isSpace :=
      append_prefix_rdropWhile [] (marks ++ text) printed
    obtain ⟨rest, left⟩ := start
    have oneLine : '\n' ∉ (label ++ text).rdropWhile isSpace := by
      rw [List.rdropWhile, List.reverse_append, List.dropWhile_append_of_pos, ← List.rdropWhile]
      · exact fun member => formed.1 (rdropWhile_subset _ _ member)
      · exact fun letter member => blank letter (List.mem_reverse.mp member)
    rw [dropped, headings_of_not_mem oneLine]
    · rfl
    · rw [starts, List.cons_append, ← List.nil_append (c :: (marks ++ text)), ← left]
      exact isHeading_cons_of_ne _ other
  · push Not at blank
    obtain ⟨c, member, kept⟩ := blank
    rw [rdropWhile_append_of_mem label member (by simpa using kept), headings_label formed]

/-- A document as it is rendered. -/
def render (pieces : List Piece) : Text :=
  strip (join ['\n'] (pieces.map Piece.text))

/-- The piece without white space at its end. -/
def Piece.stripped (piece : Piece) : Piece :=
  { piece with text := piece.text.rdropWhile isSpace }

/-- Stripping a document strips the end of its last piece. -/
theorem render_eq_join {first : Piece} (middle : List Piece) {last : Piece} {c : Char}
    (start : ∃ d rest, first.text = d :: rest ∧ isSpace d = false)
    (member : c ∈ last.text) (kept : isSpace c = false) :
    render (first :: middle ++ [last]) =
      join ['\n'] ((first :: middle ++ [last.stripped]).map Piece.text) := by
  have split : ∀ text : Text, join ['\n'] ((first :: middle).map Piece.text ++ [text]) =
      join ['\n'] ((first :: middle).map Piece.text) ++ ['\n'] ++ text := by
    intro text
    rw [List.map_cons, join_append_cons]
    simp [join]
  obtain ⟨d, rest, named, printed⟩ := start
  obtain ⟨more, headed⟩ := join_cons ['\n'] first.text (middle.map Piece.text)
  have leading : (join ['\n'] ((first :: middle).map Piece.text) ++ ['\n'] ++ last.text).dropWhile
      isSpace = join ['\n'] ((first :: middle).map Piece.text) ++ ['\n'] ++ last.text := by
    rw [List.map_cons, headed, named]
    simp [printed]
  rw [render, List.map_append, List.map_cons (l := []), List.map_nil, split, strip,
    stripBy, leading, rdropWhile_append_of_mem _ member kept, List.map_append,
    List.map_cons (l := []), List.map_nil, split]
  rfl

/-! ## Sections -/

theorem underHeading_of_absent {title : Text} {lines : List Text}
    (absent : ∀ line ∈ lines, isHeading line = true → line ≠ title) :
    underHeading title false lines = [] := by
  induction lines with
  | nil => rfl
  | cons line rest ih =>
      have later := ih fun other member => absent other (List.mem_cons_of_mem _ member)
      by_cases heading : isHeading line = true
      · have other : (line == title) = false :=
          beq_eq_false_iff_ne.mpr (absent line List.mem_cons_self heading)
        simp [underHeading, heading, other, later]
      · simp [underHeading, heading, later]

/-- Lines that start with another heading and do not have the title add nothing
to its section. -/
theorem underHeading_append {title first : Text} {more : List Text} (inside : Bool)
    (lines : List Text) (heading : isHeading first = true)
    (absent : ∀ line ∈ first :: more, isHeading line = true → line ≠ title) :
    underHeading title inside (lines ++ first :: more) = underHeading title inside lines := by
  induction lines generalizing inside with
  | nil =>
      have other : (first == title) = false :=
        beq_eq_false_iff_ne.mpr (absent first List.mem_cons_self heading)
      have rest := underHeading_of_absent fun line member =>
        absent line (List.mem_cons_of_mem _ member)
      simp [underHeading, heading, other, rest]
  | cons line rest ih =>
      rw [List.cons_append]
      unfold underHeading
      rw [ih, ih]

end ResearchTool.Markdown
