import Mathlib.Data.List.Chain
import Mathlib.Data.List.DropRight
import Mathlib.Data.List.Infix

/-!
# Occurrences of words in assembled texts

A text that is put together from parts contains a word of a language exactly
when one of the parts does, as long as no word can lie across a seam.  Which
seams are safe is read off the pairs of letters that follow each other within
a word, and off the letters that words start and end with.
-/

namespace ResearchTool.Python

universe u

variable {α : Type u} {words : List α → Prop} {left right : List α}

/-- Some word of the language occurs in the text. -/
def Contains (words : List α → Prop) (text : List α) : Prop :=
  ∃ word, words word ∧ word <:+: text

theorem Contains.mono {part text : List α} (inside : part <:+: text)
    (contains : Contains words part) : Contains words text := by
  obtain ⟨word, listed, occurs⟩ := contains
  exact ⟨word, listed, occurs.trans inside⟩

theorem Contains.append_left (right : List α) (contains : Contains words left) :
    Contains words (left ++ right) :=
  contains.mono List.infix_append_left

theorem Contains.append_right (left : List α) (contains : Contains words right) :
    Contains words (left ++ right) :=
  contains.mono List.infix_append_right

/-- A text is searched position by position. -/
theorem contains_iff_exists_suffix {text : List α} :
    Contains words text ↔ ∃ rest, rest <:+ text ∧ ∃ word, words word ∧ word <+: rest := by
  constructor
  · rintro ⟨word, listed, before, after, rfl⟩
    refine ⟨word ++ after, ⟨before, by simp⟩, word, listed, List.prefix_append _ _⟩
  · rintro ⟨rest, later, word, listed, front⟩
    exact ⟨word, listed, front.isInfix.trans later.isInfix⟩

/-- No word has the two letters at the seam next to each other. -/
def Apart (words : List α → Prop) (left right : List α) : Prop :=
  ∀ word, words word → ∀ last ∈ left.getLast?, ∀ first ∈ right.head?, ¬ [last, first] <:+: word

/-- Nothing lies across a seam whose letters no word joins. -/
theorem contains_append_iff (apart : Apart words left right) :
    Contains words (left ++ right) ↔ Contains words left ∨ Contains words right := by
  constructor
  · rintro ⟨word, listed, occurs⟩
    rcases List.infix_append_iff_ne_nil.mp occurs with
      first | second | ⟨front, back, frontNonempty, backNonempty, rfl, ends, begins⟩
    · exact .inl ⟨word, listed, first⟩
    · exact .inr ⟨word, listed, second⟩
    · exfalso
      obtain ⟨before, rfl⟩ := ends
      obtain ⟨after, rfl⟩ := begins
      obtain ⟨start, last, rfl⟩ := List.eq_nil_or_concat front |>.resolve_left frontNonempty
      obtain ⟨first, tail, rfl⟩ := List.exists_cons_of_ne_nil backNonempty
      exact apart _ listed last (by simp) first (by simp) ⟨start, tail, by simp⟩
  · rintro (first | second)
    · exact first.append_left right
    · exact second.append_right left

/-- Letters that end no word may be cut off at the end. -/
theorem contains_append_of_last (nonempty : ¬ words [])
    (last : ∀ word, words word → ∀ letter ∈ word.getLast?, letter ∉ right) :
    Contains words (left ++ right) ↔ Contains words left := by
  constructor
  · rintro ⟨word, listed, occurs⟩
    have wordNonempty : word ≠ [] := fun empty => nonempty (empty ▸ listed)
    rcases List.infix_append_iff_ne_nil.mp occurs with
      first | second | ⟨front, back, _, backNonempty, rfl, _, begins⟩
    · exact ⟨word, listed, first⟩
    · have final := List.getLast_mem wordNonempty
      exact absurd (second.subset final)
        (last word listed _ (List.getLast?_eq_some_getLast wordNonempty))
    · have final := List.getLast_mem backNonempty
      refine absurd (begins.subset final) (last _ listed _ ?_)
      rw [List.getLast?_append_of_ne_nil _ backNonempty]
      exact List.getLast?_eq_some_getLast backNonempty
  · exact Contains.append_left right

/-- Letters that start no word may be cut off at the front. -/
theorem contains_append_of_first (nonempty : ¬ words [])
    (first : ∀ word, words word → ∀ letter ∈ word.head?, letter ∉ left) :
    Contains words (left ++ right) ↔ Contains words right := by
  constructor
  · rintro ⟨word, listed, occurs⟩
    have wordNonempty : word ≠ [] := fun empty => nonempty (empty ▸ listed)
    rcases List.infix_append_iff_ne_nil.mp occurs with
      inLeft | inRight | ⟨front, back, frontNonempty, _, rfl, ends, _⟩
    · obtain ⟨letter, rest, rfl⟩ := List.exists_cons_of_ne_nil wordNonempty
      exact absurd (inLeft.subset List.mem_cons_self) (first _ listed letter (by simp))
    · exact ⟨word, listed, inRight⟩
    · obtain ⟨letter, rest, rfl⟩ := List.exists_cons_of_ne_nil frontNonempty
      exact absurd (ends.subset List.mem_cons_self) (first _ listed letter (by simp))
  · exact Contains.append_right left

/-- Where words are chains of a relation, unrelated letters keep them apart. -/
theorem apart_of_isChain {follows : α → α → Prop}
    (chains : ∀ word, words word → word.IsChain follows)
    (unrelated : ∀ last ∈ left.getLast?, ∀ first ∈ right.head?, ¬ follows last first) :
    Apart words left right := by
  intro word listed last lastOf first firstOf inside
  obtain ⟨before, after, rfl⟩ := inside
  exact unrelated last lastOf first firstOf
    (List.isChain_pair.mp (chains _ listed).left_of_append.right_of_append)

/-- A letter that no word has keeps what is before it apart from what follows. -/
theorem apart_of_not_mem_left
    (foreign : ∀ last ∈ left.getLast?, ∀ word, words word → last ∉ word) :
    Apart words left right :=
  fun word listed last lastOf _ _ inside =>
    foreign last lastOf word listed (inside.subset List.mem_cons_self)

/-- A separated list contains a word if one of its items does. -/
theorem contains_intercalate_iff {separator : List α} {items : List (List α)}
    (nonempty : ¬ words []) (separated : separator ≠ [])
    (apart : ∀ item ∈ items, Apart words item separator)
    (first : ∀ word, words word → ∀ letter ∈ word.head?, letter ∉ separator) :
    Contains words (separator.intercalate items) ↔ ∃ item ∈ items, Contains words item := by
  have empty : ¬ Contains words [] := by
    rintro ⟨word, listed, occurs⟩
    exact nonempty (List.infix_nil.mp occurs ▸ listed)
  induction items with
  | nil => simpa using empty
  | cons item rest ih =>
      cases rest with
      | nil => simp
      | cons next rest =>
          have seam : Apart words item (separator ++ separator.intercalate (next :: rest)) := by
            intro word listed last lastOf letter letterOf
            rw [List.head?_append_of_ne_nil _ separated] at letterOf
            exact apart item List.mem_cons_self word listed last lastOf letter letterOf
          have ih := ih fun item member => apart item (List.mem_cons_of_mem _ member)
          rw [List.intercalate_cons_cons, List.append_assoc, contains_append_iff seam,
            contains_append_of_first nonempty first, List.exists_mem_cons_iff]
          exact or_congr Iff.rfl ih

theorem contains_dropWhile_iff {drop : α → Bool} {text : List α} (nonempty : ¬ words [])
    (first : ∀ word, words word → ∀ letter ∈ word.head?, drop letter = false) :
    Contains words (text.dropWhile drop) ↔ Contains words text := by
  conv_rhs => rw [← List.takeWhile_append_dropWhile (p := drop) (l := text)]
  symm
  apply contains_append_of_first nonempty
  intro word listed letter start inside
  have dropped := List.mem_takeWhile_imp inside
  rw [first word listed letter start] at dropped
  cases dropped

theorem contains_rdropWhile_iff {drop : α → Bool} {text : List α} (nonempty : ¬ words [])
    (last : ∀ word, words word → ∀ letter ∈ word.getLast?, drop letter = false) :
    Contains words (text.rdropWhile drop) ↔ Contains words text := by
  induction text using List.reverseRecOn with
  | nil => rfl
  | append_singleton text letter ih =>
      by_cases dropped : drop letter = true
      · rw [List.rdropWhile_concat_pos _ _ _ dropped, ih]
        symm
        apply contains_append_of_last nonempty
        intro word listed final ends inside
        rw [List.mem_singleton.mp inside] at ends
        rw [last word listed letter ends] at dropped
        cases dropped
      · rw [List.rdropWhile_concat_neg _ _ _ dropped]

/-- Where a word without the separating letter occurs. -/
theorem occurrence_cases {word before after : List α} {separator : α} (absent : separator ∉ word)
    (same : before ++ word ++ after = left ++ separator :: right) :
    (∃ rest, left = before ++ word ++ rest) ∨
      ∃ rest, before = left ++ separator :: rest ∧ right = rest ++ word ++ after := by
  rw [List.append_assoc] at same
  rcases List.append_eq_append_iff.mp same with ⟨rest, leftEq, wordEq⟩ | ⟨rest, beforeEq, rightEq⟩
  · -- the left part ends within the word or after it
    rcases List.append_eq_append_iff.mp wordEq with ⟨more, restEq, _⟩ | ⟨more, wordEq, rightEq⟩
    · exact .inl ⟨more, by rw [leftEq, restEq, List.append_assoc]⟩
    · cases more with
      | nil =>
          refine .inl ⟨[], ?_⟩
          rw [leftEq, wordEq]
          simp
      | cons letter more =>
          have letterEq : separator = letter := (List.cons.inj rightEq).1
          exact absurd (by simp [wordEq, letterEq]) absent
  · cases rest with
    | nil =>
        cases word with
        | nil => exact .inl ⟨[], by simp [beforeEq]⟩
        | cons letter word =>
            have letterEq : separator = letter := (List.cons.inj rightEq).1
            exact absurd (by simp [letterEq]) absent
    | cons letter rest =>
        obtain ⟨rfl, tailEq⟩ := List.cons.inj rightEq
        exact .inr ⟨rest, beforeEq, tailEq.trans (List.append_assoc _ _ _).symm⟩

end ResearchTool.Python
