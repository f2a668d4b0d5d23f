import ResearchTool.Python.Occurrence
import Mathlib.Data.List.TakeWhile

/-!
# Backtracking patterns

The part of `re` that has no groups: a pattern is tried at a position way by
way, in a fixed order, and the first way that succeeds is the match.  Greedy
runs try the longest run first; alternatives are tried from left to right.
A scan goes through a text from the left and finds the matches that do not
overlap; a substitution replaces them.
-/

namespace ResearchTool.Python

universe u

variable {α : Type u}

/-- Patterns over an alphabet.  Only single letters are repeated. -/
inductive Pattern (α : Type u) where
  | empty
  | never
  | letter (accepts : α → Bool)
  | run (accepts : α → Bool)
  | sequence (first second : Pattern α)
  | either (first second : Pattern α)

namespace Pattern

def concatenation (parts : List (Pattern α)) : Pattern α :=
  parts.foldr sequence empty

def alternation (options : List (Pattern α)) : Pattern α :=
  options.foldr either never

/-- What is left after each run at the front of a text, the longest run first. -/
def runRemainders (accepts : α → Bool) : List α → List (List α)
  | [] => [[]]
  | c :: rest => if accepts c then runRemainders accepts rest ++ [c :: rest] else [c :: rest]

/-- What is left after each way to match at the front of a text, in the order in
which the matcher tries them. -/
def remainders : Pattern α → List α → List (List α)
  | empty, text => [text]
  | never, _ => []
  | letter _, [] => []
  | letter accepts, c :: rest => if accepts c then [rest] else []
  | run accepts, text => runRemainders accepts text
  | sequence first second, text => (first.remainders text).flatMap second.remainders
  | either first second, text => first.remainders text ++ second.remainders text

/-- What is left after the match at the front of a text. -/
def remainder (pattern : Pattern α) (text : List α) : Option (List α) :=
  (pattern.remainders text).head?

/-- A search of the text fails. -/
def Absent (pattern : Pattern α) (text : List α) : Prop :=
  ∀ rest, rest <:+ text → pattern.remainder rest = none

/-- The words a pattern matches from end to end. -/
def Matches : Pattern α → List α → Prop
  | empty, word => word = []
  | never, _ => False
  | letter accepts, word => ∃ c, accepts c = true ∧ word = [c]
  | run accepts, word => ∀ c ∈ word, accepts c = true
  | sequence first second, word =>
      ∃ front back, word = front ++ back ∧ first.Matches front ∧ second.Matches back
  | either first second, word => first.Matches word ∨ second.Matches word

/-! ## The ways to match -/

@[simp]
theorem concatenation_cons (part : Pattern α) (parts : List (Pattern α)) :
    concatenation (part :: parts) = part.sequence (concatenation parts) :=
  rfl

@[simp]
theorem alternation_cons (option : Pattern α) (options : List (Pattern α)) :
    alternation (option :: options) = option.either (alternation options) :=
  rfl

/-- Alternatives are tried one after the other. -/
theorem remainders_alternation (options : List (Pattern α)) (text : List α) :
    (alternation options).remainders text =
      options.flatMap fun option => option.remainders text := by
  induction options with
  | nil => rfl
  | cons option options ih =>
      rw [alternation_cons, remainders, ih]
      rfl

/-- A run that nothing after it can begin in is taken whole: backtracking into
it never helps. -/
theorem remainders_run_sequence {accepts : α → Bool} {next : Pattern α}
    (stops : ∀ c rest, accepts c = true → next.remainders (c :: rest) = []) (text : List α) :
    ((run accepts).sequence next).remainders text = next.remainders (text.dropWhile accepts) := by
  change (runRemainders accepts text).flatMap next.remainders = _
  induction text with
  | nil => simp [runRemainders]
  | cons c rest ih =>
      by_cases accepted : accepts c = true
      · rw [runRemainders, if_pos accepted, List.flatMap_append, ih,
          List.dropWhile_cons_of_pos accepted]
        simp [stops c rest accepted]
      · rw [runRemainders, if_neg accepted, List.dropWhile_cons_of_neg accepted]
        simp

theorem mem_runRemainders_iff {accepts : α → Bool} {text rest : List α} :
    rest ∈ runRemainders accepts text ↔
      ∃ word, text = word ++ rest ∧ ∀ c ∈ word, accepts c = true := by
  induction text with
  | nil => simp [runRemainders]
  | cons c text ih =>
      rw [runRemainders]
      constructor
      · intro member
        split_ifs at member with accepted
        · rcases List.mem_append.mp member with longer | whole
          · obtain ⟨word, rfl, all⟩ := ih.mp longer
            exact ⟨c :: word, rfl, List.forall_mem_cons.mpr ⟨accepted, all⟩⟩
          · exact ⟨[], (List.mem_singleton.mp whole).symm, by simp⟩
        · exact ⟨[], (List.mem_singleton.mp member).symm, by simp⟩
      · rintro ⟨word, same, all⟩
        cases word with
        | nil =>
            rw [← List.nil_append rest, ← same]
            split_ifs <;> simp
        | cons d word =>
            obtain ⟨rfl, rfl⟩ := List.cons.inj same
            obtain ⟨accepted, all⟩ := List.forall_mem_cons.mp all
            rw [if_pos accepted]
            exact List.mem_append_left _ (ih.mpr ⟨word, rfl, all⟩)

/-- The matcher tries exactly the words of the pattern. -/
theorem mem_remainders_iff {pattern : Pattern α} {text rest : List α} :
    rest ∈ pattern.remainders text ↔ ∃ word, text = word ++ rest ∧ pattern.Matches word := by
  induction pattern generalizing text rest with
  | empty => simp [remainders, Matches, eq_comm]
  | never => simp [remainders, Matches]
  | letter accepts =>
      cases text with
      | nil => simp [remainders, Matches]
      | cons c text =>
          simp only [remainders, Matches]
          constructor
          · intro member
            split_ifs at member with accepted
            · rw [List.mem_singleton.mp member]
              exact ⟨[c], rfl, c, accepted, rfl⟩
            · cases member
          · rintro ⟨_, same, d, accepted, rfl⟩
            obtain ⟨rfl, rfl⟩ := List.cons.inj same
            simp [accepted]
  | run accepts => exact mem_runRemainders_iff
  | sequence first second firstIh secondIh =>
      simp only [remainders, List.mem_flatMap, firstIh, secondIh, Matches]
      constructor
      · rintro ⟨_, ⟨front, rfl, head⟩, back, rfl, tail⟩
        exact ⟨front ++ back, (List.append_assoc _ _ _).symm, front, back, rfl, head, tail⟩
      · rintro ⟨_, rfl, front, back, rfl, head, tail⟩
        exact ⟨back ++ rest, ⟨front, List.append_assoc _ _ _, head⟩, back, rfl, tail⟩
  | either first second firstIh secondIh =>
      simp only [remainders, List.mem_append, firstIh, secondIh, Matches]
      constructor
      · rintro (⟨word, same, left⟩ | ⟨word, same, right⟩)
        · exact ⟨word, same, .inl left⟩
        · exact ⟨word, same, .inr right⟩
      · rintro ⟨word, same, left | right⟩
        · exact .inl ⟨word, same, left⟩
        · exact .inr ⟨word, same, right⟩

theorem matches_of_remainder {pattern : Pattern α} {text rest : List α}
    (found : pattern.remainder text = some rest) :
    ∃ word, text = word ++ rest ∧ pattern.Matches word :=
  mem_remainders_iff.mp (List.mem_of_head? found)

/-- A search fails where no word of the pattern occurs. -/
theorem absent_iff_not_contains {pattern : Pattern α} {text : List α} :
    pattern.Absent text ↔ ¬ Contains pattern.Matches text := by
  rw [contains_iff_exists_suffix, Absent]
  push Not
  refine forall₂_congr fun rest final => ?_
  rw [remainder, List.head?_eq_none_iff, List.eq_nil_iff_forall_not_mem]
  constructor
  · rintro absent word listed ⟨after, same⟩
    exact absent after (mem_remainders_iff.mpr ⟨word, same.symm, listed⟩)
  · intro absent after member
    obtain ⟨word, same, listed⟩ := mem_remainders_iff.mp member
    exact absent word listed ⟨after, same.symm⟩

end Pattern

/-! ## Scans -/

/-- A stretch of a scanned text: a letter where nothing matches, or a match. -/
inductive Segment (α : Type u) where
  | kept (letter : α)
  | matched (word : List α)

namespace Segment

def source : Segment α → List α
  | kept letter => [letter]
  | matched word => word

def replaced (marker : List α) : Segment α → List α
  | kept letter => [letter]
  | matched _ => marker

def isMatch : Segment α → Bool
  | kept _ => false
  | matched _ => true

end Segment

namespace Pattern

/-- The scan of a text; `skip` counts the letters of the current match that are
still to be passed. -/
def scanFrom (pattern : Pattern α) : Nat → List α → List (Segment α)
  | _, [] => []
  | skip + 1, _ :: rest => pattern.scanFrom skip rest
  | 0, c :: rest =>
      match pattern.remainder (c :: rest) with
      | some left =>
          .matched ((c :: rest).take (rest.length + 1 - left.length)) ::
            pattern.scanFrom (rest.length - left.length) rest
      | none => .kept c :: pattern.scanFrom 0 rest

def scan (pattern : Pattern α) (text : List α) : List (Segment α) :=
  pattern.scanFrom 0 text

variable {pattern : Pattern α} {marker : List α}

/-- What a scan from the left finds: a letter is kept where no match begins, and
the scan goes on behind a match. -/
inductive Scans (pattern : Pattern α) : List (Segment α) → Prop
  | nil : Scans pattern []
  | kept {letter : α} {later : List (Segment α)}
      (unmatched : pattern.remainder (letter :: later.flatMap Segment.source) = none)
      (rest : Scans pattern later) : Scans pattern (.kept letter :: later)
  | matched {word : List α} {later : List (Segment α)} (nonempty : word ≠ [])
      (found : pattern.remainder (word ++ later.flatMap Segment.source) =
        some (later.flatMap Segment.source))
      (rest : Scans pattern later) : Scans pattern (.matched word :: later)

/-- The result is the text with its leftmost matches that do not overlap
replaced by the marker. -/
def Substitutes (pattern : Pattern α) (marker text result : List α) : Prop :=
  ∃ segments, pattern.Scans segments ∧ segments.flatMap Segment.source = text ∧
    segments.flatMap (Segment.replaced marker) = result

@[simp]
theorem source_kept (letter : α) (later : List (Segment α)) :
    (Segment.kept letter :: later).flatMap Segment.source =
      letter :: later.flatMap Segment.source :=
  rfl

@[simp]
theorem source_matched (word : List α) (later : List (Segment α)) :
    (Segment.matched word :: later).flatMap Segment.source =
      word ++ later.flatMap Segment.source :=
  rfl

/-- A text is scanned in one way. -/
theorem Scans.unique {segments others : List (Segment α)} (scan : pattern.Scans segments)
    (other : pattern.Scans others)
    (same : segments.flatMap Segment.source = others.flatMap Segment.source) :
    segments = others := by
  induction scan generalizing others with
  | nil =>
      cases other with
      | nil => rfl
      | kept unmatched rest => cases same
      | matched nonempty found rest =>
          exact absurd (List.append_eq_nil_iff.mp same.symm).1 nonempty
  | @kept letter later unmatched rest ih =>
      cases other with
      | nil => cases same
      | kept unmatched rest =>
          obtain ⟨rfl, tail⟩ := List.cons.inj same
          rw [ih rest tail]
      | matched nonempty found rest =>
          rw [source_kept, source_matched] at same
          rw [← same, unmatched] at found
          cases found
  | @matched word later nonempty found rest ih =>
      cases other with
      | nil => exact absurd (List.append_eq_nil_iff.mp same).1 nonempty
      | kept unmatched rest =>
          rw [source_kept, source_matched] at same
          rw [same, unmatched] at found
          cases found
      | matched _ foundThere rest =>
          rw [source_matched, source_matched] at same
          rw [same, foundThere] at found
          have tail := (Option.some.inj found).symm
          rw [tail] at same
          rw [List.append_cancel_right same, ih rest tail]

/-- The matches of a scan are words of the pattern. -/
theorem Scans.matches {segments : List (Segment α)} (scan : pattern.Scans segments) {word : List α}
    (member : .matched word ∈ segments) : pattern.Matches word := by
  induction scan with
  | nil => cases member
  | kept unmatched rest ih =>
      rcases List.mem_cons.mp member with impossible | later
      · cases impossible
      · exact ih later
  | matched nonempty found rest ih =>
      rcases List.mem_cons.mp member with same | later
      · cases same
        obtain ⟨found, same, listed⟩ := matches_of_remainder found
        rw [List.append_cancel_right same]
        exact listed
      · exact ih later

theorem Scans.absent_of_kept (consumes : ¬ pattern.Matches []) {segments : List (Segment α)}
    (scan : pattern.Scans segments) (kept : ∀ segment ∈ segments, segment.isMatch = false) :
    pattern.Absent (segments.flatMap Segment.source) := by
  induction scan with
  | nil =>
      intro rest final
      cases found : pattern.remainder rest with
      | none => rfl
      | some left =>
          obtain ⟨word, same, listed⟩ := matches_of_remainder found
          rw [List.suffix_nil.mp final] at same
          exact absurd ((List.append_eq_nil_iff.mp same.symm).1 ▸ listed) consumes
  | kept unmatched rest ih =>
      intro tail final
      rw [source_kept] at final
      rcases List.suffix_cons_iff.mp final with rfl | later
      · exact unmatched
      · exact ih (fun segment member => kept segment (List.mem_cons_of_mem _ member)) tail later
  | matched nonempty found rest ih =>
      have isKept := kept _ List.mem_cons_self
      cases isKept

theorem scanFrom_skip (skip : Nat) (text : List α) :
    pattern.scanFrom skip text = pattern.scan (text.drop skip) := by
  induction skip generalizing text with
  | zero => rfl
  | succ skip ih =>
      cases text with
      | nil => rfl
      | cons c rest => exact ih rest

theorem scan_of_unmatched {c : α} {rest : List α}
    (unmatched : pattern.remainder (c :: rest) = none) :
    pattern.scan (c :: rest) = .kept c :: pattern.scan rest := by
  rw [scan, scanFrom, unmatched]
  rfl

theorem scan_of_matched {word rest : List α} (nonempty : word ≠ [])
    (matched : pattern.remainder (word ++ rest) = some rest) :
    pattern.scan (word ++ rest) = .matched word :: pattern.scan rest := by
  obtain ⟨c, tail, rfl⟩ := List.exists_cons_of_ne_nil nonempty
  rw [List.cons_append] at matched
  have whole : (tail ++ rest).length + 1 - rest.length = (c :: tail).length := by
    simp only [List.length_append, List.length_cons]
    omega
  have passed : (tail ++ rest).length - rest.length = tail.length := by simp
  rw [List.cons_append, scan, scanFrom, matched]
  simp only [whole, passed, scanFrom_skip, List.drop_left]
  rw [← List.cons_append, List.take_left]

/-- The scan of a text, for a pattern that does not match the empty word. -/
theorem scans_scan (consumes : ¬ pattern.Matches []) (text : List α) :
    pattern.Scans (pattern.scan text) ∧ (pattern.scan text).flatMap Segment.source = text := by
  induction size : text.length using Nat.strong_induction_on generalizing text with
  | h size ih =>
      subst size
      cases text with
      | nil => exact ⟨.nil, rfl⟩
      | cons c rest =>
          cases matched : pattern.remainder (c :: rest) with
          | none =>
              obtain ⟨scans, source⟩ := ih rest.length (by simp) rest rfl
              rw [scan_of_unmatched matched]
              exact ⟨.kept (by rw [source, matched]) scans, by rw [source_kept, source]⟩
          | some left =>
              obtain ⟨word, same, listed⟩ := matches_of_remainder matched
              have nonempty : word ≠ [] := fun empty => consumes (empty ▸ listed)
              have shorter : left.length < (c :: rest).length := by
                rw [same, List.length_append]
                have := List.length_pos_of_ne_nil nonempty
                omega
              obtain ⟨scans, source⟩ := ih left.length shorter left rfl
              rw [same] at matched ⊢
              rw [scan_of_matched nonempty matched]
              exact ⟨.matched nonempty (by rw [source, matched]) scans,
                by rw [source_matched, source]⟩

/-- Where nothing matches, every letter is kept. -/
theorem Absent.scan_eq {text : List α} (absent : pattern.Absent text) :
    pattern.scan text = text.map .kept := by
  induction text with
  | nil => rfl
  | cons c rest ih =>
      rw [scan_of_unmatched (absent _ (List.suffix_refl _)),
        ih fun tail final => absent tail (final.trans (List.suffix_cons _ _))]
      rfl

/-- Nothing matches exactly where every letter is kept. -/
theorem absent_iff_kept (consumes : ¬ pattern.Matches []) {text : List α} :
    pattern.Absent text ↔ ∀ segment ∈ pattern.scan text, segment.isMatch = false := by
  constructor
  · intro absent segment member
    rw [absent.scan_eq] at member
    obtain ⟨letter, _, rfl⟩ := List.mem_map.mp member
    rfl
  · intro kept
    obtain ⟨scans, source⟩ := scans_scan consumes text
    rw [← source]
    exact scans.absent_of_kept consumes kept

/-- A substitution has one result. -/
theorem substitutes_iff (consumes : ¬ pattern.Matches []) {text result : List α} :
    pattern.Substitutes marker text result ↔
      (pattern.scan text).flatMap (Segment.replaced marker) = result := by
  obtain ⟨scans, source⟩ := scans_scan consumes text
  constructor
  · rintro ⟨segments, other, rfl, rfl⟩
    rw [scans.unique other source]
  · exact fun replaced => ⟨_, scans, source, replaced⟩

end Pattern

end ResearchTool.Python
