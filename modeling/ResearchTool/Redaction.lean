import ResearchTool.ContextSanitizer
import ResearchTool.Python.Occurrence

/-!
# Redacted text

The matcher of unsafe instructions recognises a language of words.  Redaction
leaves none of them behind, and neither makes nor breaks a word of a language
that has no letter in common with the matches and the marker.
-/

namespace ResearchTool

open Python

/-! ## The language of the matcher -/

/-- What a character is to the matcher. -/
def fold (c : Char) : Char :=
  if isSpace c then ' ' else ignoreCase c

/-- The folded texts that match the pieces from end to end. -/
def Shape : List PatternPiece → Text → Prop
  | [], folded => folded = []
  | .literal literal :: pieces, folded => ∃ rest, folded = literal ++ rest ∧ Shape pieces rest
  | .spaces :: pieces, folded =>
      ∃ count rest, folded = List.replicate (count + 1) ' ' ++ rest ∧ Shape pieces rest
  | .optionalSpaces :: pieces, folded =>
      ∃ count rest, folded = List.replicate count ' ' ++ rest ∧ Shape pieces rest

/-- Literals are free of blanks, and every run of blanks ends at a literal. -/
def Firm : List PatternPiece → Bool
  | [] => true
  | .literal literal :: pieces => literal.all (!isSpace ·) && Firm pieces
  | .spaces :: .literal (c :: literal) :: pieces => Firm (.literal (c :: literal) :: pieces)
  | .optionalSpaces :: .literal (c :: literal) :: pieces =>
      Firm (.literal (c :: literal) :: pieces)
  | _ => false

/-- A text that some alternative of `_UNSAFE_INSTRUCTION_RE` matches from end
to end. -/
def UnsafeWord (word : Text) : Prop :=
  ∃ pieces ∈ unsafeInstructions, Shape pieces (word.map fold)

theorem firm_unsafeInstructions : ∀ pieces ∈ unsafeInstructions, Firm pieces = true := by
  decide +kernel

theorem ignoreCase_eq_self {c : Char} (uncased : ¬ (65 ≤ c.toNat ∧ c.toNat ≤ 90))
    (special : c.toNat ∉ [0x130, 0x131, 0x17F, 0x212A]) : ignoreCase c = c := by
  have capital : ¬ ('A' ≤ c ∧ c ≤ 'Z') := uncased
  simp only [List.mem_cons, List.not_mem_nil, or_false, not_or] at special
  simp only [ignoreCase, asciiLower]
  simp [special, capital]

theorem ignoreCase_of_isSpace {c : Char} (space : isSpace c = true) : ignoreCase c = c := by
  simp only [isSpace, Bool.or_eq_true, Bool.and_eq_true, decide_eq_true_eq, beq_iff_eq] at space
  apply ignoreCase_eq_self
  · omega
  · simp only [List.mem_cons, List.not_mem_nil, or_false, not_or]
    omega

theorem isSpace_of_ignoreCase {c : Char} (blank : ignoreCase c = ' ') : isSpace c = true := by
  simp only [ignoreCase, asciiLower] at blank
  split_ifs at blank with i s k capital
  · cases blank
  · cases blank
  · cases blank
  · simp only [Bool.and_eq_true, decide_eq_true_eq, Char.le_def, UInt32.le_iff_toNat_le] at capital
    have value : c.toNat = c.val.toNat := rfl
    have low : ('A' : Char).val.toNat = 65 := rfl
    have high : ('Z' : Char).val.toNat = 90 := rfl
    have valid : (c.toNat + 32).isValidChar := .inl (by omega)
    rw [Char.ofNat, dif_pos valid] at blank
    have number : c.toNat + 32 = 32 := congrArg Char.toNat blank
    omega
  · rw [blank]
    rfl

theorem isSpace_of_fold {c : Char} (blank : fold c = ' ') : isSpace c = true := by
  by_contra solid
  rw [fold, if_neg solid] at blank
  exact solid (isSpace_of_ignoreCase blank)

/-- A character that matches a letter is no blank. -/
theorem fold_of_ignoreCase {c p : Char} (matched : ignoreCase c = p) (firm : isSpace p = false) :
    fold c = p := by
  have solid : isSpace c = false := by
    by_contra space
    rw [Bool.not_eq_false] at space
    rw [ignoreCase_of_isSpace space] at matched
    rw [matched, firm] at space
    cases space
  rw [fold, solid, if_neg (by simp), matched]

theorem ignoreCase_of_fold {c p : Char} (folded : fold c = p) (firm : isSpace p = false) :
    ignoreCase c = p ∧ isSpace c = false := by
  unfold fold at folded
  split_ifs at folded with space
  · rw [← folded] at firm
    cases firm
  · exact ⟨folded, by simpa using space⟩

theorem matchLiteral_eq_some_iff {literal text rest : Text}
    (firm : literal.all (!isSpace ·) = true) :
    matchLiteral literal text = some rest ↔
      ∃ word, text = word ++ rest ∧ word.map fold = literal := by
  induction literal generalizing text with
  | nil => simp [matchLiteral, eq_comm]
  | cons p literal ih =>
      simp only [List.all_cons, Bool.and_eq_true, Bool.not_eq_true'] at firm
      cases text with
      | nil => simp [matchLiteral]
      | cons c text =>
          rw [matchLiteral]
          constructor
          · intro matched
            split_ifs at matched with same
            obtain ⟨word, rfl, folded⟩ := (ih firm.2).mp matched
            exact ⟨c :: word, rfl, by rw [List.map_cons, fold_of_ignoreCase same firm.1, folded]⟩
          · rintro ⟨word, textEq, folded⟩
            obtain ⟨first, word, rfl, headEq, tailEq⟩ := List.map_eq_cons_iff.mp folded
            cases textEq
            rw [if_pos (ignoreCase_of_fold headEq firm.1).1, ih firm.2]
            exact ⟨word, rfl, tailEq⟩

theorem map_fold_takeWhile (text : Text) :
    (text.takeWhile isSpace).map fold =
      List.replicate (text.takeWhile isSpace).length ' ' := by
  rw [List.eq_replicate_iff]
  refine ⟨by simp, ?_⟩
  intro c member
  obtain ⟨original, inside, rfl⟩ := List.mem_map.mp member
  rw [fold, if_pos (List.mem_takeWhile_imp inside)]

/-- Matching takes a run of blanks whole. -/
theorem matchPieces_sound {pieces : List PatternPiece} (firm : Firm pieces = true)
    {text rest : Text} (matched : matchPieces pieces text = some rest) :
    ∃ word, text = word ++ rest ∧ Shape pieces (word.map fold) := by
  fun_induction Firm pieces generalizing text with
  | case1 => exact ⟨[], Option.some.inj matched, rfl⟩
  | case2 literal pieces ih =>
      simp only [Bool.and_eq_true] at firm
      rw [matchPieces, Option.bind_eq_some_iff] at matched
      obtain ⟨middle, first, later⟩ := matched
      obtain ⟨word, rfl, folded⟩ := (matchLiteral_eq_some_iff firm.1).mp first
      obtain ⟨more, rfl, shape⟩ := ih firm.2 later
      exact ⟨word ++ more, by simp, more.map fold, by simp [folded], shape⟩
  | case3 c literal pieces ih =>
      cases text with
      | nil => cases matched
      | cons blank text =>
          simp only [matchPieces.eq_3] at matched
          split_ifs at matched with space
          obtain ⟨more, textEq, shape⟩ := ih firm matched
          refine ⟨(blank :: text).takeWhile isSpace ++ more, ?_,
            (text.takeWhile isSpace).length, more.map fold, ?_, shape⟩
          · rw [List.append_assoc, ← textEq, List.takeWhile_append_dropWhile]
          · rw [List.map_append, map_fold_takeWhile, List.takeWhile_cons_of_pos space]
            rfl
  | case4 c literal pieces ih =>
      rw [matchPieces] at matched
      obtain ⟨more, textEq, shape⟩ := ih firm matched
      refine ⟨text.takeWhile isSpace ++ more, ?_,
        (text.takeWhile isSpace).length, more.map fold, ?_, shape⟩
      · rw [List.append_assoc, ← textEq, List.takeWhile_append_dropWhile]
      · rw [List.map_append, map_fold_takeWhile]
  | case5 => cases firm

/-- A run of blanks before a literal is taken exactly. -/
theorem dropWhile_isSpace_append {gap more : Text} {count : Nat} (rest : Text)
    (blanks : gap.map fold = List.replicate count ' ')
    (solid : ∀ c ∈ more.head?, isSpace c = false)
    (nonempty : more ≠ []) : (gap ++ more ++ rest).dropWhile isSpace = more ++ rest := by
  have spaces : ∀ c ∈ gap, isSpace c = true := by
    intro c member
    exact isSpace_of_fold (List.eq_of_mem_replicate (blanks ▸ List.mem_map_of_mem member))
  obtain ⟨first, more, rfl⟩ := List.exists_cons_of_ne_nil nonempty
  rw [List.append_assoc, List.dropWhile_append_of_pos spaces, List.cons_append,
    List.dropWhile_cons_of_neg (by simp [solid first rfl])]

/-- What starts with a literal starts with a letter. -/
theorem solid_of_shape {c : Char} {literal word : Text} {pieces : List PatternPiece}
    (firm : Firm (.literal (c :: literal) :: pieces) = true)
    (shape : Shape (.literal (c :: literal) :: pieces) (word.map fold)) :
    word ≠ [] ∧ ∀ first ∈ word.head?, isSpace first = false := by
  simp only [Firm, List.all_cons, Bool.and_eq_true, Bool.not_eq_true'] at firm
  obtain ⟨rest, folded, _⟩ := shape
  obtain ⟨first, more, rfl, same, _⟩ := List.map_eq_cons_iff.mp folded
  refine ⟨List.cons_ne_nil _ _, ?_⟩
  rintro _ ⟨⟩
  exact (ignoreCase_of_fold same firm.1.1).2

/-- Every word of the shape is matched to its end. -/
theorem matchPieces_complete {pieces : List PatternPiece} (firm : Firm pieces = true)
    {word : Text} (shape : Shape pieces (word.map fold)) (rest : Text) :
    matchPieces pieces (word ++ rest) = some rest := by
  fun_induction Firm pieces generalizing word with
  | case1 =>
      rw [List.map_eq_nil_iff.mp shape]
      rfl
  | case2 literal pieces ih =>
      simp only [Bool.and_eq_true] at firm
      obtain ⟨later, folded, shape⟩ := shape
      obtain ⟨first, more, rfl, firstEq, rfl⟩ := List.map_eq_append_iff.mp folded
      rw [matchPieces, Option.bind_eq_some_iff]
      exact ⟨more ++ rest, (matchLiteral_eq_some_iff firm.1).mpr ⟨first, by simp, firstEq⟩,
        ih firm.2 shape⟩
  | case3 c literal pieces ih =>
      obtain ⟨count, later, folded, shape⟩ := shape
      obtain ⟨gap, more, rfl, gapEq, rfl⟩ := List.map_eq_append_iff.mp folded
      obtain ⟨nonempty, solid⟩ := solid_of_shape firm shape
      have dropped := dropWhile_isSpace_append rest gapEq solid nonempty
      obtain ⟨blank, gap, rfl, blankEq, _⟩ := List.map_eq_cons_iff.mp gapEq
      simp only [List.cons_append] at dropped ⊢
      rw [matchPieces.eq_3, if_pos (isSpace_of_fold blankEq), dropped]
      exact ih firm shape
  | case4 c literal pieces ih =>
      obtain ⟨count, later, folded, shape⟩ := shape
      obtain ⟨gap, more, rfl, gapEq, rfl⟩ := List.map_eq_append_iff.mp folded
      obtain ⟨nonempty, solid⟩ := solid_of_shape firm shape
      rw [matchPieces, dropWhile_isSpace_append rest gapEq solid nonempty]
      exact ih firm shape
  | case5 => cases firm

/-- The matcher finds the unsafe words at the front of a text. -/
theorem matchUnsafe_eq_some {text : Text} {length : Nat} (found : matchUnsafe text = some length) :
    ∃ word rest, text = word ++ rest ∧ UnsafeWord word ∧ length = word.length := by
  obtain ⟨pieces, listed, found⟩ := List.exists_of_findSome?_eq_some found
  obtain ⟨rest, matched, rfl⟩ := Option.map_eq_some_iff.mp found
  obtain ⟨word, rfl, shape⟩ := matchPieces_sound (firm_unsafeInstructions pieces listed) matched
  exact ⟨word, rest, rfl, ⟨pieces, listed, shape⟩, by simp⟩

theorem matchUnsafe_isSome {word : Text} (unsafeWord : UnsafeWord word) (rest : Text) :
    (matchUnsafe (word ++ rest)).isSome = true := by
  obtain ⟨pieces, listed, shape⟩ := unsafeWord
  rw [matchUnsafe, List.isSome_findSome?, List.any_eq_true]
  refine ⟨pieces, listed, ?_⟩
  rw [matchPieces_complete (firm_unsafeInstructions pieces listed) shape]
  rfl

/-- Searching with the matcher is looking for an unsafe word. -/
theorem contains_unsafeWord_iff {text : Text} :
    Contains UnsafeWord text ↔ ∃ rest, rest <:+ text ∧ (matchUnsafe rest).isSome = true := by
  rw [contains_iff_exists_suffix]
  apply exists_congr
  intro rest
  apply and_congr_right
  intro later
  constructor
  · rintro ⟨word, unsafeWord, after, rfl⟩
    exact matchUnsafe_isSome unsafeWord after
  · intro found
    obtain ⟨length, found⟩ := Option.isSome_iff_exists.mp found
    obtain ⟨word, after, rfl, unsafeWord, _⟩ := matchUnsafe_eq_some found
    exact ⟨word, unsafeWord, List.prefix_append _ _⟩

/-! ## The letters of unsafe words -/

/-- The alternatives with a single run of blanks. -/
def gappedPairs : List (Text × Text) :=
  [ ("system".toList, "prompt".toList), ("assistant".toList, [':']), ("developer".toList, [':']),
    ("user".toList, [':']) ]

/-- Unsafe words, folded. -/
theorem unsafeWord_folded {word : Text} (unsafeWord : UnsafeWord word) :
    (∃ first second, word.map fold = "ignore".toList ++ (List.replicate (first + 1) ' ' ++
        ("previous".toList ++ (List.replicate (second + 1) ' ' ++ "instructions".toList)))) ∨
      ∃ pair ∈ gappedPairs, ∃ count, word.map fold =
        pair.1 ++ (List.replicate count ' ' ++ pair.2) := by
  obtain ⟨pieces, listed, shape⟩ := unsafeWord
  simp only [unsafeInstructions, List.mem_cons, List.not_mem_nil, or_false] at listed
  rcases listed with rfl | rfl | rfl | rfl | rfl
  · obtain ⟨_, folded, first, _, rfl, _, rfl, second, _, rfl, _, rfl, rfl⟩ := shape
    exact .inl ⟨first, second, by rw [folded, List.append_nil]⟩
  · obtain ⟨_, folded, count, _, rfl, _, rfl, rfl⟩ := shape
    exact .inr ⟨("system".toList, "prompt".toList), by simp [gappedPairs], count, folded⟩
  · obtain ⟨_, folded, count, _, rfl, _, rfl, rfl⟩ := shape
    exact .inr ⟨("assistant".toList, [':']), by simp [gappedPairs], count, folded⟩
  · obtain ⟨_, folded, count, _, rfl, _, rfl, rfl⟩ := shape
    exact .inr ⟨("developer".toList, [':']), by simp [gappedPairs], count, folded⟩
  · obtain ⟨_, folded, count, _, rfl, _, rfl, rfl⟩ := shape
    exact .inr ⟨("user".toList, [':']), by simp [gappedPairs], count, folded⟩

/-- Which folded characters follow each other in unsafe words: blanks stand
after the last letter and before the first letter of a literal, a colon is
last. -/
def foldedFollows (c d : Char) : Bool :=
  if c = ' ' then d = ' ' || d = 'p' || d = 'i' || d = ':'
  else if d = ' ' then c = 'e' || c = 's' || c = 'm' || c = 't' || c = 'r'
  else c.isLower && (d.isLower || d = ':')

def unsafeFollows (c d : Char) : Bool :=
  foldedFollows (fold c) (fold d)

theorem isChain_gap {left right : Text} {count : Nat}
    (leftChain : left.IsChain fun c d => foldedFollows c d = true)
    (rightChain : right.IsChain fun c d => foldedFollows c d = true)
    (closes : ∀ c ∈ left.getLast?, foldedFollows c ' ' = true)
    (begins : ∀ d ∈ right.head?, foldedFollows ' ' d = true)
    (joins : count = 0 → ∀ c ∈ left.getLast?, ∀ d ∈ right.head?, foldedFollows c d = true) :
    (left ++ (List.replicate count ' ' ++ right)).IsChain fun c d => foldedFollows c d = true := by
  have blanks : (List.replicate count ' ').IsChain fun c d => foldedFollows c d = true :=
    List.isChain_replicate_of_rel count rfl
  apply leftChain.append
  · apply blanks.append rightChain
    intro c last
    have blank : c = ' ' := List.eq_of_mem_replicate (List.mem_of_getLast? last)
    rw [blank]
    exact begins
  · intro c last d first
    cases count with
    | zero => exact joins rfl c last d (by simpa using first)
    | succ count =>
        have blank : d = ' ' := by simpa [List.replicate_succ, eq_comm] using first
        rw [blank]
        exact closes c last

theorem isChain_unsafeWord {word : Text} (unsafeWord : UnsafeWord word) :
    word.IsChain fun c d => unsafeFollows c d = true := by
  have pairs : ∀ pair ∈ gappedPairs, pair.1.IsChain (fun c d => foldedFollows c d = true) ∧
      pair.2.IsChain (fun c d => foldedFollows c d = true) ∧
      (∀ c ∈ pair.1.getLast?, foldedFollows c ' ' = true) ∧
      (∀ d ∈ pair.2.head?, foldedFollows ' ' d = true) ∧
      ∀ c ∈ pair.1.getLast?, ∀ d ∈ pair.2.head?, foldedFollows c d = true := by decide
  have folded : (word.map fold).IsChain fun c d => foldedFollows c d = true := by
    rcases unsafeWord_folded unsafeWord with ⟨first, second, folded⟩ |
      ⟨pair, listed, count, folded⟩
    · have later : ("previous".toList ++ (List.replicate (second + 1) ' ' ++
          "instructions".toList)).IsChain fun c d => foldedFollows c d = true :=
        isChain_gap (by decide) (by decide) (by decide) (by decide)
          fun none => absurd none (Nat.succ_ne_zero _)
      have begins : ∀ d ∈ ("previous".toList ++ (List.replicate (second + 1) ' ' ++
          "instructions".toList)).head?, foldedFollows ' ' d = true := by
        rintro _ ⟨⟩
        rfl
      rw [folded]
      exact isChain_gap (by decide) later (by decide) begins
        fun none => absurd none (Nat.succ_ne_zero _)
    · obtain ⟨leftChain, rightChain, closes, begins, joins⟩ := pairs pair listed
      rw [folded]
      exact isChain_gap leftChain rightChain closes begins fun _ => joins
  exact (List.isChain_map fold).mp folded

/-- The first two letters of the alternatives. -/
def unsafeStarts : List (Char × Char) :=
  [('i', 'g'), ('s', 'y'), ('a', 's'), ('d', 'e'), ('u', 's')]

theorem start_of_unsafeWord {word : Text} (unsafeWord : UnsafeWord word) :
    ∃ c d rest, word = c :: d :: rest ∧ (fold c, fold d) ∈ unsafeStarts := by
  have started : ∃ first second rest, word.map fold = first :: second :: rest ∧
      (first, second) ∈ unsafeStarts := by
    rcases unsafeWord_folded unsafeWord with ⟨_, _, folded⟩ | ⟨pair, listed, _, folded⟩
    · exact ⟨'i', 'g', _, folded, by decide⟩
    · rw [folded]
      simp only [gappedPairs, List.mem_cons, List.not_mem_nil, or_false] at listed
      rcases listed with rfl | rfl | rfl | rfl
      · exact ⟨'s', 'y', _, rfl, by decide⟩
      · exact ⟨'a', 's', _, rfl, by decide⟩
      · exact ⟨'d', 'e', _, rfl, by decide⟩
      · exact ⟨'u', 's', _, rfl, by decide⟩
  obtain ⟨_, _, _, folded, listed⟩ := started
  obtain ⟨c, tail, rfl, rfl, tailEq⟩ := List.map_eq_cons_iff.mp folded
  obtain ⟨d, rest, rfl, rfl, _⟩ := List.map_eq_cons_iff.mp tailEq
  exact ⟨c, d, rest, rfl, listed⟩

theorem end_of_unsafeWord {word : Text} (unsafeWord : UnsafeWord word) :
    ∀ c ∈ word.getLast?, fold c ∈ ['s', 't', ':'] := by
  have ended : ∀ c ∈ (word.map fold).getLast?, c ∈ ['s', 't', ':'] := by
    rcases unsafeWord_folded unsafeWord with ⟨_, _, folded⟩ | ⟨pair, listed, _, folded⟩
    · have assoc := List.append_assoc (α := Char)
      rw [folded, ← assoc, ← assoc, ← assoc, List.getLast?_append_of_ne_nil _ (by decide)]
      decide
    · have last : ∀ pair ∈ gappedPairs, pair.2 ≠ [] ∧
          ∀ c ∈ pair.2.getLast?, c ∈ ['s', 't', ':'] := by
        decide
      rw [folded, ← List.append_assoc, List.getLast?_append_of_ne_nil _ (last pair listed).1]
      exact (last pair listed).2
  intro c final
  apply ended
  rw [List.getLast?_map, final]
  rfl

/-- The folded characters of unsafe words. -/
def unsafeLetter (c : Char) : Bool :=
  c = ' ' || c = ':' || c.isLower

theorem letter_of_unsafeWord {word : Text} (unsafeWord : UnsafeWord word) {c : Char}
    (member : c ∈ word) : unsafeLetter (fold c) = true := by
  have folded : fold c ∈ word.map fold := List.mem_map_of_mem member
  have blank : ∀ {count}, fold c ∈ List.replicate count ' ' → unsafeLetter (fold c) = true :=
    fun inside => by rw [List.eq_of_mem_replicate inside]; rfl
  rcases unsafeWord_folded unsafeWord with ⟨_, _, same⟩ | ⟨pair, listed, _, same⟩
  · have letters : ∀ d ∈ "ignore".toList ++ "previous".toList ++ "instructions".toList,
        unsafeLetter d = true := by decide
    simp only [same, List.mem_append] at folded letters
    rcases folded with inside | inside | inside | inside | inside
    · exact letters _ (.inl (.inl inside))
    · exact blank inside
    · exact letters _ (.inl (.inr inside))
    · exact blank inside
    · exact letters _ (.inr inside)
  · have letters : ∀ pair ∈ gappedPairs, ∀ d ∈ pair.1 ++ pair.2, unsafeLetter d = true := by
      decide
    simp only [same, List.mem_append] at folded letters
    rcases folded with inside | inside | inside
    · exact letters pair listed _ (.inl inside)
    · exact blank inside
    · exact letters pair listed _ (.inr inside)

/-! ## What redaction leaves -/

theorem redactFrom_of_match {c : Char} {rest : Text} {length : Nat}
    (matched : matchUnsafe (c :: rest) = some length) :
    redactFrom 0 (c :: rest) = redactedMarker ++ redactFrom (length - 1) rest := by
  rw [redactFrom, matched]

theorem redactFrom_of_no_match {c : Char} {rest : Text}
    (unmatched : matchUnsafe (c :: rest) = none) :
    redactFrom 0 (c :: rest) = c :: redactFrom 0 rest := by
  rw [redactFrom, unmatched]

/-- What starts the redacted text and has no part of a marker started the text. -/
theorem prefix_of_prefix_redactFrom {word text : Text} (unmarked : '[' ∉ word)
    (front : word <+: redactFrom 0 text) : word <+: text := by
  induction word generalizing text with
  | nil => exact List.nil_prefix
  | cons letter word ih =>
      cases text with
      | nil => exact front
      | cons c rest =>
          cases matched : matchUnsafe (c :: rest) with
          | some length =>
              rw [redactFrom_of_match matched] at front
              have marked : letter = '[' := (List.cons_prefix_cons.mp front).1
              exact absurd (marked ▸ List.mem_cons_self) unmarked
          | none =>
              rw [redactFrom_of_no_match matched, List.cons_prefix_cons] at front
              rw [List.cons_prefix_cons]
              exact ⟨front.1, ih (fun inside => unmarked (List.mem_cons_of_mem _ inside)) front.2⟩

/-- A language without the letters of the marker. -/
def Unmarked (words : Text → Prop) : Prop :=
  ∀ word, words word → word ≠ [] ∧ '[' ∉ word ∧ ']' ∉ word ∧ ¬ word <:+: "redacted".toList

theorem contains_marker_append_iff {words : Text → Prop} (unmarked : Unmarked words)
    (rest : Text) :
    Contains words (redactedMarker ++ rest) ↔ Contains words rest := by
  have marker : redactedMarker = ['['] ++ ("redacted".toList ++ [']']) := by decide
  have nonempty : ¬ words [] := fun listed => (unmarked [] listed).1 rfl
  have opening : ∀ word, words word → ∀ c ∈ word.head?, c ∉ ['['] := by
    intro word listed c first inside
    exact (unmarked word listed).2.1 (List.mem_singleton.mp inside ▸ List.mem_of_mem_head? first)
  have closing : ∀ word, words word → ∀ c ∈ word.head?, c ∉ [']'] := by
    intro word listed c first inside
    exact (unmarked word listed).2.2.1 (List.mem_singleton.mp inside ▸ List.mem_of_mem_head? first)
  have apart : Apart words "redacted".toList ([']'] ++ rest) := by
    rintro word listed c _ _ ⟨⟩ inside
    exact (unmarked word listed).2.2.1 (inside.subset (by simp))
  have clean : ¬ Contains words "redacted".toList := by
    rintro ⟨word, listed, inside⟩
    exact (unmarked word listed).2.2.2 inside
  rw [marker, List.append_assoc, contains_append_of_first nonempty opening, List.append_assoc,
    contains_append_iff apart, contains_append_of_first nonempty closing]
  simp only [clean, false_or]

/-- A word of the redacted text has been copied from where nothing matched. -/
theorem copied_of_contains_redactFrom {words : Text → Prop} (unmarked : Unmarked words)
    {text : Text} {skip : Nat} (contains : Contains words (redactFrom skip text)) :
    ∃ word rest, words word ∧ word <+: rest ∧ rest <:+ text ∧ matchUnsafe rest = none := by
  induction text generalizing skip with
  | nil =>
      have empty : Contains words [] := by cases skip <;> exact contains
      obtain ⟨word, listed, inside⟩ := empty
      exact absurd (List.infix_nil.mp inside) (unmarked word listed).1
  | cons c rest ih =>
      have later : ∀ {skip}, Contains words (redactFrom skip rest) →
          ∃ word tail, words word ∧ word <+: tail ∧ tail <:+ c :: rest ∧
            matchUnsafe tail = none := by
        intro skip inside
        obtain ⟨word, tail, listed, front, final, unmatched⟩ := ih inside
        exact ⟨word, tail, listed, front, final.trans (List.suffix_cons _ _), unmatched⟩
      cases skip with
      | succ skip => exact later contains
      | zero =>
          cases matched : matchUnsafe (c :: rest) with
          | some length =>
              rw [redactFrom_of_match matched, contains_marker_append_iff unmarked] at contains
              exact later contains
          | none =>
              obtain ⟨word, listed, occurs⟩ := contains
              rw [redactFrom_of_no_match matched, List.infix_cons_iff] at occurs
              rcases occurs with front | inside
              · rw [← redactFrom_of_no_match matched] at front
                exact ⟨word, c :: rest, listed,
                  prefix_of_prefix_redactFrom (unmarked word listed).2.1 front,
                  List.suffix_refl _, matched⟩
              · exact later ⟨word, listed, inside⟩

/-- A search that fails at every position. -/
theorem not_contains_of_tails {text : Text}
    (absent : ∀ rest ∈ text.tails, matchUnsafe rest = none) :
    ¬ Contains UnsafeWord text := by
  rw [contains_unsafeWord_iff]
  rintro ⟨rest, final, found⟩
  rw [absent rest ((List.mem_tails _ _).mpr final)] at found
  cases found

theorem unmarked_unsafeWord : Unmarked UnsafeWord := by
  intro word unsafeWord
  refine ⟨?_, fun opening => ?_, fun closing => ?_, fun inside => ?_⟩
  · obtain ⟨c, d, rest, rfl, _⟩ := start_of_unsafeWord unsafeWord
    exact List.cons_ne_nil _ _
  · exact absurd (letter_of_unsafeWord unsafeWord opening) (by decide)
  · exact absurd (letter_of_unsafeWord unsafeWord closing) (by decide)
  · exact not_contains_of_tails (by decide +kernel) ⟨word, unsafeWord, inside⟩

/-- No unsafe instruction is left in a redacted text. -/
theorem not_contains_sanitizeText (text : Text) : ¬ Contains UnsafeWord (sanitizeText text) := by
  intro contains
  obtain ⟨word, _, unsafeWord, ⟨after, rfl⟩, _, unmatched⟩ :=
    copied_of_contains_redactFrom unmarked_unsafeWord contains
  have found := matchUnsafe_isSome unsafeWord after
  rw [unmatched] at found
  cases found

/-- Redaction makes no word of a language that the marker is foreign to. -/
theorem contains_of_contains_sanitizeText {words : Text → Prop} (unmarked : Unmarked words)
    {text : Text} (contains : Contains words (sanitizeText text)) : Contains words text := by
  obtain ⟨word, rest, listed, front, final, _⟩ := copied_of_contains_redactFrom unmarked contains
  exact ⟨word, listed, front.isInfix.trans final.isInfix⟩

/-- No match starts in the text, whatever follows it. -/
def startsNoMatch : Text → Bool
  | [] => true
  | [c] => !(unsafeStarts.map Prod.fst).contains (fold c)
  | c :: d :: rest => !unsafeStarts.contains (fold c, fold d) && startsNoMatch (d :: rest)

theorem matchUnsafe_of_startsNoMatch {c : Char} {text : Text}
    (quiet : startsNoMatch (c :: text) = true) (after : Text) :
    matchUnsafe (c :: text ++ after) = none := by
  by_contra found
  obtain ⟨length, found⟩ := Option.ne_none_iff_exists'.mp found
  obtain ⟨word, rest, same, unsafeWord, _⟩ := matchUnsafe_eq_some found
  obtain ⟨first, second, tail, rfl, start⟩ := start_of_unsafeWord unsafeWord
  obtain ⟨rfl, tailEq⟩ := List.cons.inj same
  cases text with
  | nil =>
      have listed : fold c ∈ unsafeStarts.map Prod.fst := List.mem_map_of_mem start
      rw [startsNoMatch, Bool.not_eq_true', List.contains_eq_mem] at quiet
      simp [listed] at quiet
  | cons d text =>
      obtain ⟨rfl, _⟩ := List.cons.inj tailEq
      rw [startsNoMatch, Bool.and_eq_true, Bool.not_eq_true', List.contains_eq_mem] at quiet
      simp [start] at quiet

/-- A text in which no match starts is copied. -/
theorem redactFrom_append_of_startsNoMatch {text : Text} (quiet : startsNoMatch text = true)
    (after : Text) : redactFrom 0 (text ++ after) = text ++ redactFrom 0 after := by
  induction text with
  | nil => rfl
  | cons c text ih =>
      have later : startsNoMatch text = true := by
        cases text with
        | nil => rfl
        | cons d text =>
            rw [startsNoMatch, Bool.and_eq_true] at quiet
            exact quiet.2
      have unmatched := matchUnsafe_of_startsNoMatch quiet after
      rw [List.cons_append] at unmatched
      rw [List.cons_append, redactFrom_of_no_match unmatched, ih later]
      rfl

/-- Redaction copies a word that starts with a letter of no match and in which
no match starts. -/
theorem infix_sanitizeText {c : Char} {word text : Text}
    (foreign : unsafeLetter (fold c) = false) (quiet : startsNoMatch (c :: word) = true)
    (occurs : c :: word <:+: text) : c :: word <:+: sanitizeText text := by
  obtain ⟨before, after, rfl⟩ := occurs
  suffices copied : ∀ skip ≤ before.length,
      c :: word <:+: redactFrom skip (before ++ (c :: word ++ after)) by
    rw [List.append_assoc]
    exact copied 0 (Nat.zero_le _)
  induction before with
  | nil =>
      intro skip none
      rw [Nat.le_zero.mp none, List.nil_append, redactFrom_append_of_startsNoMatch quiet]
      exact (List.prefix_append _ _).isInfix
  | cons d before ih =>
      intro skip within
      cases skip with
      | succ skip => exact ih skip (by simpa using within)
      | zero =>
          rw [List.cons_append]
          cases matched : matchUnsafe (d :: (before ++ (c :: word ++ after))) with
          | none =>
              rw [redactFrom_of_no_match matched]
              exact (ih 0 (Nat.zero_le _)).trans (List.suffix_cons _ _).isInfix
          | some length =>
              rw [redactFrom_of_match matched]
              refine (ih (length - 1) ?_).trans (List.suffix_append _ _).isInfix
              -- the match ends before the letter that is in none
              obtain ⟨found, rest, same, unsafeWord, rfl⟩ := matchUnsafe_eq_some matched
              by_contra long
              have front : d :: before ++ [c] <+: found := by
                have start : d :: before ++ [c] <+: found ++ rest :=
                  ⟨word ++ after, by rw [← same]; simp⟩
                apply List.prefix_of_prefix_length_le start (List.prefix_append _ _)
                simp only [List.length_append, List.length_cons, List.length_nil]
                omega
              rw [letter_of_unsafeWord unsafeWord (front.subset (by simp))] at foreign
              cases foreign

end ResearchTool
