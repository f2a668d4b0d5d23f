import Mathlib.Data.List.DropRight
import Mathlib.Data.String.Basic

/-!
# Python text operations

The `str` methods that the modelled code uses, on lists of code points.
-/

namespace ResearchTool.Python

abbrev Text := List Char

/-- What holds of every letter of a text is decided letter by letter, and not by
a search of all characters. -/
instance (priority := high) decidableForallLetter (holds : Char → Prop) [DecidablePred holds]
    (text : Text) : Decidable (∀ c ∈ text, holds c) :=
  List.decidableBAll holds text

instance (priority := high) decidableForallEnd (holds : Char → Prop) [DecidablePred holds]
    (letter : Option Char) : Decidable (∀ c ∈ letter, holds c) :=
  Option.decidableForallMem letter

/-- The code points `str.isspace` accepts, which are those `str.strip`
removes and `\s` matches. -/
def isSpace (c : Char) : Bool :=
  let n := c.toNat
  (9 ≤ n && n ≤ 13) || (28 ≤ n && n ≤ 32) || n == 0x85 || n == 0xA0 || n == 0x1680 ||
    (0x2000 ≤ n && n ≤ 0x200A) || n == 0x2028 || n == 0x2029 || n == 0x202F ||
    n == 0x205F || n == 0x3000

/-- Remove the characters satisfying `drop` from both ends. -/
def stripBy (drop : Char → Bool) (text : Text) : Text :=
  (text.dropWhile drop).rdropWhile drop

/-- `text.strip()`. -/
def strip : Text → Text :=
  stripBy isSpace

/-- `text.removesuffix(ending)`. -/
def removeSuffix (ending text : Text) : Text :=
  if ending.isSuffixOf text then text.take (text.length - ending.length) else text

/-- `separator.join(lines)`. -/
def join (separator : Text) (lines : List Text) : Text :=
  separator.intercalate lines

def isAsciiAlpha (c : Char) : Bool :=
  ('a' ≤ c && c ≤ 'z') || ('A' ≤ c && c ≤ 'Z')

def isAsciiDigit (c : Char) : Bool :=
  '0' ≤ c && c ≤ '9'

/-- `str.lower` on an ASCII character. -/
def asciiLower (c : Char) : Char :=
  if 'A' ≤ c && c ≤ 'Z' then Char.ofNat (c.toNat + 32) else c

/-- Nothing is stripped from a text whose two ends are kept. -/
theorem stripBy_eq_self {drop : Char → Bool} {first : Char} {rest : Text}
    (keepFirst : drop first = false)
    (keepLast : drop ((first :: rest).getLast (List.cons_ne_nil _ _)) = false) :
    stripBy drop (first :: rest) = first :: rest := by
  rw [stripBy, List.dropWhile_cons_of_neg (by simp [keepFirst]), List.rdropWhile_eq_self_iff]
  intro _
  simp [keepLast]

/-- A removed suffix has been at the end. -/
theorem removeSuffix_of_append (ending text : Text) :
    removeSuffix ending (text ++ ending) = text := by
  rw [removeSuffix, if_pos (by simp)]
  simp

theorem removeSuffix_eq_self_iff {ending text : Text} (nonempty : ending ≠ []) :
    removeSuffix ending text = text ↔ ¬ ending <:+ text := by
  unfold removeSuffix
  constructor
  · intro kept suffix
    rw [if_pos (List.isSuffixOf_iff_suffix.mpr suffix)] at kept
    have lengths := congrArg List.length kept
    have shorter := suffix.length_le
    have positive := List.length_pos_iff.mpr nonempty
    simp only [List.length_take] at lengths
    omega
  · intro absent
    rw [if_neg (by simpa using absent)]

/-- What is dropped at the end stops at a character that is kept. -/
theorem append_prefix_rdropWhile {drop : Char → Bool} (head : Text) {c : Char} (tail : Text)
    (keep : drop c = false) : head ++ [c] <+: (head ++ c :: tail).rdropWhile drop := by
  induction tail using List.reverseRecOn with
  | nil => exact ⟨[], by rw [List.append_nil, List.rdropWhile_concat_neg _ _ _ (by simp [keep])]⟩
  | append_singleton rest last ih =>
      rw [← List.cons_append, ← List.append_assoc]
      by_cases dropped : drop last
      · rw [List.rdropWhile_concat_pos _ _ _ dropped]
        exact ih
      · rw [List.rdropWhile_concat_neg _ _ _ dropped]
        exact ⟨rest ++ [last], by simp⟩

/-- A text whose first character is kept is stripped at its end only. -/
theorem append_prefix_stripBy {drop : Char → Bool} {first c : Char} (head tail : Text)
    (keepFirst : drop first = false) (keep : drop c = false) :
    first :: (head ++ [c]) <+: stripBy drop (first :: (head ++ c :: tail)) := by
  rw [stripBy, List.dropWhile_cons_of_neg (by simp [keepFirst])]
  exact append_prefix_rdropWhile (first :: head) tail keep

/-- Texts that first differ in characters which are kept differ when stripped. -/
theorem stripBy_ne_of_differ {drop : Char → Bool} {first c d : Char} (head tail other : Text)
    (keepFirst : drop first = false) (keepLeft : drop c = false)
    (keepRight : drop d = false) (differ : c ≠ d) :
    stripBy drop (first :: (head ++ c :: tail)) ≠
      stripBy drop (first :: (head ++ d :: other)) := by
  intro same
  have left := append_prefix_stripBy head tail keepFirst keepLeft
  have right := append_prefix_stripBy head other keepFirst keepRight
  rw [← same] at right
  have equal := (List.prefix_of_prefix_length_le left right (by simp)).eq_of_length (by simp)
  simp [differ] at equal

/-! ## Numbers -/

theorem isDigit_of_mem_toString {number : Nat} {c : Char} (member : c ∈ (toString number).toList) :
    c.isDigit = true := by
  rw [Nat.toString_eq_repr, Nat.toList_repr] at member
  exact Nat.isDigit_of_mem_toDigits (by decide) (by decide) member

theorem mem_toString_int {number : Int} {c : Char} (member : c ∈ (toString number).toList) :
    c = '-' ∨ c.isDigit = true := by
  rw [Int.toString_eq_repr] at member
  cases number with
  | ofNat n => exact .inr (isDigit_of_mem_toString member)
  | negSucc n =>
      have shown : (Int.negSucc n).repr.toList = "-".toList ++ (toString (n + 1)).toList :=
        String.toList_append
      rw [shown] at member
      rcases List.mem_append.mp member with sign | digit
      · exact .inl (List.mem_singleton.mp sign)
      · exact .inr (isDigit_of_mem_toString digit)

/-! ## Parts of texts -/

theorem join_cons (separator line : Text) (lines : List Text) :
    ∃ rest, join separator (line :: lines) = line ++ rest := by
  cases lines with
  | nil => exact ⟨[], by simp [join]⟩
  | cons next lines => exact ⟨_, List.intercalate_cons_cons.trans (List.append_assoc _ _ _)⟩

theorem join_append_cons (separator line next : Text) (lines further : List Text) :
    join separator (line :: lines ++ next :: further) =
      join separator (line :: lines) ++ separator ++ join separator (next :: further) := by
  induction lines generalizing line with
  | nil => simp [join]
  | cons second lines ih =>
      have ih := ih second
      simp only [join, List.cons_append, List.intercalate_cons_cons] at ih ⊢
      rw [ih]
      simp

theorem removeSuffix_subset (ending text : Text) : removeSuffix ending text ⊆ text := by
  unfold removeSuffix
  split
  · exact List.take_subset _ _
  · exact List.Subset.refl _

theorem takeWhile_subset (keep : Char → Bool) (text : Text) : text.takeWhile keep ⊆ text :=
  List.IsPrefix.subset <| List.takeWhile_prefix keep

theorem dropWhile_subset (drop : Char → Bool) (text : Text) : text.dropWhile drop ⊆ text :=
  List.IsSuffix.subset <| List.dropWhile_suffix drop

theorem rdropWhile_subset (drop : Char → Bool) (text : Text) : text.rdropWhile drop ⊆ text :=
  List.IsPrefix.subset <| List.rdropWhile_prefix drop text

theorem rtakeWhile_subset (keep : Char → Bool) (text : Text) : text.rtakeWhile keep ⊆ text :=
  List.IsSuffix.subset <| List.rtakeWhile_suffix keep text

end ResearchTool.Python
