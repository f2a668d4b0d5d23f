import ResearchTool.Python.Json
import ResearchTool.Python.Occurrence

/-!
# JSON texts

`json.dumps` with its defaults: ASCII output, the items of a container in their
order, separated by `, ` and `: `.  A word that begins and ends with letters
foreign to the syntax occurs in a document exactly when it occurs in one of its
texts.
-/

namespace ResearchTool

open Python

namespace Python

/-- `\uXXXX` for a code unit. -/
def unicodeEscape (unit : Nat) : Text :=
  "\\u".toList ++ [3, 2, 1, 0].map fun place => Nat.digitChar (unit / 16 ^ place % 16)

/-- One character within a JSON string. -/
def jsonEscapeChar (c : Char) : Text :=
  if c = '"' then "\\\"".toList
  else if c = '\\' then "\\\\".toList
  else if c = '\n' then "\\n".toList
  else if c = '\r' then "\\r".toList
  else if c = '\t' then "\\t".toList
  else if c.toNat = 8 then "\\b".toList
  else if c.toNat = 12 then "\\f".toList
  else if 32 ≤ c.toNat && c.toNat ≤ 126 then [c]
  else if c.toNat < 0x10000 then unicodeEscape c.toNat
  else
    unicodeEscape (0xD800 + (c.toNat - 0x10000) / 0x400) ++
      unicodeEscape (0xDC00 + (c.toNat - 0x10000) % 0x400)

/-- A text between the quotes of a JSON string. -/
def jsonEscape (text : Text) : Text :=
  text.flatMap jsonEscapeChar

/-- A JSON string. -/
def jsonString (text : Text) : Text :=
  ['"'] ++ (jsonEscape text ++ ['"'])

end Python

namespace Json

mutual

/-- `json.dumps(value)`. -/
def dumps : Json → Text
  | null => "null".toList
  | bool value => (if value then "true" else "false").toList
  | int value => (toString value).toList
  | float token => token.toList
  | string value => jsonString value.toList
  | array items => ['['] ++ (join ", ".toList (dumpsItems items) ++ [']'])
  | object entries => ['\x7b'] ++ (join ", ".toList (dumpsEntries entries) ++ ['\x7d'])

def dumpsItems : List Json → List Text
  | [] => []
  | item :: rest => dumps item :: dumpsItems rest

def dumpsEntries : List (String × Json) → List Text
  | [] => []
  | (key, value) :: rest =>
      (jsonString key.toList ++ (": ".toList ++ dumps value)) :: dumpsEntries rest

end

mutual

/-- The texts a document shows: its strings and keys, as they are escaped, and
the tokens of its floats. -/
def texts : Json → List Text
  | null => []
  | bool _ => []
  | int _ => []
  | float token => [token.toList]
  | string value => [jsonEscape value.toList]
  | array items => textsOfItems items
  | object entries => textsOfEntries entries

def textsOfItems : List Json → List Text
  | [] => []
  | item :: rest => texts item ++ textsOfItems rest

def textsOfEntries : List (String × Json) → List Text
  | [] => []
  | (key, value) :: rest => jsonEscape key.toList :: (texts value ++ textsOfEntries rest)

end

/-! ## Words in a document -/

/-- The characters a document has outside its strings and floats. -/
def isSyntax (c : Char) : Bool :=
  c.isDigit || "[]\x7b\x7d,:\" -aeflnrstu".toList.contains c

/-- A language whose words neither begin nor end with the syntax and do not run
across a separator. -/
structure Foreign (words : Text → Prop) : Prop where
  nonempty : ¬ words []
  first : ∀ word, words word → ∀ c ∈ word.head?, isSyntax c = false
  last : ∀ word, words word → ∀ c ∈ word.getLast?, isSyntax c = false
  unseparated : ∀ word, words word → ∀ c ∈ [',', ':'], ¬ [c, ' '] <:+: word

section

variable {words : Text → Prop} (foreign : Foreign words)
include foreign

/-- Syntax in front of a part. -/
theorem contains_after_plain {syntactic : Text} (plain : ∀ c ∈ syntactic, isSyntax c = true)
    (text : Text) : Contains words (syntactic ++ text) ↔ Contains words text := by
  apply contains_append_of_first foreign.nonempty
  intro word listed c first inside
  have absent := foreign.first word listed c first
  rw [plain c inside] at absent
  cases absent

/-- Syntax behind a part. -/
theorem contains_before_plain {syntactic : Text} (plain : ∀ c ∈ syntactic, isSyntax c = true)
    (text : Text) : Contains words (text ++ syntactic) ↔ Contains words text := by
  apply contains_append_of_last foreign.nonempty
  intro word listed c last inside
  have absent := foreign.last word listed c last
  rw [plain c inside] at absent
  cases absent

theorem not_contains_plain {syntactic : Text} (plain : ∀ c ∈ syntactic, isSyntax c = true) :
    ¬ Contains words syntactic := by
  rw [← List.append_nil syntactic, contains_after_plain foreign plain]
  rintro ⟨word, listed, occurs⟩
  exact foreign.nonempty (List.infix_nil.mp occurs ▸ listed)

/-- The two parts of a separator keep what they separate apart. -/
theorem contains_separated_iff {c : Char} (separator : c ∈ [',', ':']) (left right : Text) :
    Contains words (left ++ ([c, ' '] ++ right)) ↔ Contains words left ∨ Contains words right := by
  have plain : ∀ d ∈ [c], isSyntax d = true := by
    intro d member
    rw [List.mem_singleton.mp member]
    simp only [List.mem_cons, List.not_mem_nil, or_false] at separator
    rcases separator with rfl | rfl <;> rfl
  have seam : Apart words (left ++ [c]) ([' '] ++ right) := by
    intro word listed last lastOf first firstOf inside
    rw [List.getLast?_concat] at lastOf
    cases lastOf
    cases firstOf
    exact foreign.unseparated word listed c separator inside
  have regroup : left ++ ([c, ' '] ++ right) = (left ++ [c]) ++ ([' '] ++ right) := by simp
  rw [regroup, contains_append_iff seam, contains_before_plain foreign plain,
    contains_after_plain foreign (by decide)]

theorem contains_join_iff (items : List Text) :
    Contains words (join ", ".toList items) ↔ ∃ item ∈ items, Contains words item := by
  have comma : ", ".toList = [',', ' '] := by decide
  induction items with
  | nil => simpa [join] using @not_contains_plain words foreign [] (by simp)
  | cons item rest ih =>
      cases rest with
      | nil => simp [join]
      | cons next rest =>
          rw [join, List.intercalate_cons_cons, List.append_assoc, ← join]
          conv_lhs => rw [comma, contains_separated_iff foreign (by simp), ← comma]
          rw [List.exists_mem_cons_iff]
          exact or_congr Iff.rfl ih

theorem contains_jsonString_iff (text : Text) :
    Contains words (jsonString text) ↔ Contains words (jsonEscape text) := by
  rw [jsonString, contains_after_plain foreign (by decide),
    contains_before_plain foreign (by decide)]

theorem not_contains_int (value : Int) : ¬ Contains words (toString value).toList := by
  apply not_contains_plain foreign
  intro c member
  rcases mem_toString_int member with rfl | digit
  · rfl
  · rw [isSyntax, digit, Bool.true_or]

end

variable {words : Text → Prop}

mutual

/-- A word occurs in a document where it occurs in one of its texts. -/
theorem contains_dumps_iff (foreign : Foreign words) : ∀ value : Json,
    Contains words value.dumps ↔ ∃ text ∈ value.texts, Contains words text
  | null => by simpa [dumps, texts] using not_contains_plain foreign (by decide)
  | bool value => by
      cases value <;> simpa [dumps, texts] using not_contains_plain foreign (by decide)
  | int value => by simpa [dumps, texts] using not_contains_int foreign value
  | float token => by simp [dumps, texts]
  | string value => by simp [dumps, texts, contains_jsonString_iff foreign]
  | array items => by
      rw [dumps, texts, contains_after_plain foreign (by decide),
        contains_before_plain foreign (by decide), contains_join_iff foreign]
      exact contains_dumpsItems_iff foreign items
  | object entries => by
      rw [dumps, texts, contains_after_plain foreign (by decide),
        contains_before_plain foreign (by decide), contains_join_iff foreign]
      exact contains_dumpsEntries_iff foreign entries

theorem contains_dumpsItems_iff (foreign : Foreign words) : ∀ items : List Json,
    (∃ text ∈ dumpsItems items, Contains words text) ↔
      ∃ text ∈ textsOfItems items, Contains words text
  | [] => by simp [dumpsItems, textsOfItems]
  | item :: rest => by
      rw [dumpsItems, textsOfItems, List.exists_mem_cons_iff, contains_dumps_iff foreign item,
        contains_dumpsItems_iff foreign rest]
      simp only [List.mem_append, or_and_right, exists_or]

theorem contains_dumpsEntries_iff (foreign : Foreign words) : ∀ entries : List (String × Json),
    (∃ text ∈ dumpsEntries entries, Contains words text) ↔
      ∃ text ∈ textsOfEntries entries, Contains words text
  | [] => by simp [dumpsEntries, textsOfEntries]
  | (key, value) :: rest => by
      have colon : ": ".toList = [':', ' '] := by decide
      rw [dumpsEntries, textsOfEntries, List.exists_mem_cons_iff, List.exists_mem_cons_iff, colon,
        contains_separated_iff foreign (by simp), contains_jsonString_iff foreign,
        contains_dumps_iff foreign value, contains_dumpsEntries_iff foreign rest]
      simp only [List.mem_append, or_and_right, exists_or, or_assoc]

end

end Json

end ResearchTool
