import ResearchTool.Python.JsonText

/-!
# Reading JSON texts

`json.loads`: the scanner of the standard library on lists of code points.  A
text is a sequence of characters, so that an escaped surrogate must come in a
pair.  Every value that `json.dumps` writes is read back.
-/

namespace ResearchTool

open Python

namespace Python

/-- The white space between the tokens of a document. -/
def isJsonSpace (c : Char) : Bool :=
  [' ', '\t', '\n', '\r'].contains c

def skipSpace : Text → Text :=
  List.dropWhile isJsonSpace

/-! ## Numbers -/

/-- `-?`, and what follows. -/
def signPart : Text → Text × Text
  | '-' :: rest => (['-'], rest)
  | text => ([], text)

/-- `0|[1-9]\d*`, and what follows. -/
def digitsPart (text : Text) : Option (Text × Text) :=
  match text.takeWhile Char.isDigit with
  | [] => none
  | '0' :: _ => some (['0'], text.tail)
  | digits => some (digits, text.dropWhile Char.isDigit)

/-- `(\.\d+)?`, and what follows. -/
def fractionPart : Text → Text × Text
  | '.' :: rest =>
      match rest.takeWhile Char.isDigit with
      | [] => ([], '.' :: rest)
      | digits => ('.' :: digits, rest.dropWhile Char.isDigit)
  | text => ([], text)

/-- `[-+]?`, and what follows. -/
def exponentSign : Text → Text × Text
  | '-' :: rest => (['-'], rest)
  | '+' :: rest => (['+'], rest)
  | text => ([], text)

/-- `([eE][-+]?\d+)?`, and what follows. -/
def exponentPart : Text → Text × Text
  | [] => ([], [])
  | c :: rest =>
      if c = 'e' ∨ c = 'E' then
        match (exponentSign rest).2.takeWhile Char.isDigit with
        | [] => ([], c :: rest)
        | digits => (c :: ((exponentSign rest).1 ++ digits),
            (exponentSign rest).2.dropWhile Char.isDigit)
      else ([], c :: rest)

/-- `int(text)` for a sign and digits. -/
def intOfDigits (sign digits : Text) : Int :=
  if sign = [] then Nat.ofDigitChars 10 digits 0 else -(Nat.ofDigitChars 10 digits 0 : Int)

/-- Fraction and exponent, and what follows. -/
def decimalPart (text : Text) : Text × Text :=
  ((fractionPart text).1 ++ (exponentPart (fractionPart text).2).1,
    (exponentPart (fractionPart text).2).2)

/-- `float` reads the number if it has a fraction or an exponent, else `int`. -/
def numberOf (sign digits decimals : Text) : Json :=
  if decimals = [] then .int (intOfDigits sign digits)
  else .float (String.ofList (sign ++ (digits ++ decimals)))

/-- The number a text begins with, and what follows. -/
def readNumber (text : Text) : Option (Json × Text) :=
  (digitsPart (signPart text).2).map fun (digits, rest) =>
    (numberOf (signPart text).1 digits (decimalPart rest).1, (decimalPart rest).2)

/-- The literals, and what `float` makes of the special ones. -/
def jsonConstants : List (String × Json) :=
  [("null", .null), ("true", .bool true), ("false", .bool false), ("NaN", .float "NaN"),
    ("Infinity", .float "Infinity"), ("-Infinity", .float "-Infinity")]

/-- The literal a text begins with, and what follows. -/
def readConstant (text : Text) : Option (Json × Text) :=
  jsonConstants.findSome? fun (word, value) =>
    if word.toList.isPrefixOf text then some (value, text.drop word.length) else none

/-! ## Strings -/

def hexDigit? (c : Char) : Option Nat :=
  if c.isDigit then some (c.toNat - '0'.toNat)
  else if 'a' ≤ c ∧ c ≤ 'f' then some (c.toNat - 'a'.toNat + 10)
  else if 'A' ≤ c ∧ c ≤ 'F' then some (c.toNat - 'A'.toNat + 10)
  else none

/-- The four digits of a code unit, and what follows. -/
def readUnit : Text → Option (Nat × Text)
  | a :: b :: c :: d :: rest => do
      let a ← hexDigit? a
      let b ← hexDigit? b
      let c ← hexDigit? c
      let d ← hexDigit? d
      pure (((a * 16 + b) * 16 + c) * 16 + d, rest)
  | _ => none

/-- What follows `\u`: a character, or the two halves of one. -/
def readCodePoint (text : Text) : Option (Char × Text) := do
  let (unit, rest) ← readUnit text
  if 0xD800 ≤ unit ∧ unit < 0xDC00 then
    match rest with
    | '\\' :: 'u' :: rest => do
        let (low, rest) ← readUnit rest
        if 0xDC00 ≤ low ∧ low < 0xE000 then
          pure (Char.ofNat (0x10000 + ((unit - 0xD800) * 0x400 + (low - 0xDC00))), rest)
        else none
    | _ => none
  else if 0xDC00 ≤ unit ∧ unit < 0xE000 then none
  else pure (Char.ofNat unit, rest)

/-- What follows a backslash. -/
def readEscape : Text → Option (Char × Text)
  | '"' :: rest => some ('"', rest)
  | '\\' :: rest => some ('\\', rest)
  | '/' :: rest => some ('/', rest)
  | 'b' :: rest => some (Char.ofNat 8, rest)
  | 'f' :: rest => some (Char.ofNat 12, rest)
  | 'n' :: rest => some ('\n', rest)
  | 'r' :: rest => some ('\r', rest)
  | 't' :: rest => some ('\t', rest)
  | 'u' :: rest => readCodePoint rest
  | _ => none

/-- One character of a string; control characters must be escaped. -/
def readChar : Text → Option (Char × Text)
  | [] => none
  | '\\' :: rest => readEscape rest
  | c :: rest => if c.toNat < 32 then none else some (c, rest)

/-- The characters up to the closing quote. -/
def readChars : Nat → Text → Option (Text × Text)
  | 0, _ => none
  | _ + 1, '"' :: rest => some ([], rest)
  | fuel + 1, text => do
      let (c, rest) ← readChar text
      let (chars, rest) ← readChars fuel rest
      pure (c :: chars, rest)

/-- What follows the opening quote: every character takes at least one place. -/
def readString (text : Text) : Option (String × Text) :=
  (readChars text.length text).map fun (chars, rest) => (String.ofList chars, rest)

/-! ## Documents -/

/-- `dict[key] = value`: the last value of a key stands in the place of the
first one. -/
def assign (entries : List (String × Json)) (key : String) (value : Json) : List (String × Json) :=
  if key ∈ entries.map Prod.fst then
    entries.map fun entry => if entry.1 = key then (key, value) else entry
  else entries ++ [(key, value)]

/-- `dict(pairs)`. -/
def dictOf (pairs : List (String × Json)) : List (String × Json) :=
  pairs.foldl (fun entries pair => assign entries pair.1 pair.2) []

mutual

/-- The value a text begins with, and what follows. -/
def readValue : Nat → Text → Option (Json × Text)
  | 0, _ => none
  | _ + 1, '"' :: rest => (readString rest).map fun (value, rest) => (.string value, rest)
  | fuel + 1, '[' :: rest =>
      match skipSpace rest with
      | ']' :: rest => some (.array [], rest)
      | rest => (readItems fuel rest).map fun (items, rest) => (.array items, rest)
  | fuel + 1, '\x7b' :: rest =>
      match skipSpace rest with
      | '\x7d' :: rest => some (.object [], rest)
      | rest => (readEntries fuel rest).map fun (pairs, rest) => (.object (dictOf pairs), rest)
  | _ + 1, text => readNumber text <|> readConstant text

/-- The items up to the closing bracket. -/
def readItems : Nat → Text → Option (List Json × Text)
  | 0, _ => none
  | fuel + 1, text => do
      let (item, rest) ← readValue fuel text
      match skipSpace rest with
      | ']' :: rest => pure ([item], rest)
      | ',' :: rest => do
          let (items, rest) ← readItems fuel (skipSpace rest)
          pure (item :: items, rest)
      | _ => none

/-- The key-value pairs up to the closing brace. -/
def readEntries : Nat → Text → Option (List (String × Json) × Text)
  | 0, _ => none
  | fuel + 1, '"' :: rest => do
      let (key, rest) ← readString rest
      match skipSpace rest with
      | ':' :: rest => do
          let (value, rest) ← readValue fuel (skipSpace rest)
          match skipSpace rest with
          | '\x7d' :: rest => pure ([(key, value)], rest)
          | ',' :: rest => do
              let (pairs, rest) ← readEntries fuel (skipSpace rest)
              pure ((key, value) :: pairs, rest)
          | _ => none
      | _ => none
  | _ + 1, _ => none

end

/-! ## Reading numbers -/

/-- What may stand behind a value: nothing, or the next token of a container. -/
def Stops (rest : Text) : Prop :=
  ∀ c ∈ rest.head?, c ∈ [',', ']', '\x7d']

theorem stops_nil : Stops [] := by
  intro c first
  cases first

theorem stops_cons {c : Char} (token : c ∈ [',', ']', '\x7d']) (rest : Text) :
    Stops (c :: rest) := by
  intro d first
  cases first
  exact token

theorem Stops.takeWhile {rest : Text} (stops : Stops rest) :
    rest.takeWhile Char.isDigit = [] := by
  cases rest with
  | nil => rfl
  | cons c tail =>
      have token := stops c rfl
      simp only [List.mem_cons, List.not_mem_nil, or_false] at token
      rcases token with rfl | rfl | rfl <;> rfl

theorem Stops.takeWhile_append {rest : Text} (stops : Stops rest) (text : Text) :
    (text ++ rest).takeWhile Char.isDigit = text.takeWhile Char.isDigit := by
  rw [List.takeWhile_append]
  split
  · rename_i whole
    rw [stops.takeWhile, List.append_nil]
    exact ((List.takeWhile_prefix _).eq_of_length whole).symm
  · rfl

theorem Stops.dropWhile_append {rest : Text} (stops : Stops rest) (text : Text) :
    (text ++ rest).dropWhile Char.isDigit = text.dropWhile Char.isDigit ++ rest := by
  refine (List.append_right_inj (text.takeWhile Char.isDigit)).mp ?_
  rw [← stops.takeWhile_append, List.takeWhile_append_dropWhile, stops.takeWhile_append,
    ← List.append_assoc, List.takeWhile_append_dropWhile]

theorem signPart_append {text : Text} (nonempty : text ≠ []) (rest : Text) :
    signPart (text ++ rest) = ((signPart text).1, (signPart text).2 ++ rest) := by
  cases text with
  | nil => exact absurd rfl nonempty
  | cons c text =>
    rw [List.cons_append, signPart.eq_def, signPart.eq_def]
    split <;> simp_all

theorem digitsPart_append {rest : Text} (stops : Stops rest) {text digits left : Text}
    (found : digitsPart text = some (digits, left)) :
    digitsPart (text ++ rest) = some (digits, left ++ rest) := by
  have nonempty : text ≠ [] := by
    rintro rfl
    cases found
  unfold digitsPart at found ⊢
  rw [stops.takeWhile_append, stops.dropWhile_append, List.tail_append_of_ne_nil nonempty]
  split at found
  · cases found
  · cases found
    rfl
  · cases found
    rfl

theorem fractionPart_append {rest : Text} (stops : Stops rest) (text : Text) :
    fractionPart (text ++ rest) = ((fractionPart text).1, (fractionPart text).2 ++ rest) := by
  cases text with
  | nil =>
      cases rest with
      | nil => rfl
      | cons c tail =>
          have token := stops c rfl
          simp only [List.mem_cons, List.not_mem_nil, or_false] at token
          rcases token with rfl | rfl | rfl <;> rfl
  | cons c tail =>
      by_cases point : c = '.'
      · subst point
        rw [List.cons_append, fractionPart, fractionPart, stops.takeWhile_append,
          stops.dropWhile_append]
        split <;> rfl
      · have plain : ∀ text, fractionPart (c :: text) = ([], c :: text) := by
          intro text
          simp [fractionPart, point]
        rw [List.cons_append, plain, plain]
        rfl

theorem exponentSign_append {rest : Text} (stops : Stops rest) (text : Text) :
    exponentSign (text ++ rest) = ((exponentSign text).1, (exponentSign text).2 ++ rest) := by
  cases text with
  | nil =>
      cases rest with
      | nil => rfl
      | cons c tail =>
          have token := stops c rfl
          simp only [List.mem_cons, List.not_mem_nil, or_false] at token
          rcases token with rfl | rfl | rfl <;> rfl
  | cons c tail =>
      rw [List.cons_append, exponentSign.eq_def, exponentSign.eq_def]
      split <;> simp_all

theorem exponentPart_append {rest : Text} (stops : Stops rest) (text : Text) :
    exponentPart (text ++ rest) = ((exponentPart text).1, (exponentPart text).2 ++ rest) := by
  cases text with
  | nil =>
      cases rest with
      | nil => rfl
      | cons c tail =>
          have token := stops c rfl
          simp only [List.mem_cons, List.not_mem_nil, or_false] at token
          rcases token with rfl | rfl | rfl <;> rfl
  | cons c tail =>
      rw [List.cons_append, exponentPart, exponentPart, exponentSign_append stops,
        stops.takeWhile_append, stops.dropWhile_append]
      split
      · split <;> rfl
      · rfl

theorem decimalPart_append {rest : Text} (stops : Stops rest) (text : Text) :
    decimalPart (text ++ rest) = ((decimalPart text).1, (decimalPart text).2 ++ rest) := by
  simp only [decimalPart, fractionPart_append stops, exponentPart_append stops]

theorem readNumber_append {rest : Text} (stops : Stops rest) {text left : Text} {value : Json}
    (found : readNumber text = some (value, left)) :
    readNumber (text ++ rest) = some (value, left ++ rest) := by
  have nonempty : text ≠ [] := by
    rintro rfl
    cases found
  obtain ⟨⟨digits, behind⟩, read, made⟩ := Option.map_eq_some_iff.mp found
  cases made
  rw [readNumber, signPart_append nonempty]
  simp only [digitsPart_append stops read, Option.map_some, decimalPart_append stops]

theorem head?_toDigits (number : Nat) (positive : 0 < number) :
    (Nat.toDigits 10 number).head? ≠ some '0' := by
  induction number using Nat.base_induction 10 (by decide) with
  | single digit below =>
      rw [Nat.toDigits_of_lt_base below, List.head?_cons, ne_eq, Option.some.injEq,
        Nat.digitChar_eq_zero]
      exact Nat.ne_of_gt positive
  | digit high low below highPositive ih =>
      rw [← Nat.toDigits_append_toDigits (by decide) highPositive below,
        List.head?_append_of_ne_nil _ Nat.toDigits_ne_nil]
      exact ih highPositive

/-- The digits of a number are read back. -/
theorem digitsPart_toDigits (number : Nat) :
    digitsPart (Nat.toDigits 10 number) = some (Nat.toDigits 10 number, []) := by
  have digits : ∀ c ∈ Nat.toDigits 10 number, c.isDigit = true := fun c member =>
    Nat.isDigit_of_mem_toDigits (by decide) (by decide) member
  rcases Nat.eq_zero_or_pos number with rfl | positive
  · rfl
  · have first := head?_toDigits number positive
    unfold digitsPart
    rw [List.takeWhile_eq_self_iff.mpr digits, List.dropWhile_eq_nil_iff.mpr digits]
    split
    · rename_i none
      exact absurd none Nat.toDigits_ne_nil
    · rename_i zero
      rw [zero] at first
      exact absurd rfl first
    · rfl

theorem toList_toString_int (value : Int) :
    (toString value).toList =
      (if value < 0 then ['-'] else []) ++ Nat.toDigits 10 value.natAbs := by
  rw [Int.toString_eq_repr]
  cases value with
  | ofNat number => exact Nat.toList_repr
  | negSucc number =>
      rw [if_pos (Int.negSucc_lt_zero number)]
      exact String.toList_append.trans (congrArg _ Nat.toList_repr)

theorem signPart_toDigits (number : Nat) :
    signPart (Nat.toDigits 10 number) = ([], Nat.toDigits 10 number) := by
  unfold signPart
  split
  · rename_i rest signed
    have digit : '-'.isDigit = true := Nat.isDigit_of_mem_toDigits (b := 10) (n := number)
      (by decide) (by decide) (signed ▸ List.mem_cons_self)
    cases digit
  · rfl

theorem intOfDigits_toDigits (value : Int) :
    intOfDigits (if value < 0 then ['-'] else []) (Nat.toDigits 10 value.natAbs) = value := by
  unfold intOfDigits
  rw [Nat.ofDigitChars_ten_toDigits]
  split <;> split <;> first | omega | simp_all

/-- An integer is read back. -/
theorem readNumber_toString (value : Int) :
    readNumber (toString value).toList = some (.int value, []) := by
  have sign : signPart (toString value).toList =
      (if value < 0 then ['-'] else [], Nat.toDigits 10 value.natAbs) := by
    rw [toList_toString_int]
    split
    · rfl
    · exact signPart_toDigits _
  have number : numberOf (if value < 0 then ['-'] else []) (Nat.toDigits 10 value.natAbs) [] =
      .int value := by
    rw [numberOf, if_pos rfl, intOfDigits_toDigits]
  simp only [readNumber, sign, digitsPart_toDigits, Option.map_some]
  exact congrArg (fun read => some (read, [])) number

/-! ## Reading strings -/

theorem hexDigit?_digitChar : ∀ digit < 16, hexDigit? (Nat.digitChar digit) = some digit := by
  decide

/-- A code unit is read back. -/
theorem readUnit_unicodeEscape {unit : Nat} (below : unit < 0x10000) (rest : Text) :
    readUnit (([3, 2, 1, 0].map fun place => Nat.digitChar (unit / 16 ^ place % 16)) ++ rest) =
      some (unit, rest) := by
  have digit : ∀ number, hexDigit? (Nat.digitChar (number % 16)) = some (number % 16) :=
    fun number => hexDigit?_digitChar _ (Nat.mod_lt _ (by decide))
  have value : ((unit / 16 ^ 3 % 16 * 16 + unit / 16 ^ 2 % 16) * 16 + unit / 16 ^ 1 % 16) * 16 +
      unit / 16 ^ 0 % 16 = unit := by
    omega
  simp only [List.map_cons, List.map_nil, List.cons_append, List.nil_append, readUnit, digit,
    Option.bind_eq_bind, Option.bind_some, value, Option.pure_def]

theorem toNat_valid (c : Char) : c.toNat < 0xD800 ∨ (0xDFFF < c.toNat ∧ c.toNat < 0x110000) :=
  c.valid

/-- An escaped character of the basic plane is read back. -/
theorem readCodePoint_basic {c : Char} (basic : c.toNat < 0x10000) (rest : Text) :
    readCodePoint (([3, 2, 1, 0].map fun place => Nat.digitChar (c.toNat / 16 ^ place % 16)) ++
      rest) = some (c, rest) := by
  have valid := toNat_valid c
  rw [readCodePoint, readUnit_unicodeEscape basic]
  simp only [Option.bind_eq_bind, Option.bind_some]
  rw [if_neg (by omega), if_neg (by omega), Char.ofNat_toNat]
  rfl

/-- The two halves of a pair are read as one character. -/
theorem readCodePoint_pair {high low : Nat} (highAbove : 0xD800 ≤ high) (highBelow : high < 0xDC00)
    (lowAbove : 0xDC00 ≤ low) (lowBelow : low < 0xE000) (rest : Text) :
    readCodePoint (([3, 2, 1, 0].map fun place => Nat.digitChar (high / 16 ^ place % 16)) ++
        (unicodeEscape low ++ rest)) =
      some (Char.ofNat (0x10000 + ((high - 0xD800) * 0x400 + (low - 0xDC00))), rest) := by
  have second : ∀ text, "\\u".toList ++ text = '\\' :: 'u' :: text := fun _ => rfl
  rw [readCodePoint, readUnit_unicodeEscape (by omega), unicodeEscape, List.append_assoc, second]
  simp only [Option.bind_eq_bind, Option.bind_some]
  rw [if_pos ⟨highAbove, highBelow⟩, readUnit_unicodeEscape (by omega)]
  simp only [Option.bind_some]
  rw [if_pos ⟨lowAbove, lowBelow⟩, Option.pure_def]

/-- A character beyond the basic plane is read back from its two halves. -/
theorem readCodePoint_paired {c : Char} (beyond : 0x10000 ≤ c.toNat) (rest : Text) :
    readCodePoint (([3, 2, 1, 0].map fun place =>
      Nat.digitChar ((0xD800 + (c.toNat - 0x10000) / 0x400) / 16 ^ place % 16)) ++
        (unicodeEscape (0xDC00 + (c.toNat - 0x10000) % 0x400) ++ rest)) = some (c, rest) := by
  have valid := toNat_valid c
  have together : 0x10000 + ((0xD800 + (c.toNat - 0x10000) / 0x400 - 0xD800) * 0x400 +
      (0xDC00 + (c.toNat - 0x10000) % 0x400 - 0xDC00)) = c.toNat := by
    omega
  rw [readCodePoint_pair (by omega) (by omega) (by omega) (by omega), together, Char.ofNat_toNat]

/-- A character is read back as it is escaped, and it does not close the string. -/
theorem readChar_jsonEscapeChar (c : Char) (rest : Text) :
    readChar (jsonEscapeChar c ++ rest) = some (c, rest) := by
  have escaped : ∀ text, "\\u".toList ++ text = '\\' :: 'u' :: text := fun _ => rfl
  have numbered : ∀ {n : Nat}, c.toNat = n → c = Char.ofNat n := by
    rintro n rfl
    exact (Char.ofNat_toNat c).symm
  unfold jsonEscapeChar
  split
  case isTrue quote => subst quote; rfl
  split
  case isTrue backslash => subst backslash; rfl
  split
  case isTrue newline => subst newline; rfl
  split
  case isTrue carriage => subst carriage; rfl
  split
  case isTrue tab => subst tab; rfl
  split
  case isTrue backspace => rw [numbered backspace]; rfl
  split
  case isTrue feed => rw [numbered feed]; rfl
  split
  case isTrue printable =>
    simp only [Bool.and_eq_true, decide_eq_true_eq] at printable
    have plain : readChar (c :: rest) = if c.toNat < 32 then none else some (c, rest) := by
      simp [readChar]
    rw [List.singleton_append, plain, if_neg (by omega)]
  split
  case isTrue basic =>
    rw [unicodeEscape, List.append_assoc, escaped]
    exact readCodePoint_basic basic rest
  case isFalse beyond =>
    rw [unicodeEscape, List.append_assoc, List.append_assoc, escaped]
    exact readCodePoint_paired (by omega) rest

theorem jsonEscapeChar_ne_quote (c : Char) (rest : Text) :
    ∃ first more, jsonEscapeChar c ++ rest = first :: more ∧ first ≠ '"' := by
  unfold jsonEscapeChar
  split
  case isTrue quote => exact ⟨_, _, rfl, by decide⟩
  repeat' split
  all_goals first | exact ⟨_, _, rfl, by decide⟩ | exact ⟨_, _, rfl, by assumption⟩

theorem readChars_jsonEscape {text : Text} {fuel : Nat} (enough : text.length < fuel)
    (rest : Text) : readChars fuel (jsonEscape text ++ '"' :: rest) = some (text, rest) := by
  induction text generalizing fuel with
  | nil =>
      cases fuel with
      | zero => cases enough
      | succ fuel => rfl
  | cons c text ih =>
      cases fuel with
      | zero => cases enough
      | succ fuel =>
          have shown : jsonEscape (c :: text) ++ '"' :: rest =
              jsonEscapeChar c ++ (jsonEscape text ++ '"' :: rest) := by
            simp [jsonEscape]
          obtain ⟨first, more, begins, notQuote⟩ :=
            jsonEscapeChar_ne_quote c (jsonEscape text ++ '"' :: rest)
          have step : ∀ fuel, readChars (fuel + 1) (first :: more) = (do
              let (c, rest) ← readChar (first :: more)
              let (chars, rest) ← readChars fuel rest
              pure (c :: chars, rest)) := by
            intro fuel
            rw [readChars]
            simp [notQuote]
          rw [shown, begins, step, ← begins, readChar_jsonEscapeChar]
          simp only [Option.bind_eq_bind, Option.bind_some]
          rw [ih (Nat.lt_of_succ_lt_succ enough)]
          rfl

theorem length_le_jsonEscape (text : Text) : text.length ≤ (jsonEscape text).length := by
  induction text with
  | nil => exact Nat.le_refl _
  | cons c text ih =>
      obtain ⟨first, more, begins, -⟩ := jsonEscapeChar_ne_quote c []
      rw [List.append_nil] at begins
      rw [jsonEscape, List.flatMap_cons, List.length_append, begins, ← jsonEscape]
      simp only [List.length_cons]
      omega

/-- A string is read back. -/
theorem readString_jsonEscape (value : String) (rest : Text) :
    readString (jsonEscape value.toList ++ '"' :: rest) = some (value, rest) := by
  have enough : value.toList.length < (jsonEscape value.toList ++ '"' :: rest).length := by
    have lengths := length_le_jsonEscape value.toList
    simp only [List.length_append, List.length_cons]
    omega
  simp only [readString, readChars_jsonEscape enough, Option.map_some, String.ofList_toList]

end Python

namespace Json

/-- `json.loads(text)`; `none` stands for `JSONDecodeError`, and for the escape of
a lone surrogate, which no string holds here.  Every level of nesting and every
item takes at least one character. -/
def loads (text : Text) : Option Json :=
  match readValue text.length (skipSpace text) with
  | some (value, rest) => if skipSpace rest = [] then some value else none
  | none => none

mutual

/-- A value of the decoder: its floats are finite, and no key of a dictionary
stands twice. -/
def WellFormed : Json → Prop
  | float token => readNumber token.toList = some (.float token, [])
  | array items => WellFormedItems items
  | object entries => (entries.map Prod.fst).Nodup ∧ WellFormedEntries entries
  | _ => True

def WellFormedItems : List Json → Prop
  | [] => True
  | item :: rest => WellFormed item ∧ WellFormedItems rest

def WellFormedEntries : List (String × Json) → Prop
  | [] => True
  | (_, value) :: rest => WellFormed value ∧ WellFormedEntries rest

end

/-! ## Reading documents -/

/-- The characters that begin a value. -/
def Begins (text : Text) : Prop :=
  ∃ c rest, text = c :: rest ∧ isJsonSpace c = false ∧ c ≠ ']'

theorem Begins.append {text : Text} (begins : Begins text) (rest : Text) :
    Begins (text ++ rest) := by
  obtain ⟨c, tail, rfl, solid, open'⟩ := begins
  exact ⟨c, tail ++ rest, rfl, solid, open'⟩

theorem Begins.skipSpace {text : Text} (begins : Begins text) : skipSpace text = text := by
  obtain ⟨c, tail, rfl, solid, -⟩ := begins
  exact List.dropWhile_cons_of_neg (by rw [solid]; exact Bool.false_ne_true)

/-- The characters a number begins with. -/
def isNumeric (c : Char) : Bool :=
  c == '-' || c.isDigit

theorem head_of_readNumber {text rest : Text} {value : Json}
    (found : readNumber text = some (value, rest)) :
    ∃ c tail, text = c :: tail ∧ isNumeric c = true := by
  obtain ⟨⟨digits, behind⟩, read, -⟩ := Option.map_eq_some_iff.mp found
  cases text with
  | nil => cases read
  | cons c tail =>
      refine ⟨c, tail, rfl, ?_⟩
      by_cases sign : c = '-'
      · rw [sign]
        rfl
      · have unsigned : (signPart (c :: tail)).2 = c :: tail := by
          simp [signPart, sign]
        by_contra other
        have letter : ¬ c.isDigit = true := by
          intro digit
          exact other (by rw [isNumeric, digit, Bool.or_true])
        rw [unsigned, digitsPart, List.takeWhile_cons_of_neg letter] at read
        cases read

/-- A number is no container and no string. -/
theorem readValue_numeric {c : Char} (numeric : isNumeric c = true) (tail : Text) (fuel : Nat) :
    readValue (fuel + 1) (c :: tail) =
      (readNumber (c :: tail) <|> readConstant (c :: tail)) := by
  have different : ∀ d, isNumeric d = false → c ≠ d := by
    rintro d other rfl
    rw [numeric] at other
    cases other
  rw [readValue]
  · exact fun _ same => different _ rfl (List.cons.inj same).1
  · exact fun _ same => different _ rfl (List.cons.inj same).1
  · exact fun _ same => different _ rfl (List.cons.inj same).1

theorem begins_of_numeric {c : Char} (numeric : isNumeric c = true) (tail : Text) :
    Begins (c :: tail) := by
  have different : ∀ d, isNumeric d = false → c ≠ d := by
    rintro d other rfl
    rw [numeric] at other
    cases other
  refine ⟨c, tail, rfl, ?_, different _ rfl⟩
  simp [isJsonSpace, different ' ' rfl, different '\t' rfl, different '\n' rfl,
    different '\r' rfl]

/-- A number is read up to where a value may stop. -/
theorem readValue_of_readNumber {text : Text} {value : Json}
    (found : readNumber text = some (value, [])) (fuel : Nat) {rest : Text} (stops : Stops rest) :
    readValue (fuel + 1) (text ++ rest) = some (value, rest) := by
  obtain ⟨c, tail, rfl, numeric⟩ := head_of_readNumber found
  rw [List.cons_append, readValue_numeric numeric, ← List.cons_append,
    readNumber_append stops found]
  rfl

theorem readValue_null (fuel : Nat) (rest : Text) :
    readValue (fuel + 1) ("null".toList ++ rest) = some (.null, rest) := by
  rfl

theorem readValue_bool (value : Bool) (fuel : Nat) (rest : Text) :
    readValue (fuel + 1) ((if value then "true" else "false").toList ++ rest) =
      some (.bool value, rest) := by
  cases value <;> rfl

theorem readValue_string (value : String) (fuel : Nat) (rest : Text) :
    readValue (fuel + 1) (jsonString value.toList ++ rest) = some (.string value, rest) := by
  have shown : jsonString value.toList ++ rest =
      '"' :: (jsonEscape value.toList ++ '"' :: rest) := by
    simp [jsonString]
  rw [shown, readValue, readString_jsonEscape]
  rfl

theorem begins_dumps {value : Json} (wellFormed : value.WellFormed) : Begins value.dumps := by
  cases value with
  | null => exact ⟨_, _, rfl, rfl, by decide⟩
  | bool value => cases value <;> exact ⟨_, _, rfl, rfl, by decide⟩
  | int value =>
      obtain ⟨c, tail, shown, numeric⟩ := head_of_readNumber (readNumber_toString value)
      rw [dumps, shown]
      exact begins_of_numeric numeric tail
  | float token =>
      obtain ⟨c, tail, shown, numeric⟩ := head_of_readNumber wellFormed
      rw [dumps, shown]
      exact begins_of_numeric numeric tail
  | string value => exact ⟨_, _, rfl, rfl, by decide⟩
  | array items => exact ⟨_, _, rfl, rfl, by decide⟩
  | object entries => exact ⟨_, _, rfl, rfl, by decide⟩

/-- A dictionary whose keys differ is the list of its pairs. -/
theorem dictOf_eq_self {pairs : List (String × Json)} (distinct : (pairs.map Prod.fst).Nodup) :
    dictOf pairs = pairs := by
  have built : ∀ (entries rest : List (String × Json)),
      ((entries ++ rest).map Prod.fst).Nodup →
      rest.foldl (fun entries pair => assign entries pair.1 pair.2) entries = entries ++ rest := by
    intro entries rest
    induction rest generalizing entries with
    | nil => simp
    | cons pair rest ih =>
        intro distinct
        have new : pair.1 ∉ entries.map Prod.fst := by
          rw [List.map_append, List.nodup_append] at distinct
          intro member
          exact distinct.2.2 _ member _ List.mem_cons_self rfl
        rw [List.foldl_cons, assign, if_neg new, ih _ (by simpa using distinct)]
        simp
  exact built [] pairs distinct

theorem join_cons_cons (first second : Text) (rest : List Text) (behind : Text) :
    join ", ".toList (first :: second :: rest) ++ behind =
      first ++ (',' :: ' ' :: (join ", ".toList (second :: rest) ++ behind)) := by
  rw [join, List.intercalate_cons_cons, List.append_assoc, List.append_assoc]
  rfl

theorem length_join_cons_cons (first second : Text) (rest : List Text) :
    (join ", ".toList (first :: second :: rest)).length =
      first.length + 2 + (join ", ".toList (second :: rest)).length := by
  have shown := join_cons_cons first second rest []
  simp only [List.append_nil] at shown
  rw [shown]
  simp only [List.length_append, List.length_cons]
  omega

theorem join_singleton (item : Text) : join ", ".toList [item] = item :=
  List.intercalate_singleton

theorem begins_join {item : Text} (begins : Begins item) (items : List Text) :
    Begins (join ", ".toList (item :: items)) := by
  obtain ⟨rest, shown⟩ := join_cons ", ".toList item items
  rw [shown]
  exact begins.append rest

theorem readValue_array (fuel : Nat) {text : Text} (begins : Begins text) :
    readValue (fuel + 1) ('[' :: text) =
      (readItems fuel text).map fun (items, rest) => (.array items, rest) := by
  obtain ⟨c, tail, rfl, solid, opened⟩ := begins
  rw [readValue, Begins.skipSpace ⟨c, tail, rfl, solid, opened⟩]
  split
  · rename_i closed
    exact absurd (List.cons.inj closed).1 opened
  · rfl

theorem readItems_last {fuel : Nat} {text rest : Text} {item : Json}
    (read : readValue fuel text = some (item, ']' :: rest)) :
    readItems (fuel + 1) text = some ([item], rest) := by
  rw [readItems, read]
  rfl

theorem readItems_more {fuel : Nat} {text more : Text} {item : Json}
    (read : readValue fuel text = some (item, ',' :: ' ' :: more)) (begins : Begins more) :
    readItems (fuel + 1) text =
      (readItems fuel more).map fun (items, rest) => (item :: items, rest) := by
  have next : skipSpace (' ' :: more) = more := begins.skipSpace
  have comma : skipSpace (',' :: ' ' :: more) = ',' :: ' ' :: more := rfl
  simp only [readItems, read, Option.bind_eq_bind, Option.bind_some, comma, next]
  cases readItems fuel more <;> rfl

theorem readValue_object (fuel : Nat) (text : Text) :
    readValue (fuel + 1) ('\x7b' :: '"' :: text) =
      (readEntries fuel ('"' :: text)).map fun (pairs, rest) => (.object (dictOf pairs), rest) :=
  rfl

theorem readEntries_last {fuel : Nat} {key : String} {text rest : Text} {value : Json}
    (begins : Begins text) (read : readValue fuel text = some (value, '\x7d' :: rest)) :
    readEntries (fuel + 1) (jsonString key.toList ++ (':' :: ' ' :: text)) =
      some ([(key, value)], rest) := by
  have shown : jsonString key.toList ++ (':' :: ' ' :: text) =
      '"' :: (jsonEscape key.toList ++ '"' :: ':' :: ' ' :: text) := by
    simp [jsonString]
  have next : skipSpace (' ' :: text) = text := begins.skipSpace
  have colon : skipSpace (':' :: ' ' :: text) = ':' :: ' ' :: text := rfl
  have closing : skipSpace ('\x7d' :: rest) = '\x7d' :: rest := rfl
  simp only [shown, readEntries, readString_jsonEscape, Option.bind_eq_bind, Option.bind_some,
    colon, next, read, closing, Option.pure_def]

theorem readEntries_more {fuel : Nat} {key : String} {text more : Text} {value : Json}
    (begins : Begins text) (read : readValue fuel text = some (value, ',' :: ' ' :: more))
    (further : Begins more) :
    readEntries (fuel + 1) (jsonString key.toList ++ (':' :: ' ' :: text)) =
      (readEntries fuel more).map fun (pairs, rest) => ((key, value) :: pairs, rest) := by
  have shown : jsonString key.toList ++ (':' :: ' ' :: text) =
      '"' :: (jsonEscape key.toList ++ '"' :: ':' :: ' ' :: text) := by
    simp [jsonString]
  have next : skipSpace (' ' :: text) = text := begins.skipSpace
  have colon : skipSpace (':' :: ' ' :: text) = ':' :: ' ' :: text := rfl
  have comma : skipSpace (',' :: ' ' :: more) = ',' :: ' ' :: more := rfl
  have later : skipSpace (' ' :: more) = more := further.skipSpace
  simp only [shown, readEntries, readString_jsonEscape, Option.bind_eq_bind, Option.bind_some,
    colon, next, read, comma, later]
  cases readEntries fuel more <;> rfl

theorem begins_items {item : Json} {items : List Json}
    (wellFormed : WellFormedItems (item :: items)) :
    Begins (join ", ".toList (dumpsItems (item :: items))) :=
  begins_join (begins_dumps wellFormed.1) _

theorem begins_entries (key : String) (value : Json) (entries : List (String × Json)) :
    Begins (join ", ".toList (dumpsEntries ((key, value) :: entries))) :=
  begins_join ⟨'"', _, rfl, rfl, by decide⟩ _

mutual

/-- A value is read up to where it may stop. -/
theorem readValue_dumps : ∀ (value : Json) (fuel : Nat) (rest : Text), value.WellFormed →
    value.dumps.length ≤ fuel → Stops rest →
    readValue fuel (value.dumps ++ rest) = some (value, rest)
  | value, 0, rest, wellFormed, enough, _ => by
      obtain ⟨c, tail, shown, -⟩ := begins_dumps wellFormed
      rw [shown] at enough
      cases enough
  | null, fuel + 1, rest, _, _, _ => readValue_null fuel rest
  | bool value, fuel + 1, rest, _, _, _ => readValue_bool value fuel rest
  | int value, fuel + 1, rest, _, _, stops =>
      readValue_of_readNumber (readNumber_toString value) fuel stops
  | float token, fuel + 1, rest, wellFormed, _, stops =>
      readValue_of_readNumber wellFormed fuel stops
  | string value, fuel + 1, rest, _, _, _ => readValue_string value fuel rest
  | array [], fuel + 1, rest, _, _, _ => rfl
  | array (item :: items), fuel + 1, rest, wellFormed, enough, _ => by
      have shown : (array (item :: items)).dumps ++ rest =
          '[' :: (join ", ".toList (dumpsItems (item :: items)) ++ ']' :: rest) := by
        simp [dumps]
      have length : (array (item :: items)).dumps.length =
          (join ", ".toList (dumpsItems (item :: items))).length + 2 := by
        simp [dumps]
      rw [shown, readValue_array _ ((begins_items wellFormed).append _),
        readItems_dumps item items fuel rest wellFormed (by omega)]
      rfl
  | object [], fuel + 1, rest, _, _, _ => rfl
  | object ((key, value) :: entries), fuel + 1, rest, wellFormed, enough, _ => by
      have shown : (object ((key, value) :: entries)).dumps ++ rest =
          '\x7b' :: (join ", ".toList (dumpsEntries ((key, value) :: entries)) ++
            '\x7d' :: rest) := by
        simp [dumps]
      have length : (object ((key, value) :: entries)).dumps.length =
          (join ", ".toList (dumpsEntries ((key, value) :: entries))).length + 2 := by
        simp [dumps]
      have read := readEntries_dumps key value entries fuel rest wellFormed.2 (by omega)
      obtain ⟨more, quoted⟩ : ∃ more, join ", ".toList (dumpsEntries ((key, value) :: entries)) =
          '"' :: more := by
        obtain ⟨tail, quoted⟩ := join_cons ", ".toList
          (jsonString key.toList ++ (": ".toList ++ value.dumps)) (dumpsEntries entries)
        exact ⟨_, quoted⟩
      rw [quoted, List.cons_append] at read
      have distinct : (((key, value) :: entries).map Prod.fst).Nodup := wellFormed.1
      rw [shown, quoted, List.cons_append, readValue_object, read]
      simp only [Option.map_some, dictOf_eq_self distinct]

/-- The items are read up to the closing bracket. -/
theorem readItems_dumps : ∀ (item : Json) (items : List Json) (fuel : Nat) (rest : Text),
    WellFormedItems (item :: items) →
    (join ", ".toList (dumpsItems (item :: items))).length < fuel →
    readItems fuel (join ", ".toList (dumpsItems (item :: items)) ++ ']' :: rest) =
      some (item :: items, rest)
  | _, _, 0, _, _, enough => by cases enough
  | item, [], fuel + 1, rest, wellFormed, enough => by
      rw [dumpsItems, dumpsItems, join_singleton] at enough ⊢
      exact readItems_last <|
        readValue_dumps item fuel _ wellFormed.1 (by omega) (stops_cons (by simp) rest)
  | item, next :: items, fuel + 1, rest, wellFormed, enough => by
      rw [dumpsItems, dumpsItems, length_join_cons_cons, ← dumpsItems] at enough
      have read := readValue_dumps item fuel
        (',' :: ' ' :: (join ", ".toList (dumpsItems (next :: items)) ++ ']' :: rest)) wellFormed.1
        (by omega) (stops_cons (by simp) _)
      rw [dumpsItems, dumpsItems, join_cons_cons, ← dumpsItems,
        readItems_more read ((begins_items wellFormed.2).append _),
        readItems_dumps next items fuel rest wellFormed.2 (by omega)]
      rfl

/-- The pairs are read up to the closing brace. -/
theorem readEntries_dumps : ∀ (key : String) (value : Json) (entries : List (String × Json))
    (fuel : Nat) (rest : Text), WellFormedEntries ((key, value) :: entries) →
    (join ", ".toList (dumpsEntries ((key, value) :: entries))).length < fuel →
    readEntries fuel (join ", ".toList (dumpsEntries ((key, value) :: entries)) ++
      '\x7d' :: rest) =
      some ((key, value) :: entries, rest)
  | _, _, _, 0, _, _, enough => by cases enough
  | key, value, [], fuel + 1, rest, wellFormed, enough => by
      rw [dumpsEntries, dumpsEntries, join_singleton] at enough ⊢
      rw [List.length_append, List.length_append] at enough
      rw [List.append_assoc, List.append_assoc]
      exact readEntries_last ((begins_dumps wellFormed.1).append _) <|
        readValue_dumps value fuel _ wellFormed.1 (by omega) (stops_cons (by simp) rest)
  | key, value, (nextKey, next) :: entries, fuel + 1, rest, wellFormed, enough => by
      rw [dumpsEntries, dumpsEntries, length_join_cons_cons, ← dumpsEntries,
        List.length_append, List.length_append] at enough
      have read := readValue_dumps value fuel
        (',' :: ' ' :: (join ", ".toList (dumpsEntries ((nextKey, next) :: entries)) ++
          '\x7d' :: rest)) wellFormed.1 (by omega) (stops_cons (by simp) _)
      rw [dumpsEntries, dumpsEntries, join_cons_cons, ← dumpsEntries, List.append_assoc,
        List.append_assoc]
      refine (readEntries_more ((begins_dumps wellFormed.1).append _) read
        ((begins_entries nextKey next entries).append _)).trans ?_
      rw [readEntries_dumps nextKey next entries fuel rest wellFormed.2 (by omega)]
      rfl

end

/-- `json.loads` reads back what `json.dumps` writes. -/
theorem loads_dumps {value : Json} (wellFormed : value.WellFormed) :
    loads value.dumps = some value := by
  have read := readValue_dumps value value.dumps.length [] wellFormed (Nat.le_refl _) stops_nil
  rw [List.append_nil] at read
  rw [loads, (begins_dumps wellFormed).skipSpace, read]
  rfl

end Json

end ResearchTool
