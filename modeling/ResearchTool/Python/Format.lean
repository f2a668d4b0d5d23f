import ResearchTool.Python.Text

/-!
# `str.format`

The replacement-field grammar of CPython as an automaton over the characters
of the template.  How a field is rendered is a parameter: the automaton hands
every field over as soon as its closing brace is read, so that the first
failing field decides the exception.
-/

namespace ResearchTool.Python

/-- An exception of the interpreter or its library. -/
structure PyError where
  className : String
  message : String
  deriving DecidableEq, Repr

/-- A replacement field: `{name!conversion:spec}`. -/
structure FormatField where
  name : Text
  conversion : Option Char := none
  spec : Text := []
  deriving DecidableEq, Repr

/-- Where in the template the next character stands.  Texts read so far are
kept in reverse. -/
inductive FormatState where
  | literal
  | opened
  | closed
  | name (read : Text)
  | index (read : Text)
  | conversion (read : Text)
  | converted (read : Text) (conversion : Char)
  | spec (read : Text) (conversion : Option Char) (text : Text) (depth : Nat)

/-- The `ValueError` of a malformed template. -/
def formatError (message : String) : Except PyError Text :=
  .error { className := "ValueError", message }

/-- The rest of the formatted text, from one position of the template on. -/
def formatFrom (render : FormatField → Except PyError Text) :
    FormatState → Text → Except PyError Text
  | .literal, [] => .ok []
  | .literal, c :: rest =>
      if c = '{' then formatFrom render .opened rest
      else if c = '}' then formatFrom render .closed rest
      else (formatFrom render .literal rest).map (c :: ·)
  | .opened, [] => formatError "Single '\x7b' encountered in format string"
  | .opened, c :: rest =>
      if c = '{' then (formatFrom render .literal rest).map ('{' :: ·)
      else if c = '}' then do
        let shown ← render { name := [] }
        (formatFrom render .literal rest).map (shown ++ ·)
      else if c = ':' then formatFrom render (.spec [] none [] 0) rest
      else if c = '!' then formatFrom render (.conversion []) rest
      else if c = '[' then formatFrom render (.index ['[']) rest
      else formatFrom render (.name [c]) rest
  | .closed, [] => formatError "Single '\x7d' encountered in format string"
  | .closed, c :: rest =>
      if c = '}' then (formatFrom render .literal rest).map ('}' :: ·)
      else formatError "Single '\x7d' encountered in format string"
  | .name _, [] => formatError "expected '\x7d' before end of string"
  | .name read, c :: rest =>
      if c = '{' then formatError "unexpected '\x7b' in field name"
      else if c = '}' then do
        let shown ← render { name := read.reverse }
        (formatFrom render .literal rest).map (shown ++ ·)
      else if c = ':' then formatFrom render (.spec read none [] 0) rest
      else if c = '!' then formatFrom render (.conversion read) rest
      else if c = '[' then formatFrom render (.index (c :: read)) rest
      else formatFrom render (.name (c :: read)) rest
  | .index _, [] => formatError "expected '\x7d' before end of string"
  | .index read, c :: rest =>
      -- no character is special between the brackets of a field name
      if c = ']' then formatFrom render (.name (c :: read)) rest
      else formatFrom render (.index (c :: read)) rest
  | .conversion _, [] =>
      formatError "end of string while looking for conversion specifier"
  | .conversion read, c :: rest => formatFrom render (.converted read c) rest
  | .converted _ _, [] => formatError "unmatched '\x7b' in format spec"
  | .converted read conversion, c :: rest =>
      if c = '}' then do
        let shown ← render { name := read.reverse, conversion := some conversion }
        (formatFrom render .literal rest).map (shown ++ ·)
      else if c = ':' then formatFrom render (.spec read (some conversion) [] 0) rest
      else formatError "expected ':' after conversion specifier"
  | .spec _ _ _ _, [] => formatError "unmatched '\x7b' in format spec"
  | .spec read conversion text depth, c :: rest =>
      if c = '}' then
        match depth with
        | 0 => do
            let shown ← render { name := read.reverse, conversion, spec := text.reverse }
            (formatFrom render .literal rest).map (shown ++ ·)
        | depth + 1 => formatFrom render (.spec read conversion (c :: text) depth) rest
      else if c = '{' then
        formatFrom render (.spec read conversion (c :: text) (depth + 1)) rest
      else formatFrom render (.spec read conversion (c :: text) depth) rest

/-- `template.format(**arguments)`.  A bare field is replaced by the argument
it names; any other field (conversions, format specifications, attribute and
index lookups, names that are no argument) is rendered by `renderField`. -/
def strFormat (renderField : List (Text × Text) → FormatField → Except PyError Text)
    (arguments : List (Text × Text)) (template : Text) : Except PyError Text :=
  formatFrom
    (fun field =>
      match field, arguments.lookup field.name with
      | { conversion := none, spec := [], .. }, some value => .ok value
      | _, _ => renderField arguments field)
    .literal template

/-! ## Formatting a concatenation -/

variable {render : FormatField → Except PyError Text}

/-- What one character of the template adds to the text, and where the next
one stands. -/
def formatStep (render : FormatField → Except PyError Text) :
    FormatState → Char → Except PyError (Text × FormatState)
  | .literal, c =>
      if c = '{' then .ok ([], .opened)
      else if c = '}' then .ok ([], .closed)
      else .ok ([c], .literal)
  | .opened, c =>
      if c = '{' then .ok (['{'], .literal)
      else if c = '}' then (render { name := [] }).map (·, .literal)
      else if c = ':' then .ok ([], .spec [] none [] 0)
      else if c = '!' then .ok ([], .conversion [])
      else if c = '[' then .ok ([], .index ['['])
      else .ok ([], .name [c])
  | .closed, c =>
      if c = '}' then .ok (['}'], .literal)
      else
        .error {
          className := "ValueError"
          message := "Single '\x7d' encountered in format string"
        }
  | .name read, c =>
      if c = '{' then
        .error { className := "ValueError", message := "unexpected '\x7b' in field name" }
      else if c = '}' then (render { name := read.reverse }).map (·, .literal)
      else if c = ':' then .ok ([], .spec read none [] 0)
      else if c = '!' then .ok ([], .conversion read)
      else if c = '[' then .ok ([], .index (c :: read))
      else .ok ([], .name (c :: read))
  | .index read, c =>
      if c = ']' then .ok ([], .name (c :: read)) else .ok ([], .index (c :: read))
  | .conversion read, c => .ok ([], .converted read c)
  | .converted read conversion, c =>
      if c = '}' then
        (render { name := read.reverse, conversion := some conversion }).map (·, .literal)
      else if c = ':' then .ok ([], .spec read (some conversion) [] 0)
      else
        .error { className := "ValueError", message := "expected ':' after conversion specifier" }
  | .spec read conversion text depth, c =>
      if c = '}' then
        match depth with
        | 0 =>
            (render { name := read.reverse, conversion, spec := text.reverse }).map (·, .literal)
        | depth + 1 => .ok ([], .spec read conversion (c :: text) depth)
      else if c = '{' then .ok ([], .spec read conversion (c :: text) (depth + 1))
      else .ok ([], .spec read conversion (c :: text) depth)

variable (render) in
/-- A field is rendered before the rest of the template is read. -/
theorem bind_render (field : FormatField) (rest : Text) :
    ((render field).bind fun shown => (formatFrom render .literal rest).map (shown ++ ·)) =
      ((render field).map (·, FormatState.literal)).bind fun next =>
        (formatFrom render next.2 rest).map (next.1 ++ ·) := by
  cases render field <;> rfl

theorem map_nil_append (text : Except PyError Text) : text.map (([] : Text) ++ ·) = text := by
  cases text <;> rfl

/-- The automaton reads its template character by character. -/
theorem formatFrom_cons (state : FormatState) (c : Char) (rest : Text) :
    formatFrom render state (c :: rest) =
      (formatStep render state c).bind fun next =>
        (formatFrom render next.2 rest).map (next.1 ++ ·) := by
  have silent : ∀ next : FormatState, formatFrom render next rest =
      (Except.ok ([], next) : Except PyError (Text × FormatState)).bind fun next =>
        (formatFrom render next.2 rest).map (next.1 ++ ·) :=
    fun next => (map_nil_append _).symm
  have shown : ∀ field : FormatField, _ := fun field => bind_render render field rest
  cases state with
  | literal => simp only [formatFrom, formatStep]; split_ifs <;> first | exact silent _ | rfl
  | opened =>
      simp only [formatFrom, formatStep]
      split_ifs <;> first | exact silent _ | exact shown _ | rfl
  | closed => simp only [formatFrom, formatStep]; split_ifs <;> first | exact silent _ | rfl
  | name read =>
      simp only [formatFrom, formatStep]
      split_ifs <;> first | exact silent _ | exact shown _ | rfl
  | index read => simp only [formatFrom, formatStep]; split_ifs <;> exact silent _
  | conversion read => exact silent _
  | converted read conversion =>
      simp only [formatFrom, formatStep]
      split_ifs <;> first | exact silent _ | exact shown _ | rfl
  | spec read conversion text depth =>
      simp only [formatFrom, formatStep]
      split_ifs
      · cases depth with
        | zero => exact shown _
        | succ depth => exact silent _
      · exact silent _
      · exact silent _

/-- A template that is complete on its own can be continued. -/
theorem formatFrom_append {state : FormatState} {template shown : Text}
    (complete : formatFrom render state template = .ok shown) (more : Text) :
    formatFrom render state (template ++ more) =
      (formatFrom render .literal more).map (shown ++ ·) := by
  induction template generalizing state shown with
  | nil =>
      cases state <;> simp [formatFrom, formatError] at complete
      subst complete
      exact (map_nil_append _).symm
  | cons c rest ih =>
      rw [formatFrom_cons] at complete
      rw [List.cons_append, formatFrom_cons]
      cases stepped : formatStep render state c with
      | error error =>
          rw [stepped] at complete
          cases complete
      | ok next =>
          rw [stepped] at complete
          simp only [Except.bind] at complete ⊢
          cases remaining : formatFrom render next.2 rest with
          | error error =>
              rw [remaining] at complete
              cases complete
          | ok later =>
              rw [remaining] at complete
              cases complete
              rw [ih remaining]
              cases formatFrom render .literal more <;> simp [Except.map]

/-- A template is complete, or it ends within a replacement field. -/
theorem formatFrom_append_eq_ok {state : FormatState} {template more shown : Text}
    (formatted : formatFrom render state (template ++ more) = .ok shown) :
    (∃ first second, formatFrom render state template = .ok first ∧
        formatFrom render .literal more = .ok second ∧ shown = first ++ second) ∨
      ∃ inside rest, inside ≠ .literal ∧ formatFrom render inside more = .ok rest := by
  induction template generalizing state shown with
  | nil =>
      by_cases outside : state = .literal
      · subst outside
        exact .inl ⟨[], shown, rfl, formatted, rfl⟩
      · exact .inr ⟨state, shown, outside, formatted⟩
  | cons c rest ih =>
      rw [List.cons_append, formatFrom_cons] at formatted
      rw [formatFrom_cons]
      cases stepped : formatStep render state c with
      | error error =>
          rw [stepped] at formatted
          cases formatted
      | ok next =>
          rw [stepped] at formatted
          simp only [Except.bind] at formatted ⊢
          cases remaining : formatFrom render next.2 (rest ++ more) with
          | error error =>
              rw [remaining] at formatted
              cases formatted
          | ok later =>
              rw [remaining] at formatted
              cases formatted
              rcases ih remaining with ⟨first, second, head, tail, rfl⟩ | inside
              · left
                refine ⟨next.1 ++ first, second, ?_, tail, (List.append_assoc _ _ _).symm⟩
                rw [head]
                rfl
              · exact .inr inside

/-- Text without braces is copied. -/
theorem formatFrom_of_no_braces {template : Text} (plain : '{' ∉ template ∧ '}' ∉ template) :
    formatFrom render .literal template = .ok template := by
  induction template with
  | nil => rfl
  | cons c rest ih =>
      have opening : c ≠ '{' := fun same => plain.1 (same ▸ List.mem_cons_self)
      have closing : c ≠ '}' := fun same => plain.2 (same ▸ List.mem_cons_self)
      have remaining := ih ⟨fun inside => plain.1 (List.mem_cons_of_mem _ inside),
        fun inside => plain.2 (List.mem_cons_of_mem _ inside)⟩
      rw [formatFrom, if_neg opening, if_neg closing, remaining]
      rfl

/-! ## Doubled braces -/

def doubleBrace (c : Char) : Text :=
  if c = '{' || c = '}' then [c, c] else [c]

/-- A text with its braces doubled. -/
def doubleBraces (text : Text) : Text :=
  text.flatMap doubleBrace

@[simp]
theorem doubleBraces_cons (c : Char) (text : Text) :
    doubleBraces (c :: text) = doubleBrace c ++ doubleBraces text :=
  rfl

@[simp]
theorem doubleBraces_append (first second : Text) :
    doubleBraces (first ++ second) = doubleBraces first ++ doubleBraces second :=
  List.flatMap_append

theorem doubleBrace_of_ne {c : Char} (opening : c ≠ '{') (closing : c ≠ '}') :
    doubleBrace c = [c] := by
  simp [doubleBrace, opening, closing]

theorem doubleBraces_of_no_braces {text : Text} (plain : '{' ∉ text ∧ '}' ∉ text) :
    doubleBraces text = text := by
  induction text with
  | nil => rfl
  | cons c rest ih =>
      simp only [List.mem_cons, not_or] at plain
      rw [doubleBraces_cons, doubleBrace_of_ne (Ne.symm plain.1.1) (Ne.symm plain.2.1),
        ih ⟨plain.1.2, plain.2.2⟩]
      rfl

/-- Formatting turns doubled braces back. -/
theorem formatFrom_doubleBraces (text : Text) :
    formatFrom render .literal (doubleBraces text) = .ok text := by
  induction text with
  | nil => rfl
  | cons c rest ih =>
      by_cases opening : c = '{'
      · simp [opening, doubleBrace, formatFrom, ih, Except.map]
      · by_cases closing : c = '}'
        · simp [closing, doubleBrace, formatFrom, ih, Except.map]
        · simp [doubleBrace_of_ne opening closing, formatFrom, opening, closing, ih, Except.map]

/-- A part between copied text and a tail that closes no open field is formatted
as if it stood alone. -/
theorem formatFrom_between_eq_ok_iff {before part tail filled text : Text}
    (opening : formatFrom render .literal before = .ok before)
    (ending : formatFrom render .literal tail = .ok filled)
    (unclosed : ∀ state shown, state ≠ .literal → formatFrom render state tail ≠ .ok shown) :
    formatFrom render .literal (before ++ (part ++ tail)) = .ok text ↔
      ∃ shown, formatFrom render .literal part = .ok shown ∧
        text = before ++ (shown ++ filled) := by
  rw [formatFrom_append opening]
  constructor
  · intro formatted
    cases remaining : formatFrom render .literal (part ++ tail) with
    | error error =>
        rw [remaining] at formatted
        cases formatted
    | ok rest =>
        rw [remaining] at formatted
        cases formatted
        rcases formatFrom_append_eq_ok remaining with ⟨shown, last, head, tailed, rfl⟩ | inside
        · rw [ending] at tailed
          cases tailed
          exact ⟨shown, head, rfl⟩
        · obtain ⟨state, shown, inside, closed⟩ := inside
          exact absurd closed (unclosed state shown inside)
  · rintro ⟨shown, head, rfl⟩
    rw [formatFrom_append head, ending]
    rfl

end ResearchTool.Python
