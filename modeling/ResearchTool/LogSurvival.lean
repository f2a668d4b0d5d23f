import ResearchTool.Log
import ResearchTool.Loguru.Expansion

/-!
# Which log records survive the expansion

The formatter inverts one layer of the expansion, the braces, and not the other,
the markup.  A record is written as it was rendered exactly if its line has no
tag, which is read off the texts of the record: no tag arises at a seam, other
than one whose name goes on behind a blank.
-/

namespace ResearchTool

open Python Loguru

/-! ## Tags and blanks -/

/-- What stands before the blank of a tag that has one. -/
def groundOpenings : List Text :=
  ["<fg", "<bg", "</fg", "</bg"].map String.toList

/-- The text ends in the middle of a tag, before its blank. -/
def OpensTag (text : Text) : Prop :=
  ∃ opening ∈ groundOpenings, opening <:+ text

/-- The text begins with the rest of a tag behind its blank. -/
def ClosesTag (text : Text) : Prop :=
  ∃ name rest, text = name ++ '>' :: rest ∧ ∀ c ∈ name, isNameChar c = true

theorem blank_not_mem_name {name : Text} (named : ∀ c ∈ name, isNameChar c = true) :
    ' ' ∉ name := by
  intro member
  have blank := named ' ' member
  cases blank

/-- The only blank of a tag stands behind its ground. -/
theorem blank_of_isTag {tag before after : Text} (isTag : IsTag tag)
    (split : tag = before ++ ' ' :: after) :
    before ∈ groundOpenings ∧ ∃ name, after = name ++ ['>'] ∧ ∀ c ∈ name, isNameChar c = true := by
  obtain ⟨slash, ground, name, rfl, closing, grounded, named⟩ := isTag
  have solid : ' ' ∉ name ++ ['>'] := by
    simp only [List.mem_append, List.mem_singleton, not_or]
    exact ⟨blank_not_mem_name named, by decide⟩
  have blank : ' ' ∈ '<' :: (slash ++ (ground ++ (name ++ ['>']))) := by
    rw [split]
    simp
  rcases grounded with rfl | ⟨letter, space, ground, isBlank, rfl⟩
  · -- without a ground there is no blank
    rcases closing with rfl | rfl
    · simp [solid] at blank
    · simp [solid] at blank
  · have opening : '<' :: (slash ++ [letter, 'g']) ∈ groundOpenings := by
      rcases closing with rfl | rfl <;> rcases ground with rfl | rfl <;> decide
    have dense : ' ' ∉ '<' :: (slash ++ [letter, 'g']) := by
      rcases closing with rfl | rfl <;> rcases ground with rfl | rfl <;> decide
    have whole : ('<' :: (slash ++ [letter, 'g'])) ++ space :: (name ++ ['>']) =
        before ++ ' ' :: after := by
      rw [← split]
      simp
    obtain ⟨rfl, _, rfl⟩ := (List.append_cons_inj_of_notMem dense solid).mp whole
    exact ⟨opening, name, rfl, named⟩

theorem first_of_isTag {tag : Text} (isTag : IsTag tag) : tag.head? = some '<' := by
  obtain ⟨slash, ground, name, rfl, _⟩ := isTag
  rfl

theorem last_of_isTag {tag : Text} (isTag : IsTag tag) : tag.getLast? = some '>' := by
  obtain ⟨slash, ground, name, rfl, _⟩ := isTag
  have regroup : '<' :: (slash ++ (ground ++ (name ++ ['>']))) =
      ('<' :: (slash ++ (ground ++ name))) ++ ['>'] := by simp
  rw [regroup, List.getLast?_concat]

theorem not_isTag_nil : ¬ IsTag [] := by
  intro isTag
  have first := first_of_isTag isTag
  cases first

/-- A text without an opening bracket has no tag. -/
theorem not_contains_isTag {text : Text} (plain : '<' ∉ text) : ¬ Contains IsTag text := by
  rintro ⟨tag, isTag, occurs⟩
  exact plain (occurs.subset (List.mem_of_mem_head? (first_of_isTag isTag)))

/-- What has no opening bracket may be cut off at the front. -/
theorem contains_isTag_after {front : Text} (plain : '<' ∉ front) (text : Text) :
    Contains IsTag (front ++ text) ↔ Contains IsTag text := by
  apply contains_append_of_first not_isTag_nil
  intro tag isTag c first inside
  rw [first_of_isTag isTag] at first
  cases first
  exact plain inside

/-- What has no closing bracket may be cut off at the end. -/
theorem contains_isTag_before {back : Text} (plain : '>' ∉ back) (text : Text) :
    Contains IsTag (text ++ back) ↔ Contains IsTag text := by
  apply contains_append_of_last not_isTag_nil
  intro tag isTag c last inside
  rw [last_of_isTag isTag] at last
  cases last
  exact plain inside

/-- The openings are what their name says. -/
theorem isTag_of_opening {opening name : Text} (listed : opening ∈ groundOpenings)
    (named : ∀ c ∈ name, isNameChar c = true) : IsTag (opening ++ ' ' :: (name ++ ['>'])) := by
  simp only [groundOpenings, List.map_cons, List.map_nil, List.mem_cons, List.not_mem_nil,
    or_false] at listed
  rcases listed with rfl | rfl | rfl | rfl
  · exact ⟨[], ['f', 'g', ' '], name, rfl, .inl rfl, .inr ⟨'f', ' ', .inl rfl, rfl, rfl⟩, named⟩
  · exact ⟨[], ['b', 'g', ' '], name, rfl, .inl rfl, .inr ⟨'b', ' ', .inr rfl, rfl, rfl⟩, named⟩
  · exact ⟨['/'], ['f', 'g', ' '], name, rfl, .inr rfl, .inr ⟨'f', ' ', .inl rfl, rfl, rfl⟩, named⟩
  · exact ⟨['/'], ['b', 'g', ' '], name, rfl, .inr rfl, .inr ⟨'b', ' ', .inr rfl, rfl, rfl⟩, named⟩

/-- A tag lies across a blank only if its name goes on behind it. -/
theorem contains_blank_iff {left right : Text} :
    Contains IsTag (left ++ ' ' :: right) ↔
      Contains IsTag left ∨ Contains IsTag right ∨ OpensTag left ∧ ClosesTag right := by
  constructor
  · rintro ⟨tag, isTag, occurs⟩
    rcases List.infix_append_iff_ne_nil.mp occurs with
      first | second | ⟨front, back, _, backNonempty, rfl, ends, begins⟩
    · exact .inl ⟨tag, isTag, first⟩
    · rcases List.infix_cons_iff.mp second with start | later
      · have first := first_of_isTag isTag
        cases tag with
        | nil => cases first
        | cons c tag =>
            cases first
            have blank := (List.cons_prefix_cons.mp start).1
            cases blank
      · exact .inr (.inl ⟨tag, isTag, later⟩)
    · obtain ⟨c, more, rfl⟩ := List.exists_cons_of_ne_nil backNonempty
      obtain ⟨rfl, rest, rfl⟩ := List.cons_prefix_cons.mp begins
      obtain ⟨opening, name, rfl, named⟩ := blank_of_isTag isTag rfl
      exact .inr (.inr ⟨⟨front, opening, ends⟩, name, rest, by simp, named⟩)
  · rintro (first | second | ⟨⟨opening, listed, before, rfl⟩, name, rest, rfl, named⟩)
    · exact first.append_left _
    · exact (second.append_right [' ']).append_right left
    · refine ⟨_, isTag_of_opening listed named, before, rest, ?_⟩
      simp

/-! ## Texts between blanks -/

/-- No text has a tag, and no two neighbours make one. -/
def TagFree (fields : List Text) : Prop :=
  (∀ field ∈ fields, ¬ Contains IsTag field) ∧
    fields.IsChain fun left right => ¬ (OpensTag left ∧ ClosesTag right)

theorem closesTag_blank_iff {left right : Text} :
    ClosesTag (left ++ ' ' :: right) ↔ ClosesTag left := by
  constructor
  · rintro ⟨name, rest, same, named⟩
    rcases List.append_eq_append_iff.mp same with ⟨more, nameEq, tailEq⟩ | ⟨more, leftEq, tailEq⟩
    · -- the blank would belong to the name or be the closing bracket
      cases more with
      | nil => cases tailEq
      | cons c more =>
          obtain ⟨rfl, _⟩ := List.cons.inj tailEq
          rw [nameEq] at named
          exact absurd (by simp) (blank_not_mem_name named)
    · cases more with
      | nil => cases tailEq
      | cons c more =>
          obtain ⟨rfl, _⟩ := List.cons.inj tailEq
          exact ⟨name, more, leftEq, named⟩
  · rintro ⟨name, rest, rfl, named⟩
    exact ⟨name, rest ++ ' ' :: right, by simp, named⟩

/-- Texts joined by blanks have no tag exactly if they are free of tags. -/
theorem not_contains_join_iff (fields : List Text) :
    ¬ Contains IsTag (join [' '] fields) ↔ TagFree fields := by
  induction fields with
  | nil => simpa [TagFree, join] using not_contains_isTag (by simp)
  | cons field rest ih =>
      cases rest with
      | nil => simp [TagFree, join]
      | cons next rest =>
          have closes : ClosesTag (join [' '] (next :: rest)) ↔ ClosesTag next := by
            cases rest with
            | nil => simp [join]
            | cons later rest =>
                rw [join, List.intercalate_cons_cons, List.append_assoc]
                exact closesTag_blank_iff
          have split : join [' '] (field :: next :: rest) =
              field ++ ' ' :: join [' '] (next :: rest) := by
            rw [join, List.intercalate_cons_cons, List.append_assoc]
            rfl
          rw [split, contains_blank_iff, closes, TagFree, List.forall_mem_cons,
            List.isChain_cons_cons]
          rw [TagFree] at ih
          constructor
          · intro absent
            simp only [not_or] at absent
            obtain ⟨whole, chain⟩ := ih.mp absent.2.1
            exact ⟨⟨absent.1, whole⟩, absent.2.2, chain⟩
          · rintro ⟨⟨first, whole⟩, apart, chain⟩
            rintro (inFirst | later | across)
            · exact first inFirst
            · exact ih.mpr ⟨whole, chain⟩ later
            · exact apart across

/-- JSON syntax takes no part in a tag. -/
theorem isTag_foreign : Json.Foreign IsTag where
  nonempty := not_isTag_nil
  first := by
    intro tag isTag c first
    rw [first_of_isTag isTag] at first
    cases first
    rfl
  last := by
    intro tag isTag c last
    rw [last_of_isTag isTag] at last
    cases last
    rfl
  unseparated := by
    rintro tag isTag c separator ⟨before, after, same⟩
    have split : tag = (before ++ [c]) ++ ' ' :: after := by
      rw [← same]
      simp
    have ground : ∀ opening ∈ groundOpenings, opening.getLast? = some 'g' := by decide
    have last := ground _ (blank_of_isTag isTag split).1
    rw [List.getLast?_concat] at last
    cases last
    simp at separator

/-! ## Lines -/

/-- The two replacements double the braces. -/
theorem escapeLoguruBraces_eq (value : Text) : escapeLoguruBraces value = doubleBraces value := by
  induction value with
  | nil => rfl
  | cons c rest ih =>
      have split : escapeLoguruBraces (c :: rest) =
          replaceChar '}' ['}', '}'] (if c = '{' then ['{', '{'] else [c]) ++
            escapeLoguruBraces rest :=
        List.flatMap_append
      rw [split, ih, doubleBraces_cons]
      congr 1
      by_cases opening : c = '{'
      · subst opening
        rfl
      · by_cases closing : c = '}'
        · subst closing
          rfl
        · rw [if_neg opening, doubleBrace_of_ne opening closing]
          simp [replaceChar, closing]

/-- The texts of a line that blanks separate, behind the time. -/
def humanFields (rid : Text) (record : LogRecord) (parts : List Text) : List Text :=
  leftJustified 8 record.level :: logLocation record :: ("[req=".toList ++ (rid ++ [']'])) ::
    ['-'] ::
    record.message :: parts

theorem humanLine_eq (rid : Text) (record : LogRecord) (parts : List Text) :
    humanLine rid record parts =
      (logTime " " record.time ++ [' ']) ++
        (join [' '] (humanFields rid record parts) ++ ['\n']) := by
  have request : " [req=".toList = ' ' :: "[req=".toList := by decide
  have dash : "] - ".toList = [']', ' ', '-', ' '] := by decide
  cases parts with
  | nil => simp [humanLine, humanFields, join, request, dash]
  | cons part parts => simp [humanLine, humanFields, join, request, dash]

theorem not_mem_logTime {separator : String} (plain : '<' ∉ separator.toList) (time : DateTime) :
    '<' ∉ logTime separator time := by
  have padded : ∀ width n, '<' ∉ (zeroPadded width n).toList := by
    intro width n member
    have digit := isDigit_of_mem_zeroPadded member
    cases digit
  simp [logTime, String.toList_append, padded, plain]

theorem humanLine_tagFree_iff (rid : Text) (record : LogRecord) (parts : List Text) :
    ¬ Contains IsTag (humanLine rid record parts) ↔ TagFree (humanFields rid record parts) := by
  have time : '<' ∉ logTime " " record.time ++ [' '] := by
    have digits : '<' ∉ logTime " " record.time := not_mem_logTime (by decide) record.time
    simp [digits]
  rw [humanLine_eq, contains_isTag_after time, contains_isTag_before (by decide),
    not_contains_join_iff]

theorem jsonLine_tagFree_iff (document : Json) :
    ¬ Contains IsTag (document.dumps ++ ['\n']) ↔
      ∀ text ∈ document.texts, ¬ Contains IsTag text := by
  rw [contains_isTag_before (by decide), Json.contains_dumps_iff isTag_foreign]
  simp only [not_exists, not_and]

/-! ## Survival -/

/-- The record is written, and as it was rendered. -/
def LogSurvives (palette : Palette) (renderField : FormatField → Except PyError Text)
    (jsonMode : Bool) (containerStr : LogValue → Except PyError Text) (rid : Text)
    (record : LogRecord) : Prop :=
  ∃ line format, rendered jsonMode containerStr rid record = .ok line ∧
    logFormat jsonMode containerStr rid record = .ok format ∧
      expand palette renderField format = .ok line

/-- Every value can be shown, and neither the texts of the record nor two of them
around a blank make a tag; in a JSON document, no text makes one as it is escaped. -/
def IsMarkupFree (jsonMode : Bool) (containerStr : LogValue → Except PyError Text) (rid : Text)
    (record : LogRecord) : Prop :=
  if jsonMode then
    ∃ document, (LogValue.dict (jsonPayload rid record)).toJson = .ok document ∧
      ∀ text ∈ document.texts, ¬ Contains IsTag text
  else
    ∃ parts, extraParts containerStr (normalizeExtras record) = .ok parts ∧
      TagFree (humanFields rid record parts)

/-- A record survives if and only if it can be rendered to a line without tags. -/
theorem logSurvives_iff_rendered {palette : Palette}
    {renderField : FormatField → Except PyError Text} {jsonMode : Bool}
    {containerStr : LogValue → Except PyError Text} {rid : Text} {record : LogRecord} :
    LogSurvives palette renderField jsonMode containerStr rid record ↔
      ∃ line, rendered jsonMode containerStr rid record = .ok line ∧ ¬ Contains IsTag line := by
  unfold LogSurvives logFormat
  constructor
  · rintro ⟨line, format, shown, formatted, expanded⟩
    rw [shown] at formatted
    cases formatted
    rw [escapeLoguruBraces_eq, expand_eq_self_iff] at expanded
    exact ⟨line, shown, expanded⟩
  · rintro ⟨line, shown, absent⟩
    refine ⟨line, escapeLoguruBraces line, shown, by rw [shown]; rfl, ?_⟩
    rw [escapeLoguruBraces_eq, expand_eq_self_iff]
    exact absent

theorem exists_map_eq_ok_iff {α : Type} {value : Except PyError α} {next : α → Text}
    {holds : Text → Prop} :
    (∃ line, value.map next = .ok line ∧ holds line) ↔
      ∃ source, value = .ok source ∧ holds (next source) := by
  cases value <;> simp [Except.map]

theorem isMarkupFree_iff_rendered {jsonMode : Bool}
    {containerStr : LogValue → Except PyError Text} {rid : Text} {record : LogRecord} :
    IsMarkupFree jsonMode containerStr rid record ↔
      ∃ line, rendered jsonMode containerStr rid record = .ok line ∧ ¬ Contains IsTag line := by
  cases jsonMode with
  | false =>
      simp only [IsMarkupFree, rendered, humanRendered, Bool.false_eq_true, if_false,
        exists_map_eq_ok_iff, humanLine_tagFree_iff]
  | true =>
      simp only [IsMarkupFree, rendered, jsonRendered, if_true, exists_map_eq_ok_iff,
        jsonLine_tagFree_iff]

/-- The tags of the colour formats in the settings; a file sink shows no code. -/
def fileCode (tag : Text) : Option Text :=
  if tag = "green".toList ∨ tag = "lvl".toList ∨ tag = "cyan".toList then some [] else none

theorem isCode_nil : IsCode [] := by
  simp [IsCode]

theorem isCode_of_fileCode (tag shown : Text) (known : fileCode tag = some shown) :
    IsCode shown := by
  unfold fileCode at known
  split_ifs at known
  cases known
  exact isCode_nil

def fileSink : Palette where
  code := fileCode
  reset := []
  isCode := isCode_of_fileCode
  isCode_reset := isCode_nil

/-- The failure of a run on a reply that is an HTML page. -/
def htmlFailure : LogRecord :=
  pipelineFailed { year := 2026, month := 1, day := 15, hour := 12, minute := 0, second := 0 }
    "job-1".toList "job-1".toList "502 <html>".toList

/-- No field is left to be rendered, and no container to be shown. -/
def noField (_ : FormatField) : Except PyError Text :=
  .ok []

def noContainer (_ : LogValue) : Except PyError Text :=
  .ok []

theorem tagFree_cons {field : Text} {rest : List Text} (plain : '<' ∉ field) :
    TagFree (field :: rest) ↔ TagFree rest := by
  have closed : ¬ OpensTag field := by
    rintro ⟨opening, listed, ends⟩
    have bracket : ∀ opening ∈ groundOpenings, '<' ∈ opening := by decide
    exact plain (ends.subset (bracket opening listed))
  simp [TagFree, List.isChain_cons, not_contains_isTag plain, closed]

theorem tagFree_singleton (field : Text) : TagFree [field] ↔ ¬ Contains IsTag field := by
  simp [TagFree]

theorem not_mem_jsonEscape {text : Text} (plain : '<' ∉ text) : '<' ∉ jsonEscape text := by
  have digits : ∀ digit < 16, Nat.digitChar digit ≠ '<' := by decide
  have escaped : ∀ unit, '<' ∉ unicodeEscape unit := by
    intro unit member
    simp only [unicodeEscape, List.mem_append, List.mem_map] at member
    rcases member with mark | ⟨place, _, digit⟩
    · revert mark
      decide
    · exact digits _ (Nat.mod_lt _ (by decide)) digit
  intro member
  obtain ⟨c, inside, shown⟩ := List.mem_flatMap.mp member
  have fixed :
      ∀ mark ∈ ["\\\"", "\\\\", "\\n", "\\r", "\\t", "\\b", "\\f"], '<' ∉ mark.toList := by
    decide
  unfold jsonEscapeChar at shown
  split_ifs at shown
  any_goals exact fixed _ (by simp) shown
  · exact plain (List.mem_singleton.mp shown ▸ inside)
  · exact escaped _ shown
  · rcases List.mem_append.mp shown with high | low
    · exact escaped _ high
    · exact escaped _ low

/-- A document of texts shows its keys and values. -/
theorem texts_of_textEntries (entries : List (Text × Text)) :
    ∃ document, (LogValue.dict (entries.map fun entry => (.text entry.1, .text entry.2))).toJson =
        .ok document ∧
      document.texts = entries.flatMap fun entry => [jsonEscape entry.1, jsonEscape entry.2] := by
  suffices shown : ∃ fields,
      LogValue.entriesToJson (entries.map fun entry => (.text entry.1, .text entry.2)) =
        .ok fields ∧
        Json.textsOfEntries fields =
          entries.flatMap fun entry => [jsonEscape entry.1, jsonEscape entry.2] by
    obtain ⟨fields, made, texts⟩ := shown
    exact ⟨.object fields, by rw [LogValue.toJson, made]; rfl, texts⟩
  induction entries with
  | nil => exact ⟨[], rfl, rfl⟩
  | cons entry rest ih =>
      obtain ⟨fields, made, texts⟩ := ih
      refine ⟨(String.ofList entry.1, .string (String.ofList entry.2)) :: fields, ?_, ?_⟩
      · rw [List.map_cons, LogValue.entriesToJson, made]
        rfl
      · rw [Json.textsOfEntries, texts, List.flatMap_cons]
        simp [Json.texts]

section

variable {level name message stage : String} {line : Nat} {time : DateTime}
variable {rid jobId failureReason : Text}

theorem humanFields_failureRecord (parts : List Text) :
    humanFields rid (failureRecord level name line message stage time rid jobId failureReason)
        parts =
      leftJustified 8 level.toList :: (name.toList ++ (":".toList ++ (toString line).toList)) ::
        ("[req=".toList ++ (rid ++ [']'])) :: ['-'] :: message.toList :: parts := by
  rfl

/-- The texts of the document in front of the reason. -/
def failureEntries (level name : String) (line : Nat) (message stage : String) (time : DateTime)
    (rid jobId : Text) : List (Text × Text) :=
  [ ("t".toList, logTime "T" time), ("lvl".toList, level.toList),
    ("loc".toList, name.toList ++ (":".toList ++ (toString line).toList)), ("req".toList, rid),
    ("msg".toList, message.toList), ("request_id".toList, rid), ("job_id".toList, jobId),
    ("stage".toList, stage.toList) ]

theorem jsonPayload_failureRecord :
    jsonPayload rid (failureRecord level name line message stage time rid jobId failureReason) =
      (failureEntries level name line message stage time rid jobId ++
        [("failure_reason".toList, failureReason)]).map
          fun entry => (.text entry.1, .text entry.2) := by
  simp only [failureEntries, List.cons_append, List.nil_append, List.map_cons, List.map_nil]
  rfl

/-- Between texts without brackets, only the reason of a failure can have a tag. -/
theorem failureRecord_markupFree_iff (jsonMode : Bool)
    (containerStr : LogValue → Except PyError Text)
    (plain : ∀ text ∈ [level.toList, name.toList, message.toList, stage.toList, rid, jobId],
      '<' ∉ text) :
    IsMarkupFree jsonMode containerStr rid
        (failureRecord level name line message stage time rid jobId failureReason) ↔
      ¬ Contains IsTag (if jsonMode then jsonEscape failureReason else failureReason) := by
  simp only [List.forall_mem_cons] at plain
  obtain ⟨levelPlain, namePlain, messagePlain, stagePlain, ridPlain, jobPlain, -⟩ := plain
  have digits : '<' ∉ (toString line).toList := by
    intro member
    have digit := isDigit_of_mem_toString member
    cases digit
  have located : '<' ∉ name.toList ++ (":".toList ++ (toString line).toList) := by
    simp only [List.mem_append, not_or]
    exact ⟨namePlain, by decide, digits⟩
  cases jsonMode with
  | false =>
      have parts : extraParts containerStr (normalizeExtras
          (failureRecord level name line message stage time rid jobId failureReason)) =
          .ok ["request_id".toList ++ ("=".toList ++ rid), "job_id".toList ++
            ("=".toList ++ jobId), "stage".toList ++ ("=".toList ++ stage.toList),
            "failure_reason".toList ++ ("=".toList ++ failureReason)] := by
        rfl
      have level : '<' ∉ leftJustified 8 level.toList := by simp [leftJustified, levelPlain]
      have request : '<' ∉ "[req=".toList ++ (rid ++ [']']) := by simp [ridPlain]
      have context : '<' ∉ "request_id".toList ++ ("=".toList ++ rid) := by simp [ridPlain]
      have job : '<' ∉ "job_id".toList ++ ("=".toList ++ jobId) := by simp [jobPlain]
      have stage : '<' ∉ "stage".toList ++ ("=".toList ++ stage.toList) := by simp [stagePlain]
      simp only [IsMarkupFree, parts, Bool.false_eq_true, if_false, Except.ok.injEq,
        exists_eq_left', humanFields_failureRecord]
      rw [tagFree_cons level, tagFree_cons located, tagFree_cons request, tagFree_cons (by decide),
        tagFree_cons messagePlain, tagFree_cons context, tagFree_cons job, tagFree_cons stage,
        tagFree_singleton, contains_isTag_after (by decide), contains_isTag_after (by decide)]
  | true =>
      have clock : '<' ∉ logTime "T" time := not_mem_logTime (by decide) time
      have quiet : ∀ text : Text, '<' ∉ text → ¬ Contains IsTag (jsonEscape text) :=
        fun text absent => not_contains_isTag (not_mem_jsonEscape absent)
      have before : ∀ entry ∈ failureEntries level name line message stage time rid jobId,
          '<' ∉ entry.1 ∧ '<' ∉ entry.2 := by
        have number : '<' ∉ Nat.toDigits 10 line := by simpa using digits
        simp only [failureEntries, List.forall_mem_cons]
        simp [clock, levelPlain, namePlain, number, ridPlain, messagePlain, jobPlain, stagePlain]
      obtain ⟨document, made, texts⟩ := texts_of_textEntries
        (failureEntries level name line message stage time rid jobId ++
          [("failure_reason".toList, failureReason)])
      have label := quiet "failure_reason".toList (by decide)
      simp only [IsMarkupFree, if_true, jsonPayload_failureRecord, made, Except.ok.injEq,
        exists_eq_left', texts, List.flatMap_append, List.forall_mem_append,
        List.flatMap_singleton, List.forall_mem_cons, label, not_false_eq_true, true_and]
      constructor
      · exact fun free => free.2.1
      · intro absent
        refine ⟨?_, absent, by simp⟩
        intro text member
        obtain ⟨entry, listed, shown⟩ := List.mem_flatMap.mp member
        obtain ⟨key, value⟩ := before entry listed
        simp only [List.mem_cons, List.not_mem_nil, or_false] at shown
        rcases shown with rfl | rfl
        · exact quiet _ key
        · exact quiet _ value

end

/-- The failures that the worker and the pipeline log survive if and only if the
reason has no tag. -/
theorem failure_survives_iff {palette : Palette} {renderField : FormatField → Except PyError Text}
    {jsonMode : Bool} {containerStr : LogValue → Except PyError Text} {time : DateTime}
    {rid jobId failureReason : Text} (ridPlain : '<' ∉ rid) (jobPlain : '<' ∉ jobId)
    {record : LogRecord} (logged : record = pipelineFailed time rid jobId failureReason ∨
      record = analysisFellBack time rid jobId failureReason) :
    LogSurvives palette renderField jsonMode containerStr rid record ↔
      ¬ Contains IsTag (if jsonMode then jsonEscape failureReason else failureReason) := by
  rw [logSurvives_iff_rendered, ← isMarkupFree_iff_rendered]
  rcases logged with rfl | rfl
  · apply failureRecord_markupFree_iff
    simp [ridPlain, jobPlain]
  · apply failureRecord_markupFree_iff
    simp [ridPlain, jobPlain]

end ResearchTool
