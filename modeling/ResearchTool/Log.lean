import ResearchTool.Python.JsonText
import ResearchTool.ReportRenderer

/-!
# Log lines

`common/log.py`: the formatter renders a record as a line of text or as a JSON
document and escapes the braces of the line, because Loguru expands what a
formatter returns.
-/

namespace ResearchTool

open Python

/-! ## Records -/

/-- The scalars `json` knows besides text; a float is kept as its `repr`. -/
inductive LogScalar where
  | none
  | bool (value : Bool)
  | int (value : Int)
  | float (repr : Text)

/-- A key of a dictionary. -/
inductive LogKey where
  | text (name : Text)
  | scalar (value : LogScalar)
  | object (typeName : String) (shown : Except PyError Text)

/-- A value among the extras; any other object is what `str` makes of it. -/
inductive LogValue where
  | scalar (value : LogScalar)
  | text (value : Text)
  | list (items : List LogValue)
  | dict (entries : List (LogKey × LogValue))
  | object (shown : Except PyError Text)

/-- What the formatter reads of a record. -/
structure LogRecord where
  time : DateTime
  level : Text
  name : Option Text
  line : Nat
  message : Text
  extra : List (Text × LogValue)

/-! ## Values as text -/

namespace LogScalar

/-- `str(value)`. -/
def str : LogScalar → Text
  | none => "None".toList
  | bool value => (if value then "True" else "False").toList
  | int value => (toString value).toList
  | float repr => repr

/-- The token `json` writes for a float. -/
def floatToken (repr : Text) : String :=
  if repr = "nan".toList then "NaN"
  else if repr = "inf".toList then "Infinity"
  else if repr = "-inf".toList then "-Infinity"
  else String.ofList repr

def toJson : LogScalar → Json
  | none => .null
  | bool value => .bool value
  | int value => .int value
  | float repr => .float (floatToken repr)

/-- The text `json` writes for a key. -/
def jsonKey : LogScalar → String
  | none => "null"
  | bool value => if value then "true" else "false"
  | int value => toString value
  | float repr => floatToken repr

end LogScalar

namespace LogKey

/-- `str(key)`. -/
def str : LogKey → Except PyError Text
  | text name => .ok name
  | scalar value => .ok value.str
  | object _ shown => shown

def toJson : LogKey → Except PyError String
  | text name => .ok (String.ofList name)
  | scalar value => .ok value.jsonKey
  | object typeName _ =>
      .error (typeError ("keys must be str, int, float, bool or None, not " ++ typeName))

/-- Only text keys can meet: all other keys come from one dictionary. -/
def same : LogKey → LogKey → Bool
  | text name, text other => name == other
  | _, _ => false

end LogKey

namespace LogValue

def isNone : LogValue → Bool
  | scalar .none => true
  | _ => false

/-- `f"{value}"`; `containerStr` is `str` of a list or a dictionary, which shows
the `repr` of what is in it. -/
def str (containerStr : LogValue → Except PyError Text) : LogValue → Except PyError Text
  | scalar value => .ok value.str
  | text value => .ok value
  | list items => containerStr (list items)
  | dict entries => containerStr (dict entries)
  | object shown => shown

mutual

/-- The document `json.dumps(value, default=str)` writes. -/
def toJson : LogValue → Except PyError Json
  | scalar value => .ok value.toJson
  | text value => .ok (.string (String.ofList value))
  | list items => (itemsToJson items).map .array
  | dict entries => (entriesToJson entries).map .object
  | object shown => shown.map fun text => .string (String.ofList text)

def itemsToJson : List LogValue → Except PyError (List Json)
  | [] => .ok []
  | item :: rest => do
      let first ← toJson item
      let later ← itemsToJson rest
      pure (first :: later)

def entriesToJson : List (LogKey × LogValue) → Except PyError (List (String × Json))
  | [] => .ok []
  | (key, value) :: rest => do
      let name ← key.toJson
      let shown ← toJson value
      let later ← entriesToJson rest
      pure ((name, shown) :: later)

end

end LogValue

/-! ## The formatter -/

abbrev LogExtras := List (LogKey × LogValue)

/-- `extras[key] = value`. -/
def setExtra (key : LogKey) (value : LogValue) : LogExtras → LogExtras
  | [] => [(key, value)]
  | (other, old) :: rest =>
      if other.same key then (other, value) :: rest else (other, old) :: setExtra key value rest

/-- `_normalize_extras`: the nested extras first, then the record's own. -/
def normalizeExtras (record : LogRecord) : LogExtras :=
  let nested := match record.extra.lookup "extra".toList with
    | some (.dict entries) => entries.filter fun entry => !entry.2.isNone
    | _ => []
  record.extra.foldl (fun normalized entry =>
    if entry.1 = "extra".toList || entry.2.isNone then normalized
    else setExtra (.text entry.1) entry.2 normalized) nested

/-- `text.replace(c, replacement)` for one character. -/
def replaceChar (c : Char) (replacement text : Text) : Text :=
  text.flatMap fun d => if d = c then replacement else [d]

/-- `_escape_loguru_braces`. -/
def escapeLoguruBraces (value : Text) : Text :=
  replaceChar '}' ['}', '}'] (replaceChar '{' ['{', '{'] value)

/-- `time.strftime('%Y-%m-%d'...'%H:%M:%S')`. -/
def logTime (separator : String) (time : DateTime) : Text :=
  (zeroPadded 4 time.year ++ "-" ++ zeroPadded 2 time.month ++ "-" ++ zeroPadded 2 time.day ++
    separator ++ zeroPadded 2 time.hour ++ ":" ++ zeroPadded 2 time.minute ++ ":" ++
      zeroPadded 2 time.second).toList

/-- `f"{text:<width}"`. -/
def leftJustified (width : Nat) (text : Text) : Text :=
  text ++ List.replicate (width - text.length) ' '

/-- `f"{record['name']}:{record['line']}"`. -/
def logLocation (record : LogRecord) : Text :=
  record.name.getD "None".toList ++ (":".toList ++ (toString record.line).toList)

/-- `f"{key}={value}"`. -/
def extraPart (containerStr : LogValue → Except PyError Text) (entry : LogKey × LogValue) :
    Except PyError Text := do
  let key ← entry.1.str
  let value ← entry.2.str containerStr
  pure (key ++ ("=".toList ++ value))

def extraParts (containerStr : LogValue → Except PyError Text) :
    LogExtras → Except PyError (List Text)
  | [] => .ok []
  | entry :: rest => do
      let part ← extraPart containerStr entry
      let later ← extraParts containerStr rest
      pure (part :: later)

/-- The line of `_human_format`. -/
def humanLine (rid : Text) (record : LogRecord) (parts : List Text) : Text :=
  let extraText := if parts = [] then [] else ' ' :: join [' '] parts
  logTime " " record.time ++ (' ' :: (leftJustified 8 record.level ++ (' ' ::
    (logLocation record ++ (" [req=".toList ++ (rid ++ ("] - ".toList ++ (record.message ++
      (extraText ++ ['\n'])))))))))

def humanRendered (containerStr : LogValue → Except PyError Text) (rid : Text)
    (record : LogRecord) : Except PyError Text :=
  (extraParts containerStr (normalizeExtras record)).map (humanLine rid record)

/-- The document of `_json_format`: an extra may replace a field. -/
def jsonPayload (rid : Text) (record : LogRecord) : LogExtras :=
  (normalizeExtras record).foldl (fun payload entry => setExtra entry.1 entry.2 payload)
    [ (.text "t".toList, .text (logTime "T" record.time)),
      (.text "lvl".toList, .text record.level),
      (.text "loc".toList, .text (logLocation record)),
      (.text "req".toList, .text rid),
      (.text "msg".toList, .text record.message) ]

def jsonRendered (rid : Text) (record : LogRecord) : Except PyError Text :=
  (LogValue.dict (jsonPayload rid record)).toJson.map fun document => document.dumps ++ ['\n']

/-- The line that is meant to be written. -/
def rendered (jsonMode : Bool) (containerStr : LogValue → Except PyError Text) (rid : Text)
    (record : LogRecord) : Except PyError Text :=
  if jsonMode then jsonRendered rid record else humanRendered containerStr rid record

/-- `_format(json_mode)(record)`; `rid` is the current request id. -/
def logFormat (jsonMode : Bool) (containerStr : LogValue → Except PyError Text) (rid : Text)
    (record : LogRecord) : Except PyError Text :=
  (rendered jsonMode containerStr rid record).map escapeLoguruBraces

/-! ## The records of failures -/

/-- `build_log_context` for a failure. -/
def buildLogContext (rid jobId stage failureReason : Text) : LogValue :=
  .dict [
    (.text "request_id".toList, .text rid),
    (.text "job_id".toList, .text jobId),
    (.text "stage".toList, .text stage),
    (.text "boundary".toList, .scalar .none),
    (.text "latency_ms".toList, .scalar .none),
    (.text "failure_reason".toList, .text failureReason) ]

/-- A record whose extras are a failure context. -/
def failureRecord (level name : String) (line : Nat) (message stage : String) (time : DateTime)
    (rid jobId failureReason : Text) : LogRecord where
  time := time
  level := level.toList
  name := some name.toList
  line := line
  message := message.toList
  extra := [("extra".toList, buildLogContext rid jobId stage.toList failureReason)]

/-- `run_worker` after an exception. -/
def pipelineFailed : DateTime → Text → Text → Text → LogRecord :=
  failureRecord "ERROR" "app.research.worker.sqs_worker" 46 "Research pipeline failed" "worker"

/-- `execute_research_pipeline` after an analysis fault. -/
def analysisFellBack : DateTime → Text → Text → Text → LogRecord :=
  failureRecord "WARNING" "app.research.service.pipeline" 115
    "AI analysis fell back to deterministic output" "llm_analysis"

end ResearchTool
