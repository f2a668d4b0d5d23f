import ResearchTool.Errors
import ResearchTool.Schema
import ResearchTool.Python.Format
import ResearchTool.ReportRenderer

/-!
# Prompt construction

`build_prompt_payload`: filter the tree, redact the README, fill the template
and cut README and tree down when the prompt exceeds its budget.
-/

namespace ResearchTool

open Python

/-! ## Redaction -/

/-- One element of an alternative of `_UNSAFE_INSTRUCTION_RE`. -/
inductive PatternPiece where
  | literal (text : Text)
  | spaces
  | optionalSpaces

/-- The alternatives of `_UNSAFE_INSTRUCTION_RE`, in order. -/
def unsafeInstructions : List (List PatternPiece) :=
  [ [.literal "ignore".toList, .spaces, .literal "previous".toList, .spaces,
      .literal "instructions".toList],
    [.literal "system".toList, .optionalSpaces, .literal "prompt".toList],
    [.literal "assistant".toList, .optionalSpaces, .literal ":".toList],
    [.literal "developer".toList, .optionalSpaces, .literal ":".toList],
    [.literal "user".toList, .optionalSpaces, .literal ":".toList] ]

/-- The lower-case letter a character matches under `(?i)`: besides the ASCII
capitals, `re` identifies four other characters with an ASCII letter. -/
def ignoreCase (c : Char) : Char :=
  if c.toNat = 0x130 || c.toNat = 0x131 then 'i'
  else if c.toNat = 0x17F then 's'
  else if c.toNat = 0x212A then 'k'
  else asciiLower c

/-- What is left after `literal` at the front of `text`. -/
def matchLiteral : Text → Text → Option Text
  | [], text => some text
  | _ :: _, [] => none
  | p :: literal, c :: text => if ignoreCase c = p then matchLiteral literal text else none

/-- What is left after the pieces at the front of `text`.  A run of white space
is taken whole: no piece after it starts with a space, so that backtracking
into the run never helps. -/
def matchPieces : List PatternPiece → Text → Option Text
  | [], text => some text
  | .literal literal :: pieces, text => (matchLiteral literal text).bind (matchPieces pieces)
  | .spaces :: pieces, text =>
      match text with
      | c :: _ => if isSpace c then matchPieces pieces (text.dropWhile isSpace) else none
      | [] => none
  | .optionalSpaces :: pieces, text => matchPieces pieces (text.dropWhile isSpace)

/-- The length of the match at the front of `text`, by the first alternative
that matches. -/
def matchUnsafe (text : Text) : Option Nat :=
  unsafeInstructions.findSome? fun pieces =>
    (matchPieces pieces text).map fun rest => text.length - rest.length

def redactedMarker : Text :=
  "[redacted]".toList

/-- Leftmost non-overlapping substitution; `skip` counts the characters of the
current match that are still to be dropped. -/
def redactFrom : Nat → Text → Text
  | _, [] => []
  | skip + 1, _ :: rest => redactFrom skip rest
  | 0, c :: rest =>
      match matchUnsafe (c :: rest) with
      | some length => redactedMarker ++ redactFrom (length - 1) rest
      | none => c :: redactFrom 0 rest

/-- `_sanitize_text`. -/
def sanitizeText (value : Text) : Text :=
  redactFrom 0 value

/-! ## The prompt -/

/-- `_BLOCKED_PATH_PARTS`. -/
def blockedPathParts : List Text :=
  [".git", "node_modules", "__pycache__", ".venv", "venv"].map String.toList

/-- `_BLOCKED_SUFFIXES`. -/
def blockedSuffixes : List Text :=
  [".png", ".jpg", ".jpeg", ".gif", ".webp", ".svg", ".ico", ".pdf", ".zip", ".tar", ".gz",
    ".exe", ".bin", ".woff", ".woff2", ".ttf"].map String.toList

/-- `str.lower` as far as a comparison with ASCII text can tell: two further
characters have a lower-case form with an ASCII letter, and every other one is
mapped to non-ASCII text. -/
def lowerName (name : Text) : Text :=
  name.flatMap fun c =>
    if c.toNat = 0x212A then ['k']
    else if c.toNat = 0x130 then ['i', Char.ofNat 0x307]
    else [asciiLower c]

def isBlockedEntry (entry : RepositoryTreeEntry) : Bool :=
  let lowerEntry := lowerName entry.name.toList
  blockedPathParts.contains lowerEntry ||
    blockedSuffixes.any fun ending => ending.isSuffixOf lowerEntry

/-- The header of the prompt, one labelled line a fact. -/
def promptHeader (rawContext : RepositoryRawContext) : Text :=
  ("Repository URL: " ++ rawContext.repositoryUrl ++ "\n" ++
    "Default branch: " ++ rawContext.defaultBranch ++ "\n" ++
    "Commit SHA: " ++ rawContext.commitSha ++ "\n" ++
    "Stars: " ++ toString rawContext.instantData.stars ++ "\n" ++
    "Forks: " ++ toString rawContext.instantData.forks ++ "\n" ++
    "Primary language: " ++ orDefault rawContext.instantData.primaryLang "Unknown" ++
    "\n").toList

/-- The template: the header is already interpolated when `format` reads it. -/
def promptTemplate (header : Text) : Text :=
  "<repository_content>\n".toList ++ header ++
    "\nREADME:\n\x7breadme\x7d\n\nTop-level structure:\n\x7btree\x7d\n</repository_content>".toList

def truncationMarker : Text :=
  "\n...[truncated]".toList

/-- The two truncation warnings. -/
def readmeWarning : PartialAnalysisWarning where
  stage := "context_sanitizer"
  message := "README content was truncated to stay within the AI context budget."

def treeWarning : PartialAnalysisWarning where
  stage := "context_sanitizer"
  message := "Repository structure was truncated to stay within the AI context budget."

/-- `text[:max(len(text) - overflow - margin, floor)]` and the marker. -/
def truncateSection (overflow margin floor : Int) (text : Text) : Text :=
  text.take (max ((text.length : Int) - overflow - margin) floor).toNat ++ truncationMarker

/-- How CPython renders a replacement field that is not a bare argument name. -/
abbrev FieldRenderer := List (Text × Text) → FormatField → Except PyError Text

/-- `template.format(readme=..., tree=...)`. -/
def fillTemplate (renderField : FieldRenderer) (template readme tree : Text) :
    Except Exn Text :=
  match strFormat renderField [("readme".toList, readme), ("tree".toList, tree)] template with
  | .ok text => .ok text
  | .error error => .error (.other error.className error.message)

/-- `f"{owner}/{repo}@{commit_sha}"`, which the orchestration service and the
sanitizer both build. -/
def buildAiCacheKey (owner repo commitSha : String) : String :=
  owner ++ "/" ++ repo ++ "@" ++ commitSha

/-- `build_prompt_payload`. -/
def buildPromptPayload (renderField : FieldRenderer) (maxContextTokens : Int)
    (rawContext : RepositoryRawContext) : Except Exn LLMPromptPayload := do
  let maxChars := maxContextTokens * 4
  let filteredEntries := rawContext.treeEntries.filter fun entry => !isBlockedEntry entry
  let readmeText := sanitizeText (strip (rawContext.readmeText.getD "").toList)
  let treeText := join ['\n'] (filteredEntries.map fun entry =>
    ("- " ++ entry.name ++ " (" ++ entry.type ++ ")").toList)
  let template := promptTemplate (promptHeader rawContext)
  let promptText ← fillTemplate renderField template readmeText treeText
  let overflows (text : Text) : Bool := maxChars < (text.length : Int)
  let (readmeText, promptText, warnings) ←
    if overflows promptText && !readmeText.isEmpty then do
      let readmeText :=
        truncateSection ((promptText.length : Int) - maxChars) 64 256 readmeText
      let promptText ← fillTemplate renderField template readmeText treeText
      pure (readmeText, promptText, [readmeWarning])
    else
      pure (readmeText, promptText, [])
  let (promptText, warnings) ←
    if overflows promptText && !treeText.isEmpty then do
      let treeText :=
        truncateSection ((promptText.length : Int) - maxChars) 32 128 treeText
      let promptText ← fillTemplate renderField template readmeText treeText
      pure (promptText, warnings ++ [treeWarning])
    else
      pure (promptText, warnings)
  pure {
    repositoryUrl := rawContext.repositoryUrl
    cacheKey := buildAiCacheKey rawContext.target.owner rawContext.target.repo rawContext.commitSha
    commitSha := rawContext.commitSha
    deterministicData := rawContext.instantData
    promptText := String.ofList promptText
    warnings := warnings
  }

/-- The prompt carries the key of its repository and commit. -/
theorem cacheKey_of_buildPromptPayload {renderField : FieldRenderer} {maxContextTokens : Int}
    {rawContext : RepositoryRawContext} {payload : LLMPromptPayload}
    (built : buildPromptPayload renderField maxContextTokens rawContext = .ok payload) :
    payload.cacheKey =
      buildAiCacheKey rawContext.target.owner rawContext.target.repo rawContext.commitSha := by
  simp only [buildPromptPayload, bind, Except.bind, pure, Except.pure] at built
  repeat' split at built
  all_goals cases built
  all_goals rfl

end ResearchTool
