import ResearchTool.Errors
import ResearchTool.Schema

/-!
# The boundary to GitHub

`GitHubGraphQLAdapter.fetch_repository_context` over an arbitrary reply.  The
mapping is guarded against some missing and null fields and not against others:
the response is mapped exactly if it meets the conditions that are collected in
the second half of this file.
-/

namespace ResearchTool

open Python

/-! ## Validation -/

/-- Which decoded values Pydantic accepts for a field of each type, and the text
of a `ValidationError` about some fields of a model. -/
structure Pydantic where
  integer : Json → Option Int
  boolean : Json → Option Bool
  datetime : Json → Option DateTime
  report : String → List String → String

/-- The library code that the adapter runs on decoded values. -/
structure Runtime where
  arithmetic : FloatArithmetic
  pydantic : Pydantic
  /-- `str(value)` of a value that is no text. -/
  display : Json → String

/-- A field of type `str`. -/
def acceptText : Json → Option String
  | .string text => some text
  | _ => none

/-- A `str` field with `min_length=1`. -/
def acceptNonempty (value : Json) : Option { text : String // text ≠ "" } := do
  let text ← acceptText value
  if nonempty : text ≠ "" then some ⟨text, nonempty⟩ else none

/-- A field that may be `None`. -/
def acceptOptional {α : Type} (accept : Json → Option α) : Json → Option (Option α)
  | .null => some none
  | value => (accept value).map some

/-- An `int` field with `ge=0`. -/
def Pydantic.natural (pydantic : Pydantic) (value : Json) : Option Nat := do
  let number ← pydantic.integer value
  if 0 ≤ number then some number.toNat else none

/-- A model whose fields are all accepted, or the `ValidationError` about the
others. -/
def Pydantic.construct {α : Type} (pydantic : Pydantic) (model : String)
    (fields : List (String × Bool)) (value : Option α) : Except PyError α :=
  match value with
  | some value => pure value
  | none =>
      .error {
        className := "ValidationError"
        message := pydantic.report model ((fields.filter (!·.2)).map Prod.fst)
      }

/-! ## The mapping -/

structure GitHubGraphQLAdapter where
  token : String
  maxTreeEntries : Int

section Mapping

variable (runtime : Runtime)

/-- `value or {}`. -/
def Runtime.orEmpty (value : Json) : Json :=
  value.orElse runtime.arithmetic (.object [])

/-- One edge of the language breakdown; an edge without a language name is left
out. -/
def readLanguage (total edge : Json) : Except PyError (Option LanguageEntry) := do
  let size ← edge.get "size" (.int 0)
  let node := runtime.orEmpty (← edge.get "node" .null)
  let name ← node.get "name" .null
  if name.truthy runtime.arithmetic then
    let percentage ← size.percentageOf runtime.arithmetic total
    let color ← node.get "color" .null
    let entry ← runtime.pydantic.construct "LanguageEntry"
      [("name", (acceptText name).isSome), ("color", (acceptOptional acceptText color).isSome)] do
        some { name := ← acceptText name, percentage, color := ← acceptOptional acceptText color }
    pure (some entry)
  else
    pure none

/-- The language breakdown. -/
def readLanguages (repository : Json) : Except PyError (List LanguageEntry) := do
  let languages := runtime.orEmpty (← repository.get "languages" .null)
  let total := (← languages.get "totalSize" .null).orElse runtime.arithmetic (.int 0)
  if ← total.greaterThanZero runtime.arithmetic then
    let edges := (← languages.get "edges" .null).orElse runtime.arithmetic (.array [])
    collect (readLanguage runtime total) (← edges.items)
  else
    pure []

/-- The name of one topic node; a node without a name is left out. -/
def readTopic (node : Json) : Except PyError (Option Json) := do
  let topic ← node.get "topic" (.object [])
  let name ← topic.get "name" .null
  if name.truthy runtime.arithmetic then
    let topic ← node.item "topic"
    let name ← topic.item "name"
    pure (some name)
  else
    pure none

/-- The topics, not yet validated. -/
def readTopics (repository : Json) : Except PyError (List Json) := do
  let topics := runtime.orEmpty (← repository.get "repositoryTopics" .null)
  let nodes ← topics.get "nodes" (.array [])
  collect (readTopic runtime) (← nodes.items)

/-- One commit of the branch history; a node without an identifier or a date is
left out. -/
def readCommit (node : Json) : Except PyError (Option CommitEntry) := do
  let oid ← node.get "oid" .null
  let date ← node.get "committedDate" .null
  if oid.truthy runtime.arithmetic ∧ date.truthy runtime.arithmetic then
    let sha ← (← node.item "oid").sliceTo 7
    let message := (← node.get "messageHeadline" .null).orElse runtime.arithmetic (.string "")
    let committedDate ← node.item "committedDate"
    let author := runtime.orEmpty (← node.get "author" .null)
    let authorName ← author.get "name" .null
    let entry ← runtime.pydantic.construct "CommitEntry"
      [("sha", (acceptText sha).isSome), ("message", (acceptText message).isSome),
        ("committed_at", (runtime.pydantic.datetime committedDate).isSome),
        ("author_name", (acceptOptional acceptText authorName).isSome)] do
        some {
          sha := ← acceptText sha
          message := ← acceptText message
          committedAt := ← runtime.pydantic.datetime committedDate
          authorName := ← acceptOptional acceptText authorName
        }
    pure (some entry)
  else
    pure none

/-- The recent commits from the branch history. -/
def readCommits (commit : Json) : Except PyError (List CommitEntry) := do
  let history := runtime.orEmpty (← commit.get "history" .null)
  let nodes := (← history.get "nodes" .null).orElse runtime.arithmetic (.array [])
  collect (readCommit runtime) (← nodes.items)

/-- One entry of the tree. -/
def readTreeEntry (item : Json) : Except PyError (Option RepositoryTreeEntry) := do
  let name ← item.item "name"
  let type ← item.get "type" (.string "blob")
  let entry ← runtime.pydantic.construct "RepositoryTreeEntry"
    [("name", (acceptText name).isSome), ("type", (acceptText type).isSome)] do
      some { name := ← acceptText name, type := ← acceptText type }
  pure (some entry)

/-- The entries of the tree up to the limit. -/
def readTreeEntries (maxTreeEntries : Int) (entries : Json) :
    Except PyError (List RepositoryTreeEntry) := do
  let kept ← entries.sliceTo maxTreeEntries
  collect (readTreeEntry runtime) (← kept.items)

/-- `(value.get(key) or {}).get(name)`. -/
def Runtime.nested (value : Json) (key name : String) : Except PyError Json := do
  let inner := runtime.orEmpty (← value.get key .null)
  inner.get name .null

/-- The arguments of `InstantMetadata` that are still decoded values. -/
structure MetadataFields where
  name : Json
  description : Json
  stars : Json
  forks : Json
  primaryLang : Json
  lastCommitAt : Json
  watchers : Json
  openIssues : Json
  licenseSpdx : Json
  topics : List Json
  isArchived : Json
  isFork : Json

/-- Which of the fields are accepted. -/
def MetadataFields.checks (fields : MetadataFields) : List (String × Bool) :=
  let pydantic := runtime.pydantic
  [ ("name", (acceptNonempty fields.name).isSome),
    ("description", (acceptOptional acceptText fields.description).isSome),
    ("stars", (pydantic.natural fields.stars).isSome),
    ("forks", (pydantic.natural fields.forks).isSome),
    ("primary_lang", (acceptOptional acceptText fields.primaryLang).isSome),
    ("last_commit_at", (acceptOptional pydantic.datetime fields.lastCommitAt).isSome),
    ("watchers", (acceptOptional pydantic.integer fields.watchers).isSome),
    ("open_issues", (acceptOptional pydantic.integer fields.openIssues).isSome),
    ("license_spdx", (acceptOptional acceptText fields.licenseSpdx).isSome),
    ("topics", (fields.topics.mapM acceptText).isSome),
    ("is_archived", (pydantic.boolean fields.isArchived).isSome),
    ("is_fork", (pydantic.boolean fields.isFork).isSome) ]

def MetadataFields.accept (fields : MetadataFields) (owner : String)
    (languages : List LanguageEntry) (recentCommits : List CommitEntry) :
    Option InstantMetadata := do
  let pydantic := runtime.pydantic
  let name ← acceptNonempty fields.name
  some {
    name := name.val
    description := ← acceptOptional acceptText fields.description
    stars := ← pydantic.natural fields.stars
    forks := ← pydantic.natural fields.forks
    primaryLang := ← acceptOptional acceptText fields.primaryLang
    lastCommitAt := ← acceptOptional pydantic.datetime fields.lastCommitAt
    owner := some owner
    watchers := ← acceptOptional pydantic.integer fields.watchers
    openIssues := ← acceptOptional pydantic.integer fields.openIssues
    licenseSpdx := ← acceptOptional acceptText fields.licenseSpdx
    topics := ← fields.topics.mapM acceptText
    languages, recentCommits
    isArchived := ← pydantic.boolean fields.isArchived
    isFork := ← pydantic.boolean fields.isFork
    name_minLength := name.property
  }

/-- `repository.get("nameWithOwner") or repository["name"]`. -/
def readName (repository : Json) : Except PyError Json := do
  let nameWithOwner ← repository.get "nameWithOwner" .null
  if nameWithOwner.truthy runtime.arithmetic then pure nameWithOwner else repository.item "name"

/-- The calls that read the arguments of `InstantMetadata`. -/
def readMetadataFields (repository commit : Json) (topics : List Json) :
    Except PyError MetadataFields := do
  let openIssues ← runtime.nested repository "openIssues" "totalCount"
  let name ← readName runtime repository
  let committedDate ← commit.get "committedDate" .null
  let pushedAt ← repository.get "pushedAt" .null
  pure {
    name := name
    description := ← repository.get "description" .null
    stars := ← repository.get "stargazerCount" (.int 0)
    forks := ← repository.get "forkCount" (.int 0)
    primaryLang := ← runtime.nested repository "primaryLanguage" "name"
    lastCommitAt := committedDate.orElse runtime.arithmetic pushedAt
    watchers := ← runtime.nested repository "watchers" "totalCount"
    openIssues := openIssues
    licenseSpdx := ← runtime.nested repository "licenseInfo" "spdxId"
    topics := topics
    isArchived := ← repository.get "isArchived" (.bool false)
    isFork := ← repository.get "isFork" (.bool false)
  }

/-- The context of a repository that is not `None`. -/
def readRepository (adapter : GitHubGraphQLAdapter) (target : ParsedRepoTarget)
    (repository : Json) : Except PyError RepositoryRawContext := do
  let branch := runtime.orEmpty (← repository.get "defaultBranchRef" .null)
  let commit := runtime.orEmpty (← branch.get "target" .null)
  let tree := runtime.orEmpty (← commit.get "tree" .null)
  let entries := (← tree.get "entries" .null).orElse runtime.arithmetic (.array [])
  let readmeLower ← repository.get "readmeLower" .null
  let readmeUpper ← repository.get "readmeUpper" .null
  let readme := runtime.orEmpty (readmeLower.orElse runtime.arithmetic readmeUpper)
  let languages ← readLanguages runtime repository
  let topics ← readTopics runtime repository
  let recentCommits ← readCommits runtime commit
  let fields ← readMetadataFields runtime repository commit topics
  let instantData ← runtime.pydantic.construct "InstantMetadata" (fields.checks runtime)
    (fields.accept runtime target.owner languages recentCommits)
  let url ← repository.item "url"
  let defaultBranch := (← branch.get "name" .null).orElse runtime.arithmetic (.string "HEAD")
  let commitSha := (← commit.get "oid" .null).orElse runtime.arithmetic (.string "unknown")
  let text ← readme.get "text" .null
  let byteSize ← readme.get "byteSize" .null
  let treeEntries ← readTreeEntries runtime adapter.maxTreeEntries entries
  runtime.pydantic.construct "RepositoryRawContext"
    [("repository_url", (acceptText url).isSome),
      ("default_branch", (acceptText defaultBranch).isSome),
      ("commit_sha", (acceptText commitSha).isSome),
      ("readme_text", (acceptOptional acceptText text).isSome),
      ("readme_byte_size", (acceptOptional runtime.pydantic.integer byteSize).isSome)] do
    some {
      target
      repositoryUrl := ← acceptText url
      defaultBranch := ← acceptText defaultBranch
      commitSha := ← acceptText commitSha
      instantData
      readmeText := ← acceptOptional acceptText text
      readmeByteSize := ← acceptOptional runtime.pydantic.integer byteSize
      treeEntries
      openIssueCount := instantData.openIssues
    }

/-! ## The reply -/

/-- The outcome of the request: an `httpx.HTTPStatusError`, another
`httpx.HTTPError`, a body that `response.json()` raises on, which is no JSON or no
UTF-8, or the decoded body. -/
inductive GitHubReply where
  | statusError (statusCode : Nat)
  | transportError (message : String)
  | undecodable (error : PyError)
  | decoded (body : Json)

def githubTokenMissing : ResearchProblem where
  statusCode := 503
  type := "/problems/github-token-missing"
  title := "GitHub token missing"
  detail := some "GITHUB_TOKEN must be configured before repository analysis can run."

def githubRequestFailed (detail : String) : ResearchProblem where
  statusCode := 502
  type := "/problems/github-upstream-error"
  title := "GitHub request failed"
  detail := some detail

def githubQueryFailed (detail : String) : ResearchProblem where
  statusCode := 502
  type := "/problems/github-upstream-error"
  title := "GitHub query failed"
  detail := some detail

def repositoryNotFound (target : ParsedRepoTarget) : ResearchProblem where
  statusCode := 404
  type := "/problems/repository-not-found"
  title := "Repository not found"
  detail := some ("Repository " ++ target.owner ++ "/" ++ target.repo ++
    " could not be found or is not public.")

/-- An exception of the interpreter or of a library that no clause catches. -/
def escaping {α : Type} (computation : Except PyError α) : Except Exn α :=
  computation.mapError fun error => .other error.className error.message

/-- A text is itself; any other value is kept as it is printed. -/
def Runtime.detail (value : Json) : String :=
  match value with
  | .string text => text
  | other => runtime.display other

/-- The first message of a non-empty `errors` entry. -/
def readMessage (errors : Json) : Except PyError Json := do
  let first ← errors.first
  first.get "message" (.string "GitHub GraphQL query failed")

/-- What is done with the decoded body. -/
def readBody (adapter : GitHubGraphQLAdapter) (target : ParsedRepoTarget) (body : Json) :
    Except Exn RepositoryRawContext := do
  let errors ← escaping (body.get "errors" (.array []))
  if errors.truthy runtime.arithmetic then
    let message ← escaping (readMessage errors)
    if ← escaping (message.contains "Could not resolve to a Repository") then
      throw (.researchProblem (repositoryNotFound target))
    throw (.researchProblem (githubQueryFailed (runtime.detail message)))
  let data ← escaping (body.get "data" (.object []))
  let repository ← escaping (data.get "repository" .null)
  match repository with
  | .null => throw (.researchProblem (repositoryNotFound target))
  | repository => escaping (readRepository runtime adapter target repository)

/-- `fetch_repository_context`. -/
def GitHubGraphQLAdapter.fetchRepositoryContext (adapter : GitHubGraphQLAdapter)
    (target : ParsedRepoTarget) (reply : GitHubReply) : Except Exn RepositoryRawContext := do
  if adapter.token = "" then
    throw (.researchProblem githubTokenMissing)
  match reply with
  | .statusError statusCode =>
      throw (.researchProblem (githubRequestFailed ("GitHub returned " ++ toString statusCode ++
        " while fetching repository data.")))
  | .transportError message => throw (.researchProblem (githubRequestFailed message))
  | .undecodable error => escaping (.error error)
  | .decoded body => readBody runtime adapter target body

/-! ## Readable values -/

/-- A field accepts the value. -/
def Accepts {α : Type} (accept : Json → Option α) (value : Json) : Prop :=
  (accept value).isSome = true

/-- An edge is a dictionary whose node, if it is truthy, is one too.  A named
language has a size to divide, and a colour that is text or null. -/
def ReadableLanguage (total edge : Json) : Prop :=
  let node := runtime.orEmpty (edge.field "node" .null)
  let name := node.field "name" .null
  edge.IsObject ∧ node.IsObject ∧
    (name.truthy runtime.arithmetic = true →
      Succeeds ((edge.field "size" (.int 0)).percentageOf runtime.arithmetic total) ∧
        Accepts acceptText name ∧ Accepts (acceptOptional acceptText) (node.field "color" .null))

theorem construct_eq_ok_iff {α : Type} {pydantic : Pydantic} {model : String}
    {fields : List (String × Bool)} {value : Option α} {result : α} :
    pydantic.construct model fields value = .ok result ↔ value = some result := by
  cases value with
  | none => simp [Pydantic.construct]
  | some value => simp [Pydantic.construct, pure, Except.pure]

theorem exists_construct_iff {α : Type} {pydantic : Pydantic} {model : String}
    {fields : List (String × Bool)} {value : Option α} :
    (∃ result, pydantic.construct model fields value = .ok result) ↔ value.isSome = true := by
  simp only [construct_eq_ok_iff, Option.isSome_iff_exists]

theorem succeeds_construct_iff {α : Type} {pydantic : Pydantic} {model : String}
    {fields : List (String × Bool)} {value : Option α} :
    Succeeds (pydantic.construct model fields value) ↔ value.isSome = true :=
  exists_construct_iff

theorem isSome_bind_iff {α β : Type} {found : Option α} {next : α → Option β} :
    (found >>= next).isSome = true ↔ ∃ value, found = some value ∧ (next value).isSome = true := by
  cases found <;> simp

theorem exists_eq_some_iff {α : Type} {accept : Json → Option α} {value : Json} :
    (∃ result, accept value = some result) ↔ Accepts accept value := by
  rw [Accepts, Option.isSome_iff_exists]

theorem succeeds_readLanguage_iff {total edge : Json} :
    Succeeds (readLanguage runtime total edge) ↔ ReadableLanguage runtime total edge := by
  unfold readLanguage ReadableLanguage
  simp only [succeeds_bind_iff, Json.get_eq_ok_iff, and_assoc, exists_and_left, exists_eq_left']
  by_cases named : (((runtime.orEmpty (edge.field "node" .null)).field "name" .null).truthy
    runtime.arithmetic) = true
  · simp only [named, if_true, true_imp_iff, succeeds_bind_iff, Json.get_eq_ok_iff, and_assoc,
      exists_and_left, exists_and_right, exists_eq_left', exists_construct_iff, isSome_bind_iff,
      succeeds_pure, and_true, Option.isSome_some, exists_eq_some_iff, exists_ok_iff]
    tauto
  · simp [named]

/-- The breakdown is a dictionary with a number as its total.  If the total is
positive, its edges are read. -/
def ReadableLanguages (repository : Json) : Prop :=
  let languages := runtime.orEmpty (repository.field "languages" .null)
  let total := (languages.field "totalSize" .null).orElse runtime.arithmetic (.int 0)
  let edges := (languages.field "edges" .null).orElse runtime.arithmetic (.array [])
  languages.IsObject ∧ total.IsNumber ∧
    (total.isPositive runtime.arithmetic = true → edges.ForEach (ReadableLanguage runtime total))

theorem exists_items_iff {value : Json} {condition : Json → Prop} :
    (∃ found, value.items = .ok found ∧ ∀ item ∈ found, condition item) ↔
      value.ForEach condition := by
  simp only [Json.items_eq_ok_iff, Json.ForEach]

theorem succeeds_readLanguages_iff {repository : Json} (dictionary : repository.IsObject) :
    Succeeds (readLanguages runtime repository) ↔ ReadableLanguages runtime repository := by
  unfold readLanguages ReadableLanguages
  simp only [succeeds_bind_iff, Json.get_eq_ok_iff, Json.greaterThanZero_eq_ok_iff, and_assoc,
    exists_and_left, exists_eq_left', dictionary, true_and]
  by_cases positive : Json.isPositive runtime.arithmetic
    ((((runtime.orEmpty (repository.field "languages" .null)).field "totalSize" .null).orElse
      runtime.arithmetic (.int 0))) = true
  · simp only [positive, if_true, true_imp_iff, succeeds_bind_iff, Json.get_eq_ok_iff, and_assoc,
      exists_and_left, exists_eq_left', succeeds_collect_iff, succeeds_readLanguage_iff,
      exists_items_iff]
    tauto
  · simp [positive]

/-- A topic node is a dictionary whose topic, if it is there, is one too.  Its
name, if it is truthy, is text. -/
def ReadableTopic (node : Json) : Prop :=
  let topic := node.field "topic" (.object [])
  let name := topic.field "name" .null
  node.IsObject ∧ topic.IsObject ∧
    (name.truthy runtime.arithmetic = true → Accepts acceptText name)

/-- The topics are a dictionary whose nodes, if they are there, are read. -/
def ReadableTopics (repository : Json) : Prop :=
  let topics := runtime.orEmpty (repository.field "repositoryTopics" .null)
  topics.IsObject ∧ (topics.field "nodes" (.array [])).ForEach (ReadableTopic runtime)

/-- The name of a topic node, if it is truthy. -/
def topicName (node : Json) : Option Json :=
  let name := (node.field "topic" (.object [])).field "name" .null
  if name.truthy runtime.arithmetic then some name else none

theorem readTopic_eq_ok_iff (node : Json) (found : Option Json) :
    readTopic runtime node = .ok found ↔
      (node.IsObject ∧ (node.field "topic" (.object [])).IsObject) ∧
      topicName runtime node = found := by
  unfold readTopic topicName
  simp only [bind_eq_ok_iff, Json.get_eq_ok_iff, and_assoc, exists_and_left, exists_eq_left']
  by_cases named : ((node.field "topic" (.object [])).field "name" .null).truthy
      runtime.arithmetic = true
  · have name : (node.field "topic" (.object [])).lookup? "name" =
        some ((node.field "topic" (.object [])).field "name" .null) := by
      apply Json.lookup?_of_field_ne
      intro absent
      rw [absent] at named
      cases named
    have topic : node.lookup? "topic" = some (node.field "topic" (.object [])) := by
      apply Json.lookup?_of_field_ne
      intro absent
      rw [absent] at named
      cases named
    simp [named, bind_eq_ok_iff, Json.item_eq_ok_iff, topic, name, pure, Except.pure]
  · simp [named, pure, Except.pure]

theorem acceptAll_iff {names : List Json} :
    (names.mapM acceptText).isSome = true ↔ ∀ name ∈ names, Accepts acceptText name := by
  induction names with
  | nil => simp
  | cons name rest ih =>
      rw [List.mapM_cons, List.forall_mem_cons, ← ih]
      cases first : acceptText name with
      | none => simp [Accepts, first]
      | some text =>
          cases later : rest.mapM acceptText with
          | none => simp
          | some texts => simp [Accepts, first]

/-- The topics are read and accepted. -/
theorem exists_readTopics_iff {repository : Json} (dictionary : repository.IsObject) :
    (∃ topics, readTopics runtime repository = .ok topics ∧
      (topics.mapM acceptText).isSome = true) ↔
      ReadableTopics runtime repository := by
  have collected := collect_eq_ok_iff (readTopic_eq_ok_iff runtime)
  unfold readTopics ReadableTopics
  simp only [bind_eq_ok_iff, Json.get_eq_ok_iff, and_assoc, exists_and_left, exists_eq_left',
    dictionary, true_and, collected, acceptAll_iff, Json.items_eq_ok_iff]
  apply and_congr_right
  intro _
  constructor
  · rintro ⟨names, ⟨nodes, visited, shaped, rfl⟩, accepted⟩
    refine ⟨nodes, visited, ?_⟩
    intro node member
    refine ⟨(shaped node member).1, (shaped node member).2, ?_⟩
    intro named
    apply accepted
    rw [List.mem_filterMap]
    exact ⟨node, member, by simp [topicName, named]⟩
  · rintro ⟨nodes, visited, readable⟩
    refine ⟨_, ⟨nodes, visited, ?_, rfl⟩, ?_⟩
    · exact fun node member => ⟨(readable node member).1, (readable node member).2.1⟩
    · intro name listed
      rw [List.mem_filterMap] at listed
      obtain ⟨node, member, found⟩ := listed
      by_cases named : ((node.field "topic" (.object [])).field "name" .null).truthy
          runtime.arithmetic = true
      · simp only [topicName, named, if_true, Option.some.injEq] at found
        rw [← found]
        exact (readable node member).2.2 named
      · simp [topicName, named] at found

/-- A commit node is a dictionary.  If it has an identifier and a date, both are
accepted, and so are its message and the name of its author. -/
def ReadableCommit (node : Json) : Prop :=
  let oid := node.field "oid" .null
  let date := node.field "committedDate" .null
  let message := (node.field "messageHeadline" .null).orElse runtime.arithmetic (.string "")
  let author := runtime.orEmpty (node.field "author" .null)
  node.IsObject ∧
    (oid.truthy runtime.arithmetic = true ∧ date.truthy runtime.arithmetic = true →
      Accepts acceptText oid ∧ Accepts acceptText message ∧
        Accepts runtime.pydantic.datetime date ∧ author.IsObject ∧
        Accepts (acceptOptional acceptText) (author.field "name" .null))

/-- The history is a dictionary whose nodes, if they are truthy, are read. -/
def ReadableCommits (commit : Json) : Prop :=
  let history := runtime.orEmpty (commit.field "history" .null)
  let nodes := (history.field "nodes" .null).orElse runtime.arithmetic (.array [])
  history.IsObject ∧ nodes.ForEach (ReadableCommit runtime)

/-- A slice is accepted as text exactly if the value is text. -/
theorem exists_slice_iff {value : Json} {bound : Int} :
    (∃ kept, value.sliceTo bound = .ok kept ∧ Accepts acceptText kept) ↔
      Accepts acceptText value := by
  cases value <;> simp [Json.sliceTo, Accepts, acceptText, pure, Except.pure]

theorem succeeds_readCommit_iff {node : Json} :
    Succeeds (readCommit runtime node) ↔ ReadableCommit runtime node := by
  unfold readCommit ReadableCommit
  simp only [succeeds_bind_iff, Json.get_eq_ok_iff, and_assoc, exists_and_left, exists_eq_left']
  by_cases given : (node.field "oid" .null).truthy runtime.arithmetic = true ∧
      (node.field "committedDate" .null).truthy runtime.arithmetic = true
  · have oid : node.lookup? "oid" = some (node.field "oid" .null) := by
      apply Json.lookup?_of_field_ne
      intro absent
      rw [absent] at given
      cases given.1
    have date : node.lookup? "committedDate" = some (node.field "committedDate" .null) := by
      apply Json.lookup?_of_field_ne
      intro absent
      rw [absent] at given
      cases given.2
    have slice := @exists_slice_iff (node.field "oid" .null) 7
    simp only [given, and_self, if_true, true_imp_iff, succeeds_bind_iff, Json.get_eq_ok_iff,
      Json.item_eq_ok_iff, oid, date, Option.some.injEq, and_assoc,
      exists_and_left, exists_and_right, exists_eq_left', exists_construct_iff, isSome_bind_iff,
      succeeds_pure, and_true, Option.isSome_some, exists_eq_some_iff]
    rw [← slice]
    constructor
    · rintro ⟨object, _, kept, sliced, _, _, author, sha, message, moment, name⟩
      exact ⟨object, ⟨kept, sliced, sha⟩, message, moment, author, name⟩
    · rintro ⟨object, ⟨kept, sliced, sha⟩, message, moment, author, name⟩
      exact ⟨object, object, kept, sliced, object, object, author, sha, message, moment, name⟩
  · simp [given]

theorem succeeds_readCommits_iff {commit : Json} (dictionary : commit.IsObject) :
    Succeeds (readCommits runtime commit) ↔ ReadableCommits runtime commit := by
  unfold readCommits ReadableCommits
  simp only [succeeds_bind_iff, Json.get_eq_ok_iff, and_assoc, exists_and_left, exists_eq_left',
    dictionary, true_and, succeeds_collect_iff, succeeds_readCommit_iff, exists_items_iff]

/-- An entry of the tree has a name that is text; so is its type, if it has one. -/
def ReadableTreeEntry (item : Json) : Prop :=
  (∃ name, item.lookup? "name" = some name ∧ Accepts acceptText name) ∧
    Accepts acceptText (item.field "type" (.string "blob"))

/-- The entries are a sequence, and those up to the limit are read. -/
def ReadableTreeEntries (maxTreeEntries : Int) (entries : Json) : Prop :=
  ∃ kept, entries.sliceTo maxTreeEntries = .ok kept ∧ kept.ForEach ReadableTreeEntry

theorem succeeds_readTreeEntry_iff {item : Json} :
    Succeeds (readTreeEntry runtime item) ↔ ReadableTreeEntry item := by
  have object : ∀ name, item.lookup? "name" = some name → item.IsObject := by
    intro name found
    cases item with
    | object entries => trivial
    | _ => cases found
  unfold readTreeEntry ReadableTreeEntry
  simp only [succeeds_bind_iff, Json.get_eq_ok_iff, Json.item_eq_ok_iff, and_assoc,
    exists_and_left, exists_and_right, exists_eq_left', exists_construct_iff, isSome_bind_iff,
    succeeds_pure, and_true, Option.isSome_some, exists_eq_some_iff]
  constructor
  · rintro ⟨name, found, _, named, typed⟩
    exact ⟨⟨name, found, named⟩, typed⟩
  · rintro ⟨⟨name, found, named⟩, typed⟩
    exact ⟨name, found, object name found, named, typed⟩

theorem succeeds_readTreeEntries_iff {maxTreeEntries : Int} {entries : Json} :
    Succeeds (readTreeEntries runtime maxTreeEntries entries) ↔
      ReadableTreeEntries maxTreeEntries entries := by
  unfold readTreeEntries ReadableTreeEntries
  simp only [succeeds_bind_iff, succeeds_collect_iff, succeeds_readTreeEntry_iff, exists_items_iff]

/-- What `nested` reads. -/
def Runtime.nestedField (value : Json) (key name : String) : Json :=
  (runtime.orEmpty (value.field key .null)).field name .null

/-- The inner value of a nested field is a dictionary, if it is truthy. -/
def Runtime.HasNested (value : Json) (key : String) : Prop :=
  (runtime.orEmpty (value.field key .null)).IsObject

theorem nested_eq_ok_iff {value result : Json} {key name : String} (dictionary : value.IsObject) :
    runtime.nested value key name = .ok result ↔
      runtime.HasNested value key ∧ runtime.nestedField value key name = result := by
  simp only [Runtime.nested, bind_eq_ok_iff, Json.get_eq_ok_iff, exists_eq_left',
    dictionary, true_and]
  rfl

/-- What `readName` reads. -/
def repositoryName (repository : Json) : Option Json :=
  let nameWithOwner := repository.field "nameWithOwner" .null
  if nameWithOwner.truthy runtime.arithmetic then some nameWithOwner else repository.lookup? "name"

/-- The fields of the metadata are accepted as they are read: a missing counter
or flag has a default, and a null one is not accepted. -/
structure ReadableMetadata (repository commit : Json) : Prop where
  name : ∃ name, repositoryName runtime repository = some name ∧ Accepts acceptNonempty name
  description : Accepts (acceptOptional acceptText) (repository.field "description" .null)
  stars : Accepts runtime.pydantic.natural (repository.field "stargazerCount" (.int 0))
  forks : Accepts runtime.pydantic.natural (repository.field "forkCount" (.int 0))
  primaryLanguage : runtime.HasNested repository "primaryLanguage"
  primaryLang : Accepts (acceptOptional acceptText)
    (runtime.nestedField repository "primaryLanguage" "name")
  lastCommitAt : Accepts (acceptOptional runtime.pydantic.datetime)
    ((commit.field "committedDate" .null).orElse runtime.arithmetic
      (repository.field "pushedAt" .null))
  watchers : runtime.HasNested repository "watchers"
  watcherCount : Accepts (acceptOptional runtime.pydantic.integer)
    (runtime.nestedField repository "watchers" "totalCount")
  openIssues : runtime.HasNested repository "openIssues"
  openIssueCount : Accepts (acceptOptional runtime.pydantic.integer)
    (runtime.nestedField repository "openIssues" "totalCount")
  licenseInfo : runtime.HasNested repository "licenseInfo"
  licenseSpdx : Accepts (acceptOptional acceptText)
    (runtime.nestedField repository "licenseInfo" "spdxId")
  isArchived : Accepts runtime.pydantic.boolean (repository.field "isArchived" (.bool false))
  isFork : Accepts runtime.pydantic.boolean (repository.field "isFork" (.bool false))

theorem isSome_accept_iff {fields : MetadataFields} {owner : String}
    {languages : List LanguageEntry}
    {recentCommits : List CommitEntry} :
    (fields.accept runtime owner languages recentCommits).isSome = true ↔
      Accepts acceptNonempty fields.name ∧ Accepts (acceptOptional acceptText) fields.description ∧
      Accepts runtime.pydantic.natural fields.stars ∧
      Accepts runtime.pydantic.natural fields.forks ∧
      Accepts (acceptOptional acceptText) fields.primaryLang ∧
      Accepts (acceptOptional runtime.pydantic.datetime) fields.lastCommitAt ∧
      Accepts (acceptOptional runtime.pydantic.integer) fields.watchers ∧
      Accepts (acceptOptional runtime.pydantic.integer) fields.openIssues ∧
      Accepts (acceptOptional acceptText) fields.licenseSpdx ∧
      (fields.topics.mapM acceptText).isSome = true ∧
      Accepts runtime.pydantic.boolean fields.isArchived ∧
      Accepts runtime.pydantic.boolean fields.isFork := by
  unfold MetadataFields.accept
  simp only [isSome_bind_iff, exists_and_right, Option.isSome_some, and_true, exists_eq_some_iff,
    ← Option.isSome_iff_exists]

theorem readName_eq_ok_iff {repository name : Json} (dictionary : repository.IsObject) :
    readName runtime repository = .ok name ↔ repositoryName runtime repository = some name := by
  unfold readName repositoryName
  simp only [bind_eq_ok_iff, Json.get_eq_ok_iff, dictionary, true_and, exists_eq_left']
  by_cases given : (repository.field "nameWithOwner" .null).truthy runtime.arithmetic = true
  · simp [given, pure, Except.pure]
  · simp [given, Json.item_eq_ok_iff]

/-- The arguments of the metadata are read and accepted. -/
theorem exists_readMetadataFields_iff {repository commit : Json} {topics : List Json}
    {owner : String}
    {languages : List LanguageEntry} {recentCommits : List CommitEntry}
    (dictionary : repository.IsObject) (commitDictionary : commit.IsObject) :
    (∃ fields, readMetadataFields runtime repository commit topics = .ok fields ∧
      (fields.accept runtime owner languages recentCommits).isSome = true) ↔
      ReadableMetadata runtime repository commit ∧ (topics.mapM acceptText).isSome = true := by
  unfold readMetadataFields
  simp only [bind_eq_ok_iff, Json.get_eq_ok_iff, nested_eq_ok_iff runtime dictionary, and_assoc,
    exists_and_left, exists_eq_left', dictionary, commitDictionary, true_and,
    readName_eq_ok_iff runtime dictionary, isSome_accept_iff, pure_eq_ok_iff]
  constructor
  · rintro ⟨openIssues, _, ⟨name, named, language, watchers, license, rfl⟩, nameText, description,
      stars, forks, primaryLang, lastCommitAt, watcherCount, openIssueCount,
      licenseSpdx, topicTexts, isArchived, isFork⟩
    exact ⟨⟨⟨name, named, nameText⟩, description, stars, forks, language, primaryLang,
      lastCommitAt, watchers, watcherCount, openIssues, openIssueCount, license, licenseSpdx,
      isArchived, isFork⟩, topicTexts⟩
  · rintro ⟨readable, topicTexts⟩
    obtain ⟨name, named, nameText⟩ := readable.name
    exact ⟨readable.openIssues, _,
      ⟨name, named, readable.primaryLanguage, readable.watchers, readable.licenseInfo, rfl⟩,
      nameText, readable.description, readable.stars, readable.forks, readable.primaryLang,
      readable.lastCommitAt, readable.watcherCount, readable.openIssueCount, readable.licenseSpdx,
      topicTexts, readable.isArchived, readable.isFork⟩

/-- The commit at the head of the default branch. -/
def Runtime.commitOf (repository : Json) : Json :=
  let branch := runtime.orEmpty (repository.field "defaultBranchRef" .null)
  runtime.orEmpty (branch.field "target" .null)

/-- The first readme file that is there. -/
def Runtime.readmeOf (repository : Json) : Json :=
  runtime.orEmpty ((repository.field "readmeLower" .null).orElse runtime.arithmetic
    (repository.field "readmeUpper" .null))

/-- Every part of the repository is accepted as it is read. -/
structure ReadableRepository (maxTreeEntries : Int) (repository : Json) : Prop where
  dictionary : repository.IsObject
  branch : runtime.HasNested repository "defaultBranchRef"
  commit : runtime.HasNested (runtime.orEmpty (repository.field "defaultBranchRef" .null)) "target"
  tree : runtime.HasNested (runtime.commitOf repository) "tree"
  readme : (runtime.readmeOf repository).IsObject
  languages : ReadableLanguages runtime repository
  topics : ReadableTopics runtime repository
  recentCommits : ReadableCommits runtime (runtime.commitOf repository)
  metadata : ReadableMetadata runtime repository (runtime.commitOf repository)
  url : ∃ url, repository.lookup? "url" = some url ∧ Accepts acceptText url
  defaultBranch : Accepts acceptText
    ((runtime.nestedField repository "defaultBranchRef" "name").orElse runtime.arithmetic
      (.string "HEAD"))
  commitSha : Accepts acceptText
    (((runtime.commitOf repository).field "oid" .null).orElse runtime.arithmetic
      (.string "unknown"))
  readmeText :
    Accepts (acceptOptional acceptText) ((runtime.readmeOf repository).field "text" .null)
  readmeByteSize : Accepts (acceptOptional runtime.pydantic.integer)
    ((runtime.readmeOf repository).field "byteSize" .null)
  treeEntries : ReadableTreeEntries maxTreeEntries
    ((runtime.nestedField (runtime.commitOf repository) "tree" "entries").orElse runtime.arithmetic
      (.array []))

/-- A repository is mapped exactly if all of it is readable. -/
theorem succeeds_readRepository_iff {adapter : GitHubGraphQLAdapter} {target : ParsedRepoTarget}
    {repository : Json} :
    Succeeds (readRepository runtime adapter target repository) ↔
      ReadableRepository runtime adapter.maxTreeEntries repository := by
  unfold readRepository
  simp only [succeeds_bind_iff, Json.get_eq_ok_iff, and_assoc, exists_and_left, exists_and_right,
    exists_eq_left', Json.item_eq_ok_iff, succeeds_construct_iff, isSome_bind_iff,
    Option.isSome_some, and_true, exists_eq_some_iff, exists_ok_iff, succeeds_readTreeEntries_iff]
  constructor
  · rintro ⟨dictionary, branch, commit, tree, _, _, languages, languagesRead, topics, topicsRead,
      commits, commitsRead, fields, fieldsRead, acceptedFields, url, found, _, _,
      readme, _, entries, urlText, defaultBranch, commitSha, text, byteSize⟩
    obtain ⟨metadata, topicTexts⟩ := (exists_readMetadataFields_iff runtime dictionary commit).mp
      ⟨fields, fieldsRead, acceptedFields⟩
    constructor
    · exact dictionary
    · exact branch
    · exact commit
    · exact tree
    · exact readme
    · exact (succeeds_readLanguages_iff runtime dictionary).mp ⟨languages, languagesRead⟩
    · exact (exists_readTopics_iff runtime dictionary).mp ⟨topics, topicsRead, topicTexts⟩
    · exact (succeeds_readCommits_iff runtime commit).mp ⟨commits, commitsRead⟩
    · exact metadata
    · exact ⟨url, found, urlText⟩
    · exact defaultBranch
    · exact commitSha
    · exact text
    · exact byteSize
    · exact entries
  · intro readable
    obtain ⟨languages, languagesRead⟩ :=
      (succeeds_readLanguages_iff runtime readable.dictionary).mpr readable.languages
    obtain ⟨topics, topicsRead, topicTexts⟩ :=
      (exists_readTopics_iff runtime readable.dictionary).mpr readable.topics
    obtain ⟨commits, commitsRead⟩ :=
      (succeeds_readCommits_iff runtime readable.commit).mpr readable.recentCommits
    obtain ⟨fields, fieldsRead, acceptedFields⟩ : ∃ fields,
        readMetadataFields runtime repository (runtime.commitOf repository) topics = .ok fields ∧
          (fields.accept runtime target.owner languages commits).isSome = true :=
      (exists_readMetadataFields_iff runtime readable.dictionary readable.commit).mpr
        ⟨readable.metadata, topicTexts⟩
    obtain ⟨url, found, urlText⟩ := readable.url
    exact ⟨readable.dictionary, readable.branch, readable.commit, readable.tree,
      readable.dictionary, readable.dictionary, languages, languagesRead, topics, topicsRead,
      commits, commitsRead, fields, fieldsRead, acceptedFields, url, found, readable.branch,
      readable.commit, readable.readme, readable.readme, readable.treeEntries, urlText,
      readable.defaultBranch, readable.commitSha, readable.readmeText, readable.readmeByteSize⟩

/-! ## Readable replies -/

/-- The first of the errors, if it is there, is a dictionary whose message can be
searched. -/
def ReadableErrors (errors : Json) : Prop :=
  ∃ first, errors.first = .ok first ∧ first.IsObject ∧
    Succeeds ((first.field "message" (.string "GitHub GraphQL query failed")).contains
      "Could not resolve to a Repository")

/-- The body is a dictionary.  Truthy errors are readable; without them the data,
if it is there, is a dictionary whose repository is null or readable. -/
def ReadableBody (maxTreeEntries : Int) (body : Json) : Prop :=
  let errors := body.field "errors" (.array [])
  let data := body.field "data" (.object [])
  let repository := data.field "repository" .null
  body.IsObject ∧
    (errors.truthy runtime.arithmetic = true → ReadableErrors errors) ∧
    (errors.truthy runtime.arithmetic = false →
      data.IsObject ∧ (repository = .null ∨ ReadableRepository runtime maxTreeEntries repository))

/-- The reply says that there is no such repository. -/
def reportsMissing (body : Json) : Bool :=
  let errors := body.field "errors" (.array [])
  let data := body.field "data" (.object [])
  if errors.truthy runtime.arithmetic then
    match readMessage errors with
    | .ok message =>
        match message.contains "Could not resolve to a Repository" with
        | .ok found => found
        | .error _ => false
    | .error _ => false
  else
    match data.field "repository" .null with
    | .null => true
    | _ => false

/-- A context, which the schemas accept by construction, or a `ResearchProblem`:
404 for a missing repository and 502 for a fault of the upstream. -/
def Mapped (body : Json) (result : Except Exn RepositoryRawContext) : Prop :=
  match result with
  | .ok _ => True
  | .error (.researchProblem problem) =>
      problem.statusCode = if reportsMissing runtime body then 404 else 502
  | .error _ => False

theorem readMessage_eq_ok_iff {errors message : Json} :
    readMessage errors = .ok message ↔ ∃ first, errors.first = .ok first ∧ first.IsObject ∧
      first.field "message" (.string "GitHub GraphQL query failed") = message := by
  simp only [readMessage, bind_eq_ok_iff, Json.get_eq_ok_iff]

theorem readableErrors_iff {errors : Json} :
    ReadableErrors errors ↔ ∃ message, readMessage errors = .ok message ∧
      Succeeds (message.contains "Could not resolve to a Repository") := by
  simp only [readMessage_eq_ok_iff, ReadableErrors]
  constructor
  · rintro ⟨first, found, dictionary, searched⟩
    exact ⟨_, ⟨first, found, dictionary, rfl⟩, searched⟩
  · rintro ⟨_, ⟨first, found, dictionary, rfl⟩, searched⟩
    exact ⟨first, found, dictionary, searched⟩

@[simp]
theorem escaping_ok {α : Type} (value : α) : escaping (.ok value) = .ok value :=
  rfl

@[simp]
theorem escaping_error {α : Type} (error : PyError) :
    (escaping (.error error) : Except Exn α) = .error (.other error.className error.message) :=
  rfl

theorem get_of_isObject {value : Json} (dictionary : value.IsObject) (key : String)
    (default : Json) :
    value.get key default = .ok (value.field key default) :=
  Json.get_eq_ok_iff.mpr ⟨dictionary, rfl⟩

theorem mapped_escaping_iff {body : Json} {computation : Except PyError RepositoryRawContext} :
    Mapped runtime body (escaping computation) ↔ Succeeds computation := by
  cases computation <;> simp [Mapped]

/-- With truthy errors the reply is a problem, if the first of them is readable. -/
theorem mapped_errors_iff {adapter : GitHubGraphQLAdapter} {target : ParsedRepoTarget}
    {body : Json}
    (dictionary : body.IsObject)
    (erroneous : (body.field "errors" (.array [])).truthy runtime.arithmetic = true) :
    Mapped runtime body (readBody runtime adapter target body) ↔
      ReadableErrors (body.field "errors" (.array [])) := by
  rw [readableErrors_iff]
  unfold readBody
  rw [get_of_isObject dictionary]
  cases read : readMessage (body.field "errors" (.array [])) with
  | error error => simp [erroneous, read, Mapped, bind, Except.bind]
  | ok message =>
      cases searched : message.contains "Could not resolve to a Repository" with
      | error error => simp [erroneous, read, searched, Mapped, bind, Except.bind]
      | ok found =>
          cases found
          · simp [erroneous, read, searched, Mapped, bind, Except.bind, throw, throwThe,
              MonadExceptOf.throw, reportsMissing, githubQueryFailed]
          · simp [erroneous, read, searched, Mapped, bind, Except.bind, throw, throwThe,
              MonadExceptOf.throw, reportsMissing, repositoryNotFound]

/-- Without errors it is the context of the repository, or a problem if that is
null. -/
theorem mapped_data_iff {adapter : GitHubGraphQLAdapter} {target : ParsedRepoTarget} {body : Json}
    (dictionary : body.IsObject)
    (faultless : (body.field "errors" (.array [])).truthy runtime.arithmetic = false) :
    Mapped runtime body (readBody runtime adapter target body) ↔
      (body.field "data" (.object [])).IsObject ∧
        ((body.field "data" (.object [])).field "repository" .null = .null ∨
          ReadableRepository runtime adapter.maxTreeEntries
            ((body.field "data" (.object [])).field "repository" .null)) := by
  have mapped : ∀ repository : Json, repository ≠ .null →
      (Mapped runtime body (match repository with
        | .null => throw (.researchProblem (repositoryNotFound target))
        | repository => escaping (readRepository runtime adapter target repository)) ↔
        ReadableRepository runtime adapter.maxTreeEntries repository) := by
    intro repository present
    have readable := @succeeds_readRepository_iff runtime adapter target repository
    rw [← readable, ← mapped_escaping_iff runtime]
    cases repository with
    | null => exact absurd rfl present
    | _ => rfl
  unfold readBody
  simp only [get_of_isObject dictionary]
  by_cases data : (body.field "data" (.object [])).IsObject
  · by_cases absent : (body.field "data" (.object [])).field "repository" .null = .null
    · simp [faultless, data, get_of_isObject data, absent, Mapped, bind, Except.bind,
        throw, throwThe, MonadExceptOf.throw, reportsMissing, repositoryNotFound]
    · have rest := mapped _ absent
      simpa [faultless, data, get_of_isObject data, absent, bind, Except.bind] using rest
  · have raised : ∃ error, (body.field "data" (.object [])).get "repository" .null =
        .error error := by
      rw [Json.get, if_neg data]
      exact ⟨_, rfl⟩
    obtain ⟨error, raised⟩ := raised
    simp [faultless, data, raised, Mapped, bind, Except.bind]

/-- A decoded body is mapped to a context or a problem exactly if it is readable. -/
theorem reply_mapped_iff (adapter : GitHubGraphQLAdapter) (target : ParsedRepoTarget)
    (configured : adapter.token ≠ "") (body : Json) :
    Mapped runtime body (adapter.fetchRepositoryContext runtime target (.decoded body)) ↔
      ReadableBody runtime adapter.maxTreeEntries body := by
  have unguarded : adapter.fetchRepositoryContext runtime target (.decoded body) =
      readBody runtime adapter target body := by
    unfold GitHubGraphQLAdapter.fetchRepositoryContext
    rw [if_neg configured]
  rw [unguarded, ReadableBody]
  by_cases dictionary : body.IsObject
  · by_cases erroneous : (body.field "errors" (.array [])).truthy runtime.arithmetic = true
    · rw [mapped_errors_iff runtime dictionary erroneous]
      simp [dictionary, erroneous]
    · have faultless := Bool.eq_false_iff.mpr erroneous
      rw [mapped_data_iff runtime dictionary faultless]
      simp [dictionary, faultless]
  · have raised : ∃ error, body.get "errors" (.array []) = .error error := by
      rw [Json.get, if_neg dictionary]
      exact ⟨_, rfl⟩
    obtain ⟨error, raised⟩ := raised
    unfold readBody
    rw [raised]
    simp [dictionary, Mapped, bind, Except.bind]

/-! ## The target of a context -/

/-- Every context that is read is that of the target. -/
def ReadsTarget (target : ParsedRepoTarget) (computation : Except PyError RepositoryRawContext) :
    Prop :=
  ∀ rawContext, computation = .ok rawContext → rawContext.target = target

theorem readsTarget_bind {α : Type} {target : ParsedRepoTarget} {computation : Except PyError α}
    {next : α → Except PyError RepositoryRawContext}
    (reads : ∀ value, ReadsTarget target (next value)) :
    ReadsTarget target (computation >>= next) := by
  intro rawContext read
  obtain ⟨value, -, read⟩ := bind_eq_ok_iff.mp read
  exact reads value rawContext read

theorem readsTarget_readRepository (adapter : GitHubGraphQLAdapter) (target : ParsedRepoTarget)
    (repository : Json) :
    ReadsTarget target (readRepository runtime adapter target repository) := by
  unfold readRepository
  repeat (apply readsTarget_bind; intro _)
  intro rawContext constructed
  simp only [construct_eq_ok_iff, Option.bind_eq_bind, Option.bind_eq_some_iff,
    Option.some.injEq] at constructed
  obtain ⟨_, -, _, -, _, -, _, -, _, -, rfl⟩ := constructed
  rfl

/-- A context that the adapter returns is that of the target it was asked for. -/
theorem target_of_fetchRepositoryContext {adapter : GitHubGraphQLAdapter}
    {target : ParsedRepoTarget} {reply : GitHubReply} {rawContext : RepositoryRawContext}
    (fetched : adapter.fetchRepositoryContext runtime target reply = .ok rawContext) :
    rawContext.target = target := by
  have escaped : ∀ {computation : Except PyError RepositoryRawContext},
      ReadsTarget target computation → escaping computation = .ok rawContext →
        rawContext.target = target := by
    intro computation reads read
    cases computation with
    | error error => cases read
    | ok value =>
        cases read
        exact reads _ rfl
  unfold GitHubGraphQLAdapter.fetchRepositoryContext readBody at fetched
  simp only [bind, Except.bind] at fetched
  repeat' split at fetched
  all_goals try cases fetched
  all_goals exact escaped (readsTarget_readRepository runtime adapter target _) fetched

end Mapping

/-! ## Sample replies -/

namespace GitHubSample

def runtime : Runtime where
  arithmetic := {
    isZero := (· == "0.0")
    isPositive := (· == "1.0")
    percentage := fun _ _ => pure ⟨"100.0", by simp⟩
  }
  pydantic := {
    integer := fun
      | .int number => some number
      | .bool flag => some (if flag then 1 else 0)
      | _ => none
    boolean := fun
      | .bool flag => some flag
      | _ => none
    datetime := fun
      | .string "2025-01-01T12:00:00Z" =>
          some { year := 2025, month := 1, day := 1, hour := 12, minute := 0, second := 0 }
      | _ => none
    report := fun model fields => toString fields.length ++ " validation errors for " ++ model
  }
  display := Json.typeName

def adapter : GitHubGraphQLAdapter where
  token := "token"
  maxTreeEntries := 100

def target : ParsedRepoTarget where
  owner := "acme"
  repo := "rocket"
  canonicalUrl := "https://github.com/acme/rocket"
  owner_minLength := by decide
  repo_minLength := by decide

/-- A repository with a language, a commit and the given topic nodes. -/
def repository (nodes : Json) : Json :=
  .object [
    ("nameWithOwner", .string "acme/rocket"),
    ("url", .string "https://github.com/acme/rocket"),
    ("stargazerCount", .int 1),
    ("languages", .object [
      ("totalSize", .int 64),
      ("edges",
        .array [.object [("size", .int 64), ("node", .object [("name", .string "Lean")])]])]),
    ("repositoryTopics", .object [("nodes", nodes)]),
    ("defaultBranchRef", .object [
      ("name", .string "main"),
      ("target", .object [
        ("oid", .string "c0ffee"),
        ("committedDate", .string "2025-01-01T12:00:00Z"),
        ("tree", .null)])])]

def reply (repository : Json) : Json :=
  .object [("data", .object [("repository", repository)])]

end GitHubSample

open GitHubSample in
/-- A readable reply, from which a context is made. -/
theorem reply_mapped_rocket :
    (adapter.fetchRepositoryContext runtime target
        (.decoded (reply (repository (.array []))))).toOption.isSome = true ∧
      ReadableBody runtime adapter.maxTreeEntries (reply (repository (.array []))) := by
  have mapped : Mapped runtime (reply (repository (.array [])))
      (adapter.fetchRepositoryContext runtime target
        (.decoded (reply (repository (.array []))))) :=
    trivial
  exact ⟨rfl, (reply_mapped_iff runtime adapter target (by decide) _).mp mapped⟩

open GitHubSample in
/-- Null data and null topic nodes raise exceptions of the interpreter. -/
theorem null_nodes_escape :
    adapter.fetchRepositoryContext runtime target (.decoded (.object [("data", .null)])) =
        .error (.other "AttributeError" "'NoneType' object has no attribute 'get'") ∧
      adapter.fetchRepositoryContext runtime target (.decoded (reply (repository .null))) =
        .error (.other "TypeError" "'NoneType' object is not iterable") ∧
      ¬ Mapped runtime (.object [("data", .null)])
        (adapter.fetchRepositoryContext runtime target (.decoded (.object [("data", .null)]))) ∧
      ¬ Mapped runtime (reply (repository .null))
        (adapter.fetchRepositoryContext runtime target (.decoded (reply (repository .null)))) := by
  have data :
      adapter.fetchRepositoryContext runtime target (.decoded (.object [("data", .null)])) =
      .error (.other "AttributeError" "'NoneType' object has no attribute 'get'") := by
    rfl
  have nodes :
      adapter.fetchRepositoryContext runtime target (.decoded (reply (repository .null))) =
      .error (.other "TypeError" "'NoneType' object is not iterable") := by
    rfl
  refine ⟨data, nodes, ?_, ?_⟩
  · rw [data]
    exact not_false
  · rw [nodes]
    exact not_false

end ResearchTool
