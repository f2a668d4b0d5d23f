import ResearchTool.ContextSanitizer
import ResearchTool.UrlValidator

/-!
# Canonical repository URLs

The API validates a URL and sends its canonical form to the worker, which
parses that form again.  Both name the same repository exactly when removing
the `.git` suffix once has left no `.git` suffix behind.
-/

namespace ResearchTool

open Python

/-! ## Segments -/

theorem subset_intercalate (separator : Text) {piece : Text} {pieces : List Text}
    (member : piece ∈ pieces) : piece ⊆ separator.intercalate pieces := by
  induction pieces with
  | nil => cases member
  | cons first rest ih =>
      cases rest with
      | nil =>
          rw [List.mem_singleton.mp member, List.intercalate_singleton]
          exact List.Subset.refl _
      | cons second others =>
          rw [List.intercalate_cons_cons]
          rcases List.mem_cons.mp member with rfl | later
          · intro c inside
            simp [inside]
          · intro c inside
            exact List.mem_append_right _ (ih later inside)

theorem subset_of_mem_pathSegments {path segment : Text} (member : segment ∈ pathSegments path) :
    segment ⊆ path := by
  have piece := (List.mem_filter.mp member).1
  intro c inside
  have stripped : c ∈ stripBy (· == '/') path := by
    have joined := subset_intercalate ['/'] piece inside
    rwa [List.intercalate_splitOn] at joined
  exact dropWhile_subset _ path (rdropWhile_subset _ _ stripped)

/-- A text without line breaks matches the slug expression if it consists of
slug characters. -/
theorem slugMatches_iff {text : Text} (oneLine : '\n' ∉ text) :
    slugMatches text = true ↔ text ≠ [] ∧ ∀ c ∈ text, isSlugChar c = true := by
  have last : text.getLast? ≠ some '\n' := fun ends => oneLine (List.mem_of_getLast? ends)
  simp [slugMatches, last]

/-- Slug characters are printable ASCII characters. -/
theorem toNat_of_slug {c : Char} (slug : isSlugChar c = true) : 45 ≤ c.toNat ∧ c.toNat ≤ 122 := by
  simp only [isSlugChar, isAsciiAlpha, isAsciiDigit, Char.le_def, UInt32.le_iff_toNat_le,
    Bool.or_eq_true, Bool.and_eq_true, decide_eq_true_eq, beq_iff_eq] at slug
  have value : c.toNat = c.val.toNat := rfl
  rcases slug with (((((letter | capital) | digit) | rfl) | rfl) | rfl)
  · simp at letter; omega
  · simp at capital; omega
  · simp at digit; omega
  · decide
  · decide
  · decide

theorem isSpace_of_slug {c : Char} (slug : isSlugChar c = true) : isSpace c = false := by
  obtain ⟨low, high⟩ := toNat_of_slug slug
  unfold isSpace
  simp only [Bool.or_eq_false_iff, Bool.and_eq_false_iff, decide_eq_false_iff_not,
    beq_eq_false_iff_ne]
  omega

/-! ## Parsing a canonical URL -/

/-- Scheme and authority of every canonical URL. -/
def siteRoot : Text :=
  "https://github.com".toList

def canonicalPath (owner repo : Text) : Text :=
  '/' :: (owner ++ '/' :: repo)

theorem siteRoot_slash : "https://github.com/".toList = siteRoot ++ ['/'] := by
  decide +kernel

theorem slash_toList : "/".toList = ['/'] := by
  decide +kernel

theorem toList_canonicalRepositoryUrl (owner repo : Text) :
    (canonicalRepositoryUrl (String.ofList owner) (String.ofList repo)).toList =
      siteRoot ++ canonicalPath owner repo := by
  unfold canonicalRepositoryUrl
  simp only [String.toList_append, String.toList_ofList]
  rw [siteRoot_slash, slash_toList]
  simp [canonicalPath]

theorem mem_canonicalPath {owner repo : Text} (ownerSlug : ∀ c ∈ owner, isSlugChar c = true)
    (repoSlug : ∀ c ∈ repo, isSlugChar c = true) {c : Char}
    (member : c ∈ canonicalPath owner repo) :
    c = '/' ∨ isSlugChar c = true := by
  simp only [canonicalPath, List.mem_cons, List.mem_append] at member
  rcases member with rfl | inside | rfl | inside
  · exact .inl rfl
  · exact .inr (ownerSlug c inside)
  · exact .inl rfl
  · exact .inr (repoSlug c inside)

section

variable {owner repo : Text} (ownerSlug : ∀ c ∈ owner, isSlugChar c = true)
  (repoSlug : ∀ c ∈ repo, isSlugChar c = true) (ownerNamed : owner ≠ []) (repoNamed : repo ≠ [])

include ownerSlug repoSlug

/-- A path of slugs has no delimiter in it. -/
theorem not_mem_canonicalPath {c : Char} (special : c ≠ '/') (foreign : isSlugChar c = false) :
    c ∉ canonicalPath owner repo := by
  intro member
  rcases mem_canonicalPath ownerSlug repoSlug member with same | slug
  · exact special same
  · rw [foreign] at slug
    cases slug

/-- Nothing is removed from a canonical URL. -/
theorem cleanUrl_canonical :
    cleanUrl (siteRoot ++ canonicalPath owner repo) = siteRoot ++ canonicalPath owner repo := by
  have kept : ∀ c ∈ siteRoot ++ canonicalPath owner repo, (!isUnsafeUrlByte c) = true := by
    intro c member
    rcases List.mem_append.mp member with host | path
    · have all : siteRoot.all (fun c => !isUnsafeUrlByte c) = true := by decide +kernel
      exact List.all_eq_true.mp all c host
    · have absent : ∀ other, other ≠ '/' → isSlugChar other = false → c ≠ other :=
        fun other special foreign same =>
          not_mem_canonicalPath ownerSlug repoSlug special foreign (same ▸ path)
      simp [isUnsafeUrlByte, absent '\t' (by decide) (by decide),
        absent '\r' (by decide) (by decide), absent '\n' (by decide) (by decide)]
  exact List.filter_eq_self.mpr kept

/-- A canonical URL is split into exactly its parts. -/
theorem urlparse_canonical (lib : UrlLibrary) :
    urlparse lib (siteRoot ++ canonicalPath owner repo) = .ok {
      scheme := "https".toList
      netloc := "github.com".toList
      path := canonicalPath owner repo
      params := []
      query := []
      fragment := []
    } := by
  have scheme : splitScheme (siteRoot ++ canonicalPath owner repo) =
      ("https".toList, "//github.com".toList ++ canonicalPath owner repo) := rfl
  have netloc : splitNetloc ("//github.com".toList ++ canonicalPath owner repo) =
      ("github.com".toList, canonicalPath owner repo) := rfl
  have brackets : checkBrackets lib "github.com".toList = .ok () := rfl
  have host : checkNetloc lib "github.com".toList = .ok () := rfl
  have absent : ∀ c, c ≠ '/' → isSlugChar c = false → c ∉ canonicalPath owner repo :=
    fun c => not_mem_canonicalPath ownerSlug repoSlug
  have fragment := partitionAt_of_not_mem (absent '#' (by decide) (by decide))
  have query := partitionAt_of_not_mem (absent '?' (by decide) (by decide))
  have params := splitParams_of_not_mem (absent ';' (by decide) (by decide))
  simp only [urlparse, cleanUrl_canonical ownerSlug repoSlug, scheme, netloc, brackets, host,
    fragment, query, params, bind, Except.bind]
  rfl

omit ownerSlug in
include repoNamed in
theorem strip_canonical :
    strip (siteRoot ++ canonicalPath owner repo) = siteRoot ++ canonicalPath owner repo := by
  refine stripBy_eq_self (by decide) ?_
  have last : repo.getLast repoNamed ∈ repo := List.getLast_mem repoNamed
  simpa [canonicalPath, List.getLast_append_of_ne_nil, repoNamed] using
    isSpace_of_slug (repoSlug _ last)

include ownerNamed repoNamed in
theorem pathSegments_canonical : pathSegments (canonicalPath owner repo) = [owner, repo] := by
  have ownerWhole : '/' ∉ owner := fun member => by cases ownerSlug _ member
  have repoWhole : '/' ∉ repo := fun member => by cases repoSlug _ member
  have last : repo.getLast repoNamed ≠ '/' :=
    fun same => repoWhole (same ▸ List.getLast_mem repoNamed)
  have stripped : stripBy (· == '/') (canonicalPath owner repo) = owner ++ '/' :: repo := by
    obtain ⟨first, rest, rfl⟩ := List.exists_cons_of_ne_nil ownerNamed
    have start : first ≠ '/' := fun same => ownerWhole (same ▸ List.mem_cons_self)
    have dropped : (canonicalPath (first :: rest) repo).dropWhile (· == '/') =
        first :: rest ++ '/' :: repo := by
      simp [canonicalPath, start]
    rw [stripBy, dropped, List.rdropWhile_eq_self_iff]
    intro _
    simpa [List.getLast_append_of_ne_nil, repoNamed] using last
  rw [pathSegments, stripped, List.splitOn_append_cons_self_of_not_mem ownerWhole,
    List.splitOn_eq_singleton repoWhole]
  simp [ownerNamed, repoNamed]

include ownerNamed repoNamed in
/-- Parsing a canonical URL looks at the owner and the name it was made of. -/
theorem parseGithubRepositoryUrl_canonical (lib : UrlLibrary) :
    parseGithubRepositoryUrl lib
      (canonicalRepositoryUrl (String.ofList owner) (String.ofList repo)) =
      parseSegments owner repo := by
  rw [parseGithubRepositoryUrl, toList_canonicalRepositoryUrl,
    strip_canonical repoSlug repoNamed, urlparse_canonical ownerSlug repoSlug]
  have root : ∀ path params query fragment, isGithubRoot
      { scheme := "https".toList, netloc := "github.com".toList, path, params, query, fragment } =
        true := fun _ _ _ _ => rfl
  simp only [root, if_true, pathSegments_canonical ownerSlug repoSlug ownerNamed repoNamed]

end

/-! ## Fixed points -/

/-- The path segment that names the repository in a URL. -/
def repositorySegment (lib : UrlLibrary) (url : String) : Option Text :=
  match urlparse lib (strip url.toList) with
  | .ok parsed => (pathSegments parsed.path)[1]?
  | .error _ => none

/-- `.git` twice. -/
def doubleGitSuffix : Text :=
  gitSuffix ++ gitSuffix

/-- The repository segment of the URL ends in `.git.git`. -/
def endsInDoubleGit (lib : UrlLibrary) (url : String) : Bool :=
  (repositorySegment lib url).any fun segment => doubleGitSuffix.isSuffixOf segment

theorem gitSuffix_suffix_removeSuffix_iff (segment : Text) :
    gitSuffix <:+ removeSuffix gitSuffix segment ↔ doubleGitSuffix <:+ segment := by
  constructor
  · intro left
    by_cases ends : gitSuffix <:+ segment
    · obtain ⟨once, rfl⟩ := ends
      rw [removeSuffix_of_append] at left
      obtain ⟨twice, rfl⟩ := left
      exact ⟨twice, (List.append_assoc _ _ _).symm⟩
    · rw [(removeSuffix_eq_self_iff (by decide)).mpr ends] at left
      exact absurd left ends
  · rintro ⟨rest, rfl⟩
    rw [doubleGitSuffix, ← List.append_assoc, removeSuffix_of_append]
    exact List.suffix_append _ _

/-- What the two segments of an accepted URL look like. -/
structure AcceptedSegments (owner segment : Text) (target : ParsedRepoTarget) : Prop where
  unreserved : reservedOwners.contains owner = false
  ownerSlug : slugMatches owner = true
  repoSlug : slugMatches (removeSuffix gitSuffix segment) = true
  owner : target.owner = String.ofList owner
  repo : target.repo = String.ofList (removeSuffix gitSuffix segment)
  canonicalUrl : target.canonicalUrl = canonicalRepositoryUrl target.owner target.repo

theorem acceptedSegments_of_parseSegments {owner segment : Text} {target : ParsedRepoTarget}
    (accepted : parseSegments owner segment = .ok target) :
    AcceptedSegments owner segment target := by
  unfold parseSegments at accepted
  split at accepted
  · cases accepted
  rename_i unreserved
  dsimp only at accepted
  split at accepted
  · split at accepted
    · rename_i slugs
      rw [Bool.and_eq_true] at slugs
      cases accepted
      exact ⟨by simpa using unreserved, slugs.1, slugs.2, rfl, rfl, rfl⟩
    · cases accepted
  · cases accepted

/-- An accepted URL has exactly two segments, without line breaks. -/
theorem segments_of_parse {lib : UrlLibrary} {url : String} {target : ParsedRepoTarget}
    (accepted : parseGithubRepositoryUrl lib url = .ok target) :
    ∃ owner segment, repositorySegment lib url = some segment ∧
      parseSegments owner segment = .ok target ∧ '\n' ∉ owner ∧ '\n' ∉ segment := by
  unfold parseGithubRepositoryUrl at accepted
  split at accepted
  · cases accepted
  · rename_i parsed split
    split at accepted
    · split at accepted
      · rename_i owner segment segments
        have inPath : ∀ piece ∈ pathSegments parsed.path, '\n' ∉ piece :=
          fun piece member inside =>
          newline_not_mem_path split (subset_of_mem_pathSegments member inside)
        refine ⟨owner, segment, ?_, accepted, inPath owner ?_, inPath segment ?_⟩
        · simp [repositorySegment, split, segments]
        · simp [segments]
        · simp [segments]
      · cases accepted
    · cases accepted

/-- Only what is left of the segment without its suffix matters. -/
theorem parseSegments_congr {owner segment other : Text}
    (same : removeSuffix gitSuffix segment = removeSuffix gitSuffix other) :
    parseSegments owner segment = parseSegments owner other := by
  simp only [parseSegments, same]

/-- The name of a repository parsed twice is the name parsed once if there was
no second suffix to remove. -/
theorem repo_parsed_again_iff {owner segment : Text} {target again : ParsedRepoTarget}
    (once : AcceptedSegments owner segment target)
    (twice : AcceptedSegments owner (removeSuffix gitSuffix segment) again) :
    again.repo = target.repo ↔ ¬ doubleGitSuffix <:+ segment := by
  rw [once.repo, twice.repo, String.ofList_inj, removeSuffix_eq_self_iff (by decide),
    gitSuffix_suffix_removeSuffix_iff]

theorem parse_canonicalUrl {lib : UrlLibrary} {owner segment : Text} {target : ParsedRepoTarget}
    (accepted : AcceptedSegments owner segment target) (ownerLine : '\n' ∉ owner)
    (segmentLine : '\n' ∉ segment) :
    parseGithubRepositoryUrl lib target.canonicalUrl =
      parseSegments owner (removeSuffix gitSuffix segment) := by
  have repoLine : '\n' ∉ removeSuffix gitSuffix segment :=
    fun member => segmentLine (removeSuffix_subset _ _ member)
  obtain ⟨ownerNamed, ownerSlug⟩ := (slugMatches_iff ownerLine).mp accepted.ownerSlug
  obtain ⟨repoNamed, repoSlug⟩ := (slugMatches_iff repoLine).mp accepted.repoSlug
  rw [accepted.canonicalUrl, accepted.owner, accepted.repo]
  exact parseGithubRepositoryUrl_canonical ownerSlug repoSlug ownerNamed repoNamed lib

theorem buildAiCacheKey_repo_injective {owner repo other commitSha : String}
    (same : buildAiCacheKey owner repo commitSha = buildAiCacheKey owner other commitSha) :
    repo = other := by
  have lists := congrArg String.toList same
  simpa [buildAiCacheKey, String.toList_append, String.toList_inj] using lists

/-- A canonical URL is parsed to the target that it is of, if the segment had one
suffix at most. -/
theorem parse_canonicalUrl_of_single {lib : UrlLibrary} {url : String} {target : ParsedRepoTarget}
    (accepted : parseGithubRepositoryUrl lib url = .ok target)
    (single : endsInDoubleGit lib url = false) :
    parseGithubRepositoryUrl lib target.canonicalUrl = .ok target := by
  obtain ⟨owner, segment, named, parsed, ownerLine, segmentLine⟩ := segments_of_parse accepted
  have once := acceptedSegments_of_parseSegments parsed
  have single : ¬ doubleGitSuffix <:+ segment := by
    simpa [endsInDoubleGit, named, ← Bool.not_eq_true] using single
  rw [← gitSuffix_suffix_removeSuffix_iff] at single
  rw [parse_canonicalUrl once ownerLine segmentLine, ← parsed]
  exact parseSegments_congr ((removeSuffix_eq_self_iff (by decide)).mpr single)

/-- For every accepted URL, the worker parses the canonical URL to the very
target the API has stored, and derives the same AI cache key for every commit,
if and only if the repository segment of the URL does not end in `.git.git`. -/
theorem canonical_url_reparsed_iff {lib : UrlLibrary} {url : String} {target : ParsedRepoTarget}
    (accepted : parseGithubRepositoryUrl lib url = .ok target) :
    (parseGithubRepositoryUrl lib target.canonicalUrl = .ok target ↔
      endsInDoubleGit lib url = false) ∧
    ∀ commitSha,
      (∃ again, parseGithubRepositoryUrl lib target.canonicalUrl = .ok again ∧
        buildAiCacheKey again.owner again.repo commitSha =
          buildAiCacheKey target.owner target.repo commitSha) ↔
            endsInDoubleGit lib url = false := by
  obtain ⟨owner, segment, named, parsed, ownerLine, segmentLine⟩ := segments_of_parse accepted
  have once := acceptedSegments_of_parseSegments parsed
  have ends : endsInDoubleGit lib url = false ↔ ¬ doubleGitSuffix <:+ segment := by
    simp [endsInDoubleGit, named, ← Bool.not_eq_true]
  have fixed : ¬ doubleGitSuffix <:+ segment →
      parseGithubRepositoryUrl lib target.canonicalUrl = .ok target :=
    fun single => parse_canonicalUrl_of_single accepted (ends.mpr single)
  rw [ends]
  refine ⟨⟨fun reparsed => ?_, fixed⟩, fun commitSha => ⟨?_, fun single => ?_⟩⟩
  · rw [parse_canonicalUrl once ownerLine segmentLine] at reparsed
    exact (repo_parsed_again_iff once (acceptedSegments_of_parseSegments reparsed)).mp rfl
  · rintro ⟨again, reparsed, sameKey⟩
    rw [parse_canonicalUrl once ownerLine segmentLine] at reparsed
    have twice := acceptedSegments_of_parseSegments reparsed
    rw [twice.owner, once.owner] at sameKey
    exact (repo_parsed_again_iff once twice).mp (buildAiCacheKey_repo_injective sameKey)
  · exact ⟨target, fixed single, rfl⟩

theorem demoOwner_ne : "octo" ≠ "" := by
  decide

theorem demoRepo_ne : "demo" ≠ "" := by
  decide

def demoTarget : ParsedRepoTarget where
  owner := "octo"
  repo := "demo"
  canonicalUrl := "https://github.com/octo/demo"
  owner_minLength := demoOwner_ne
  repo_minLength := demoRepo_ne

/-- One suffix is removed for good. -/
theorem canonical_url_reparsed_single :
    parseGithubRepositoryUrl asciiLibrary "https://github.com/octo/demo.git" = .ok demoTarget ∧
      parseGithubRepositoryUrl asciiLibrary demoTarget.canonicalUrl = .ok demoTarget :=
  ⟨by decide +kernel, (canonical_url_reparsed_iff (by decide +kernel :
    parseGithubRepositoryUrl asciiLibrary "https://github.com/octo/demo.git" =
      .ok demoTarget)).1.mpr (by decide +kernel)⟩

/-- A repository whose name ends in `.git` is accepted with two suffixes, and
the worker then parses the name of another repository. -/
theorem canonical_url_not_fixed :
    ∃ target, parseGithubRepositoryUrl asciiLibrary "https://github.com/octo/demo.git.git" =
        .ok target ∧ target.repo = "demo.git" ∧
      parseGithubRepositoryUrl asciiLibrary target.canonicalUrl = .ok demoTarget ∧
      demoTarget ≠ target :=
  ⟨{ demoTarget with
      repo := "demo.git"
      canonicalUrl := "https://github.com/octo/demo.git"
      repo_minLength := by decide }, by decide +kernel, rfl, by decide +kernel, by decide⟩

end ResearchTool
