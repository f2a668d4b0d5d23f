import ResearchTool.Canonical
import ResearchTool.Router

/-!
# Spellings of a repository URL

A repository URL may be written with other white space, letters, slashes and
tails than its canonical form.  The parser undoes each of these in turn, and
rejects every URL whose authority or whose number of segments is another one.
The URL splitter in front of it raises on some authorities.
-/

namespace ResearchTool

open Python Process

/-! ## Segments of a path -/

/-- The non-empty parts of a path between its slashes. -/
def nonemptySegments (path : Text) : List Text :=
  (path.splitOn '/').filter fun segment => !segment.isEmpty

@[simp]
theorem nonemptySegments_nil : nonemptySegments [] = [] :=
  rfl

theorem nonemptySegments_append (path rest : Text) :
    nonemptySegments (path ++ '/' :: rest) = nonemptySegments path ++ nonemptySegments rest := by
  rw [nonemptySegments, List.splitOn_append_cons_self, List.filter_append]
  rfl

@[simp]
theorem nonemptySegments_cons (rest : Text) :
    nonemptySegments ('/' :: rest) = nonemptySegments rest :=
  nonemptySegments_append [] rest

@[simp]
theorem nonemptySegments_concat (path : Text) :
    nonemptySegments (path ++ ['/']) = nonemptySegments path := by
  rw [nonemptySegments_append, nonemptySegments_nil, List.append_nil]

theorem nonemptySegments_single {segment : Text} (named : segment ≠ []) (whole : '/' ∉ segment) :
    nonemptySegments segment = [segment] := by
  rw [nonemptySegments, List.splitOn_eq_singleton whole]
  simp [named]

theorem nonemptySegments_replicate_append (count : Nat) (path : Text) :
    nonemptySegments (List.replicate count '/' ++ path) = nonemptySegments path := by
  induction count with
  | zero => rfl
  | succ count ih => rw [List.replicate_succ, List.cons_append, nonemptySegments_cons, ih]

theorem nonemptySegments_append_replicate (path : Text) (count : Nat) :
    nonemptySegments (path ++ List.replicate count '/') = nonemptySegments path := by
  cases count with
  | zero => rw [List.replicate_zero, List.append_nil]
  | succ count =>
      have slashes := nonemptySegments_replicate_append count []
      rw [List.append_nil, nonemptySegments_nil] at slashes
      rw [List.replicate_succ, nonemptySegments_append, slashes, List.append_nil]

theorem nonemptySegments_dropWhile (path : Text) :
    nonemptySegments (path.dropWhile (· == '/')) = nonemptySegments path := by
  induction path with
  | nil => rfl
  | cons c rest ih =>
      by_cases slash : c = '/'
      · subst slash
        rw [List.dropWhile_cons_of_pos (by rfl), nonemptySegments_cons, ih]
      · rw [List.dropWhile_cons_of_neg (by simpa using slash)]

theorem nonemptySegments_rdropWhile (path : Text) :
    nonemptySegments (path.rdropWhile (· == '/')) = nonemptySegments path := by
  induction path using List.reverseRecOn with
  | nil => rfl
  | append_singleton rest c ih =>
      by_cases slash : c = '/'
      · subst slash
        rw [List.rdropWhile_concat_pos _ _ _ (by rfl), nonemptySegments_concat, ih]
      · rw [List.rdropWhile_concat_neg _ _ _ (by simpa using slash)]

/-- Stripping the slashes at both ends changes no segment. -/
theorem pathSegments_eq (path : Text) : pathSegments path = nonemptySegments path := by
  have stripped : pathSegments path = nonemptySegments (stripBy (· == '/') path) := rfl
  rw [stripped, stripBy, nonemptySegments_rdropWhile, nonemptySegments_dropWhile]

/-! ## Spellings -/

/-- The choices in writing the URL of a repository. -/
structure Spelling where
  before : Text := []
  after : Text := []
  scheme : Text := "https".toList
  www : Bool := false
  /-- slashes before the owner and before the name, besides the first ones -/
  leading : Nat := 0
  middle : Nat := 0
  suffixed : Bool := false
  trailing : Nat := 0
  query : Option Text := none
  fragment : Option Text := none
  before_isSpace : ∀ c ∈ before, isSpace c = true
  after_isSpace : ∀ c ∈ after, isSpace c = true
  scheme_lower : scheme.map asciiLower = "https".toList

namespace Spelling

variable (spelling : Spelling)

def host : Text :=
  if spelling.www then "www.github.com".toList else "github.com".toList

/-- The last segment: the name with or without the suffix. -/
def segment (repo : Text) : Text :=
  if spelling.suffixed then repo ++ gitSuffix else repo

def path (owner repo : Text) : Text :=
  List.replicate (spelling.leading + 1) '/' ++
    (owner ++ (List.replicate (spelling.middle + 1) '/' ++
      (spelling.segment repo ++ List.replicate spelling.trailing '/')))

/-- Query and fragment. -/
def tail : Text :=
  (spelling.query.map ('?' :: ·)).getD [] ++ (spelling.fragment.map ('#' :: ·)).getD []

def url (owner repo : Text) : Text :=
  spelling.before ++ (spelling.scheme ++ ("://".toList ++ (spelling.host ++
    (spelling.path owner repo ++ spelling.tail)))) ++ spelling.after

end Spelling

/-- A path is followed by nothing, a query or a fragment. -/
def IsUrlTail (tail : Text) : Prop :=
  ∀ c ∈ tail.head?, c = '?' ∨ c = '#'

theorem Spelling.isUrlTail (spelling : Spelling) : IsUrlTail spelling.tail := by
  unfold IsUrlTail tail
  cases spelling.query <;> cases spelling.fragment <;> simp

/-- White space at the end of a query or fragment may be stripped. -/
theorem isUrlTail_rdropWhile {tail after : Text} (isTail : IsUrlTail tail)
    (space : ∀ c ∈ after, isSpace c = true) : IsUrlTail ((tail ++ after).rdropWhile isSpace) := by
  cases tail with
  | nil =>
      rw [List.nil_append, List.rdropWhile_eq_nil_iff.mpr space]
      exact fun c member => by cases member
  | cons first rest =>
      have mark := isTail first rfl
      have kept : isSpace first = false := by rcases mark with rfl | rfl <;> rfl
      obtain ⟨more, same⟩ := append_prefix_rdropWhile [] (rest ++ after) kept
      intro c member
      rw [List.cons_append, ← List.nil_append (first :: (rest ++ after)), ← same] at member
      cases member
      exact mark

theorem isUrlTail_filter {tail : Text} (isTail : IsUrlTail tail) :
    IsUrlTail (tail.filter fun c => !isUnsafeUrlByte c) := by
  cases tail with
  | nil => exact isTail
  | cons first rest =>
      have mark := isTail first rfl
      have kept : (!isUnsafeUrlByte first) = true := by rcases mark with rfl | rfl <;> rfl
      simp only [List.filter_cons, kept, if_true]
      intro c member
      cases member
      exact mark

/-- The path ends where the query or the fragment begins. -/
theorem partitionAt_path {path tail : Text} (isTail : IsUrlTail tail) (noQuery : '?' ∉ path)
    (noFragment : '#' ∉ path) :
    (partitionAt '?' (partitionAt '#' (path ++ tail)).1).1 = path := by
  have stops : ∀ (mark : Char) (rest : Text), mark ∉ path →
      (path ++ mark :: rest).takeWhile (· != mark) = path := by
    intro mark rest absent
    rw [List.takeWhile_append_of_pos]
    · simp
    · intro c member
      rw [bne_iff_ne]
      rintro rfl
      exact absent member
  cases tail with
  | nil => rw [List.append_nil, partitionAt_of_not_mem noFragment, partitionAt_of_not_mem noQuery]
  | cons mark rest =>
      rcases isTail mark rfl with rfl | rfl
      · have before : (partitionAt '#' (path ++ '?' :: rest)).1 =
            path ++ '?' :: rest.takeWhile (· != '#') := by
          rw [partitionAt, List.takeWhile_append_of_pos]
          · rfl
          · intro c member
            rw [bne_iff_ne]
            rintro rfl
            exact noFragment member
        rw [before]
        exact stops '?' _ noQuery
      · have before : (partitionAt '#' (path ++ '#' :: rest)).1 = path := stops '#' rest noFragment
        rw [before, partitionAt_of_not_mem noQuery]

/-! ## Parsing a spelling -/

/-- A scheme that is `https` in some letter case has only letters. -/
theorem isAsciiAlpha_of_asciiLower {c : Char} (lower : asciiLower c ∈ "https".toList) :
    isAsciiAlpha c = true := by
  unfold asciiLower at lower
  split at lower
  · next capital =>
      rw [isAsciiAlpha, capital, Bool.or_true]
  · have letters : ∀ d ∈ "https".toList, isAsciiAlpha d = true := by decide
    exact letters c lower

theorem isSpace_of_isAsciiAlpha {c : Char} (letter : isAsciiAlpha c = true) :
    isSpace c = false := by
  apply isSpace_of_slug
  simp [isSlugChar, letter]

/-- The end of a text that is kept protects what is before it. -/
theorem rdropWhile_append_of_concat {drop : Char → Bool} (start : Text) {c : Char} (rest : Text)
    (keep : drop c = false) :
    (start ++ [c] ++ rest).rdropWhile drop = start ++ [c] ++ rest.rdropWhile drop := by
  induction rest using List.reverseRecOn with
  | nil =>
      rw [List.append_nil, List.rdropWhile_concat_neg _ _ _ (by simp [keep])]
      simp
  | append_singleton rest last ih =>
      rw [← List.append_assoc]
      by_cases dropped : drop last
      · rw [List.rdropWhile_concat_pos _ _ _ dropped, ih, List.rdropWhile_concat_pos _ _ _ dropped]
      · rw [List.rdropWhile_concat_neg _ _ _ dropped, List.rdropWhile_concat_neg _ _ _ dropped,
          List.append_assoc]

section

variable {owner repo : Text} (ownerSlug : ∀ c ∈ owner, isSlugChar c = true)
  (repoSlug : ∀ c ∈ repo, isSlugChar c = true) (repoNamed : repo ≠ []) (spelling : Spelling)

theorem scheme_isAsciiAlpha {c : Char} (member : c ∈ spelling.scheme) : isAsciiAlpha c = true := by
  apply isAsciiAlpha_of_asciiLower
  rw [← spelling.scheme_lower]
  exact List.mem_map_of_mem member

theorem exists_scheme : ∃ first rest, spelling.scheme = first :: rest := by
  cases same : spelling.scheme with
  | nil =>
      have lower := spelling.scheme_lower
      rw [same] at lower
      cases lower
  | cons first rest => exact ⟨first, rest, rfl⟩

include repoSlug

theorem slug_of_mem_segment {c : Char} (member : c ∈ spelling.segment repo) :
    isSlugChar c = true := by
  have suffix : ∀ d ∈ gitSuffix, isSlugChar d = true := by decide
  unfold Spelling.segment at member
  split at member
  · rcases List.mem_append.mp member with inside | ending
    · exact repoSlug c inside
    · exact suffix c ending
  · exact repoSlug c member

include ownerSlug

theorem mem_path {c : Char} (member : c ∈ spelling.path owner repo) :
    c = '/' ∨ isSlugChar c = true := by
  simp only [Spelling.path, List.mem_append, List.mem_replicate] at member
  rcases member with slash | inside | slash | inside | slash
  · exact .inl slash.2
  · exact .inr (ownerSlug c inside)
  · exact .inl slash.2
  · exact .inr (slug_of_mem_segment repoSlug spelling inside)
  · exact .inl slash.2

theorem not_mem_path {c : Char} (special : c ≠ '/') (foreign : isSlugChar c = false) :
    c ∉ spelling.path owner repo := by
  intro member
  rcases mem_path ownerSlug repoSlug spelling member with same | slug
  · exact special same
  · rw [foreign] at slug
    cases slug

theorem isSpace_of_mem_path {c : Char} (member : c ∈ spelling.path owner repo) :
    isSpace c = false := by
  rcases mem_path ownerSlug repoSlug spelling member with rfl | slug
  · rfl
  · exact isSpace_of_slug slug

omit ownerSlug repoSlug in
theorem path_ne_nil : spelling.path owner repo ≠ [] := by
  simp [Spelling.path, List.replicate_succ]

/-- Stripping stops at the scheme and at the path. -/
theorem strip_url :
    ∃ tail, IsUrlTail tail ∧ strip (spelling.url owner repo) =
      spelling.scheme ++
        ("://".toList ++ (spelling.host ++ (spelling.path owner repo ++ tail))) := by
  refine ⟨_, isUrlTail_rdropWhile spelling.isUrlTail spelling.after_isSpace, ?_⟩
  obtain ⟨first, rest, scheme⟩ := exists_scheme spelling
  have letter :=
    scheme_isAsciiAlpha spelling (scheme ▸ List.mem_cons_self : first ∈ spelling.scheme)
  have started : (spelling.url owner repo).dropWhile isSpace =
      spelling.scheme ++ ("://".toList ++ (spelling.host ++
        (spelling.path owner repo ++ spelling.tail))) ++ spelling.after := by
    rw [Spelling.url, List.append_assoc, List.dropWhile_append_of_pos spelling.before_isSpace,
      scheme, List.cons_append, List.cons_append,
      List.dropWhile_cons_of_neg (by simp [isSpace_of_isAsciiAlpha letter])]
  have nonempty : spelling.path owner repo ≠ [] := path_ne_nil spelling
  have ending := (List.dropLast_append_getLast nonempty).symm
  have kept := isSpace_of_mem_path ownerSlug repoSlug spelling (List.getLast_mem nonempty)
  rw [strip, stripBy, started, ending]
  have regroup : ∀ path last more : Text,
      spelling.scheme ++ ("://".toList ++ (spelling.host ++ (path ++ last ++ more))) =
        (spelling.scheme ++ ("://".toList ++ (spelling.host ++ path))) ++ last ++ more := by
    intro path last more
    simp only [List.append_assoc]
  rw [regroup, List.append_assoc _ spelling.tail, rdropWhile_append_of_concat _ _ kept, regroup]

omit ownerSlug repoSlug in
theorem slug_of_mem_host {c : Char} (member : c ∈ spelling.host) : isSlugChar c = true := by
  have plain : ∀ d ∈ "github.com".toList, isSlugChar d = true := by decide
  have prefixed : ∀ d ∈ "www.github.com".toList, isSlugChar d = true := by decide
  unfold Spelling.host at member
  split at member
  · exact prefixed c member
  · exact plain c member

/-- Cleaning touches nothing before the query. -/
theorem cleanUrl_spelled (tail : Text) :
    cleanUrl (spelling.scheme ++ ("://".toList ++ (spelling.host ++
        (spelling.path owner repo ++ tail)))) =
      spelling.scheme ++ ("://".toList ++ (spelling.host ++
        (spelling.path owner repo ++ tail.filter fun c => !isUnsafeUrlByte c))) := by
  have kept : ∀ text : Text, (∀ c ∈ text, isSlugChar c = true ∨ c = '/' ∨ c = ':') →
      text.filter (fun c => !isUnsafeUrlByte c) = text := by
    intro text plain
    apply List.filter_eq_self.mpr
    intro c member
    rcases plain c member with slug | rfl | rfl
    · have printed := toNat_of_slug slug
      simp only [isUnsafeUrlByte, Bool.not_eq_true', Bool.or_eq_false_iff, beq_eq_false_iff_ne]
      refine ⟨⟨?_, ?_⟩, ?_⟩ <;> rintro rfl <;> exact absurd printed.1 (by decide)
    · rfl
    · rfl
  have slugOfAlpha : ∀ c, isAsciiAlpha c = true → isSlugChar c = true := by
    intro c letter
    simp [isSlugChar, letter]
  have scheme := kept spelling.scheme fun c member =>
    .inl (slugOfAlpha c (scheme_isAsciiAlpha spelling member))
  have marks := kept "://".toList (by decide)
  have host := kept spelling.host fun c member => .inl (slug_of_mem_host spelling member)
  have path := kept (spelling.path owner repo) fun c member => by
    rcases mem_path ownerSlug repoSlug spelling member with slash | slug
    · exact .inr (.inl slash)
    · exact .inl slug
  obtain ⟨first, rest, named⟩ := exists_scheme spelling
  have letter :=
    scheme_isAsciiAlpha spelling (named ▸ List.mem_cons_self : first ∈ spelling.scheme)
  have printed := toNat_of_slug (slugOfAlpha first letter)
  have started : isC0ControlOrSpace first = false := by
    simp only [isC0ControlOrSpace, decide_eq_false_iff_not]
    omega
  rw [cleanUrl, named, List.cons_append, List.dropWhile_cons_of_neg (by simp [started]),
    ← List.cons_append, ← named]
  simp only [List.filter_append, scheme, marks, host, path]

omit ownerSlug repoSlug in
theorem splitScheme_spelled (rest : Text) :
    splitScheme (spelling.scheme ++ ("://".toList ++ rest)) =
      ("https".toList, '/' :: '/' :: rest) := by
  have letters : ∀ c ∈ spelling.scheme, (c != ':') = true := by
    intro c member
    have letter := scheme_isAsciiAlpha spelling member
    rw [bne_iff_ne]
    rintro rfl
    cases letter
  have marks : "://".toList ++ rest = ':' :: '/' :: '/' :: rest := rfl
  obtain ⟨first, more, named⟩ := exists_scheme spelling
  have before : (spelling.scheme ++ ("://".toList ++ rest)).takeWhile (· != ':') =
      first :: more := by
    rw [List.takeWhile_append_of_pos letters, marks, ← named]
    simp
  have after : (spelling.scheme ++ ("://".toList ++ rest)).dropWhile (· != ':') =
      ':' :: '/' :: '/' :: rest := by
    rw [List.dropWhile_append_of_pos letters, marks]
    simp
  have allowed : (isAsciiAlpha first && (first :: more).all isSchemeChar) = true := by
    rw [Bool.and_eq_true, List.all_eq_true, ← named]
    constructor
    · exact scheme_isAsciiAlpha spelling (named ▸ List.mem_cons_self)
    · intro c member
      simp [isSchemeChar, scheme_isAsciiAlpha spelling member]
  have lower := spelling.scheme_lower
  rw [named] at lower
  unfold splitScheme
  rw [before, after]
  simp only [allowed, if_true, lower]

omit ownerSlug repoSlug in
theorem splitNetloc_spelled (rest : Text) :
    splitNetloc ('/' :: '/' :: (spelling.host ++ (spelling.path owner repo ++ rest))) =
      (spelling.host, spelling.path owner repo ++ rest) := by
  have inside : ∀ c ∈ spelling.host, (!isNetlocEnd c) = true := by
    intro c member
    have slug := slug_of_mem_host spelling member
    simp only [isNetlocEnd, Bool.not_eq_true', Bool.or_eq_false_iff, beq_eq_false_iff_ne]
    refine ⟨⟨?_, ?_⟩, ?_⟩ <;> rintro rfl <;> cases slug
  have slash : ∃ more, spelling.path owner repo ++ rest = '/' :: more :=
    ⟨_, by rw [Spelling.path, List.replicate_succ, List.cons_append, List.cons_append]⟩
  obtain ⟨more, starts⟩ := slash
  rw [splitNetloc, starts, List.takeWhile_append_of_pos inside,
    List.dropWhile_append_of_pos inside]
  simp [isNetlocEnd]

/-- Every spelling is split into the same scheme, one of the two hosts and its
path. -/
theorem urlparse_spelled (lib : UrlLibrary) :
    ∃ parsed, urlparse lib (strip (spelling.url owner repo)) = .ok parsed ∧
      isGithubRoot parsed = true ∧ parsed.path = spelling.path owner repo := by
  obtain ⟨tail, isTail, stripped⟩ := strip_url ownerSlug repoSlug spelling
  have absent : ∀ c, c ≠ '/' → isSlugChar c = false → c ∉ spelling.path owner repo :=
    fun c => not_mem_path ownerSlug repoSlug spelling
  have path := partitionAt_path (isUrlTail_filter isTail) (absent '?' (by decide) (by decide))
    (absent '#' (by decide) (by decide))
  have params := splitParams_of_not_mem (absent ';' (by decide) (by decide))
  have brackets : checkBrackets lib spelling.host = .ok () := by
    cases same : spelling.www <;> simp only [Spelling.host, same] <;> rfl
  have host : checkNetloc lib spelling.host = .ok () := by
    cases same : spelling.www <;> simp only [Spelling.host, same] <;> rfl
  have root : ∀ path params query fragment, isGithubRoot
      { scheme := "https".toList, netloc := spelling.host, path, params, query, fragment } =
        true := by
    intro path params query fragment
    cases same : spelling.www <;> simp only [Spelling.host, same] <;> rfl
  have usesPath : usesParams "https".toList = true := rfl
  rw [stripped, urlparse, cleanUrl_spelled ownerSlug repoSlug spelling,
    splitScheme_spelled spelling]
  simp only [splitNetloc_spelled, brackets, host, path, params, usesPath, bind,
    Except.bind, if_true]
  exact ⟨_, rfl, root _ _ _ _, rfl⟩

/-- No number of slashes makes a segment. -/
theorem pathSegments_spelled (ownerNamed : owner ≠ []) (repoNamed : repo ≠ []) :
    pathSegments (spelling.path owner repo) = [owner, spelling.segment repo] := by
  have ownerWhole : '/' ∉ owner := fun member => by cases ownerSlug _ member
  have segmentWhole : '/' ∉ spelling.segment repo :=
    fun member => by cases slug_of_mem_segment repoSlug spelling member
  have segmentNamed : spelling.segment repo ≠ [] := by
    unfold Spelling.segment
    split <;> simp [repoNamed]
  rw [pathSegments_eq, Spelling.path, nonemptySegments_replicate_append, List.replicate_succ,
    List.cons_append, nonemptySegments_append, nonemptySegments_single ownerNamed ownerWhole,
    nonemptySegments_replicate_append, nonemptySegments_append_replicate,
    nonemptySegments_single segmentNamed segmentWhole]
  rfl

omit ownerSlug repoSlug in
/-- The suffix is removed if it was written. -/
theorem removeSuffix_segment (bare : ¬ gitSuffix <:+ repo) :
    removeSuffix gitSuffix (spelling.segment repo) = repo := by
  unfold Spelling.segment
  split
  · exact removeSuffix_of_append gitSuffix repo
  · exact (removeSuffix_eq_self_iff (by decide)).mpr bare

end

/-- The target every spelling of a repository is parsed to. -/
structure IsTargetOf (owner repo : Text) (target : ParsedRepoTarget) : Prop where
  ownerIs : target.owner = String.ofList owner
  repoIs : target.repo = String.ofList repo
  canonicalIs : target.canonicalUrl =
    canonicalRepositoryUrl (String.ofList owner) (String.ofList repo)

theorem parseSegments_of_slugs {owner segment : Text}
    (unreserved : owner ∉ reservedOwners) (ownerNamed : owner ≠ [])
    (ownerSlug : ∀ c ∈ owner, isSlugChar c = true)
    (repoNamed : removeSuffix gitSuffix segment ≠ [])
    (repoSlug : ∀ c ∈ removeSuffix gitSuffix segment, isSlugChar c = true) :
    ∃ target, parseSegments owner segment = .ok target ∧
      IsTargetOf owner (removeSuffix gitSuffix segment) target := by
  have oneLine : ∀ {text : Text}, (∀ c ∈ text, isSlugChar c = true) → '\n' ∉ text :=
    fun slug member => by cases slug _ member
  have ownerMatches := (slugMatches_iff (oneLine ownerSlug)).mpr ⟨ownerNamed, ownerSlug⟩
  have repoMatches := (slugMatches_iff (oneLine repoSlug)).mpr ⟨repoNamed, repoSlug⟩
  have named : ∀ {text : Text}, text ≠ [] → String.ofList text ≠ "" :=
    fun present same => present (by simpa using congrArg String.toList same)
  have free : reservedOwners.contains owner = false := by simpa using unreserved
  unfold parseSegments
  rw [free]
  simp only [ownerMatches, repoMatches, named ownerNamed, named repoNamed, Bool.and_self, if_true,
    Bool.false_eq_true, if_false, ne_eq, not_false_eq_true, and_self, dite_true]
  exact ⟨_, rfl, rfl, rfl, rfl⟩

/-- The splitter accepts the URL and splits off an authority or a path that is
not that of a repository root. -/
def IsForeign (lib : UrlLibrary) (url : String) : Prop :=
  ∃ parsed, urlparse lib (strip url.toList) = .ok parsed ∧
    (parsed.netloc ≠ "github.com".toList ∧ parsed.netloc ≠ "www.github.com".toList ∨
      (nonemptySegments parsed.path).length ≠ 2)

theorem isGithubRoot_of_isForeign {parsed : ParseResult}
    (foreign : parsed.netloc ≠ "github.com".toList ∧ parsed.netloc ≠ "www.github.com".toList) :
    isGithubRoot parsed = false := by
  have plain := beq_eq_false_iff_ne.mpr foreign.1
  have prefixed := beq_eq_false_iff_ne.mpr foreign.2
  rw [isGithubRoot, plain, prefixed, Bool.or_self, Bool.and_false]

theorem parse_of_isForeign {lib : UrlLibrary} {url : String} (foreign : IsForeign lib url) :
    ∃ detail, parseGithubRepositoryUrl lib url = .error (invalidRepositoryUrl detail) := by
  obtain ⟨parsed, accepted, host | segments⟩ := foreign
  · simp only [parseGithubRepositoryUrl, accepted, isGithubRoot_of_isForeign host]
    exact ⟨_, rfl⟩
  · rw [← pathSegments_eq] at segments
    simp only [parseGithubRepositoryUrl, accepted]
    split
    · split
      · next two =>
          rw [two] at segments
          exact absurd rfl segments
      · exact ⟨_, rfl⟩
    · exact ⟨_, rfl⟩

/-- Every spelling of a repository URL is parsed to the same owner, name and
canonical URL, and every URL with another authority or another number of
segments is rejected. -/
theorem spellings_are_identified (lib : UrlLibrary) {owner repo : Text}
    (unreserved : owner ∉ reservedOwners) (ownerNamed : owner ≠ [])
    (ownerSlug : ∀ c ∈ owner, isSlugChar c = true) (repoNamed : repo ≠ [])
    (repoSlug : ∀ c ∈ repo, isSlugChar c = true) (bare : ¬ gitSuffix <:+ repo) :
    (∀ spelling : Spelling, ∃ target,
      parseGithubRepositoryUrl lib (String.ofList (spelling.url owner repo)) = .ok target ∧
        IsTargetOf owner repo target) ∧
    ∀ url, IsForeign lib url →
      ∃ detail, parseGithubRepositoryUrl lib url = .error (invalidRepositoryUrl detail) := by
  constructor
  · intro spelling
    obtain ⟨parsed, accepted, root, path⟩ := urlparse_spelled ownerSlug repoSlug spelling lib
    have segments := pathSegments_spelled ownerSlug repoSlug spelling ownerNamed repoNamed
    have removed := removeSuffix_segment spelling bare
    rw [← removed] at repoNamed repoSlug
    obtain ⟨target, parses, named⟩ :=
      parseSegments_of_slugs unreserved ownerNamed ownerSlug repoNamed repoSlug
    rw [removed] at named
    refine ⟨target, ?_, named⟩
    rw [parseGithubRepositoryUrl, String.toList_ofList, accepted]
    simp only [root, if_true, path, segments]
    exact parses
  · exact fun url foreign => parse_of_isForeign foreign

/-- A spelling that makes every choice. -/
def shoutedSpelling : Spelling where
  before := " ".toList
  after := "\n".toList
  scheme := "HTTPS".toList
  www := true
  leading := 1
  middle := 2
  suffixed := true
  trailing := 3
  query := some "tab=readme".toList
  fragment := some "top".toList
  before_isSpace := by decide
  after_isSpace := by decide
  scheme_lower := by decide

theorem gist_isForeign : IsForeign asciiLibrary "https://gist.github.com/octo/demo" := by
  have accepted :
      ∃ parsed, urlparse asciiLibrary (strip "https://gist.github.com/octo/demo".toList) =
      .ok parsed ∧ parsed.netloc = "gist.github.com".toList := ⟨_, by rfl, rfl⟩
  obtain ⟨parsed, accepted, netloc⟩ := accepted
  exact ⟨parsed, accepted, .inl (by rw [netloc]; decide)⟩

theorem spellings_are_identified_octo :
    (∃ target, parseGithubRepositoryUrl asciiLibrary
        (String.ofList (shoutedSpelling.url "octo".toList "demo".toList)) = .ok target ∧
      IsTargetOf "octo".toList "demo".toList target) ∧
    ∃ detail, parseGithubRepositoryUrl asciiLibrary "https://gist.github.com/octo/demo" =
      .error (invalidRepositoryUrl detail) := by
  have identified := @spellings_are_identified asciiLibrary "octo".toList "demo".toList
    (by decide) (by decide) (by decide) (by decide) (by decide) (by decide)
  exact ⟨identified.1 shoutedSpelling, identified.2 _ gist_isForeign⟩

/-! ## Authorities the splitter raises on -/

/-- The authority of a URL. -/
def urlAuthority (url : String) : Text :=
  (splitNetloc (splitScheme (cleanUrl (strip url.toList))).2).1

def isNetlocDelimiter (c : Char) : Bool :=
  c == '/' || c == '?' || c == '#' || c == '@' || c == ':'

/-- The part of an authority that must keep its form. -/
def bareAuthority (netloc : Text) : Text :=
  netloc.filter fun c => !(c == '@' || c == ':' || c == '#' || c == '?')

/-- The authority has both brackets around an address literal or none of them,
and does not gain a delimiter when it is normalized. -/
structure AuthoritySplits (lib : UrlLibrary) (netloc : Text) : Prop where
  balanced : '[' ∈ netloc ↔ ']' ∈ netloc
  bracketed : '[' ∈ netloc → checkBracketedNetloc lib netloc = .ok ()
  normalized : (∃ c ∈ netloc, 128 ≤ c.toNat) →
    lib.nfkc (bareAuthority netloc) ≠ bareAuthority netloc →
      ∀ c ∈ lib.nfkc (bareAuthority netloc), isNetlocDelimiter c = false

theorem checkBrackets_iff (lib : UrlLibrary) (netloc : Text) :
    checkBrackets lib netloc = .ok () ↔
      ('[' ∈ netloc ↔ ']' ∈ netloc) ∧
      ('[' ∈ netloc → checkBracketedNetloc lib netloc = .ok ()) := by
  unfold checkBrackets
  by_cases opened : '[' ∈ netloc <;> by_cases closed : ']' ∈ netloc <;> simp [opened, closed]

theorem checkNetloc_iff (lib : UrlLibrary) (netloc : Text) :
    checkNetloc lib netloc = .ok () ↔
      ((∃ c ∈ netloc, 128 ≤ c.toNat) → lib.nfkc (bareAuthority netloc) ≠ bareAuthority netloc →
        ∀ c ∈ lib.nfkc (bareAuthority netloc), isNetlocDelimiter c = false) := by
  unfold checkNetloc
  by_cases ascii : ∃ c ∈ netloc, 128 ≤ c.toNat
  · have foreign : (netloc.all fun c => decide (c.toNat < 128)) = false := by
      simpa using ascii
    have bare : (netloc.filter fun c => !(c == '@' || c == ':' || c == '#' || c == '?')) =
      bareAuthority netloc := rfl
    rw [foreign]
    simp only [bare, Bool.false_eq_true, if_false, ascii, true_implies]
    by_cases same : lib.nfkc (bareAuthority netloc) = bareAuthority netloc
    · simp [same]
    · have changed : (bareAuthority netloc == lib.nfkc (bareAuthority netloc)) = false :=
        beq_eq_false_iff_ne.mpr fun equal => same equal.symm
      simp only [changed, Bool.false_eq_true, if_false, same, not_false_eq_true,
        true_implies, ne_eq]
      split
      · next gained =>
          obtain ⟨c, member, delimiter⟩ := List.any_eq_true.mp gained
          have marked : isNetlocDelimiter c = true := delimiter
          simp only [reduceCtorEq, false_iff, not_forall]
          exact ⟨c, member, by simp [marked]⟩
      · next kept =>
          simp only [true_iff]
          intro c member
          rw [← Bool.not_eq_true]
          exact fun delimiter => kept (List.any_eq_true.mpr ⟨c, member, delimiter⟩)
  · have plain : (netloc.all fun c => decide (c.toNat < 128)) = true := by
      simpa using ascii
    simp only [plain, if_true, ascii, false_implies]

theorem urlparse_ok_iff (lib : UrlLibrary) (url : String) :
    (∃ parsed, urlparse lib (strip url.toList) = .ok parsed) ↔
      AuthoritySplits lib (urlAuthority url) := by
  have checks : AuthoritySplits lib (urlAuthority url) ↔
      checkBrackets lib (urlAuthority url) = .ok () ∧
        checkNetloc lib (urlAuthority url) = .ok () := by
    rw [checkBrackets_iff, checkNetloc_iff]
    exact ⟨fun splits => ⟨⟨splits.balanced, splits.bracketed⟩, splits.normalized⟩,
      fun checked => ⟨checked.1.1, checked.1.2, checked.2⟩⟩
  rw [checks]
  have netloc : (splitNetloc (splitScheme (cleanUrl (strip url.toList))).2).1 = urlAuthority url :=
    rfl
  simp only [urlparse, bind, Except.bind, netloc]
  cases brackets : checkBrackets lib (urlAuthority url) with
  | error message => simp
  | ok checked =>
      cases normal : checkNetloc lib (urlAuthority url) with
      | error message => simp
      | ok other => simp [pure, Except.pure]

/-- What the parser is documented to do: return a target or raise the 400
problem, so that the endpoint answers every URL it rejects with status 400. -/
structure FailsAsDocumented (env : Environment) (url : String) : Prop where
  raises : (∃ target, parseGithubRepositoryUrl env.urlLibrary url = .ok target) ∨
    ∃ problem, parseGithubRepositoryUrl env.urlLibrary url = .error (.researchProblem problem) ∧
      problem.statusCode = 400
  answers : (¬ ∃ target, parseGithubRepositoryUrl env.urlLibrary url = .ok target) →
    ∀ (context : RequestContext) (request : ResearchRequest), request.url = url →
      ∃ response, submitResearchJob env context request = .pure (.problem response) ∧
        response.statusCode = 400

/-- A rejected URL is answered before anything else happens. -/
theorem submitResearchJob_of_error {env : Environment} {request : ResearchRequest} {error : Exn}
    (rejected : parseGithubRepositoryUrl env.urlLibrary request.url = .error error)
    (context : RequestContext) :
    submitResearchJob env context request =
      .pure (.problem (exceptionResponse context error)) := by
  unfold submitResearchJob submit
  rw [rejected]
  rfl

/-- Two segments are a target or the 400 problem. -/
theorem parseSegments_outcome (owner segment : Text) :
    (∃ target, parseSegments owner segment = .ok target) ∨
      ∃ detail, parseSegments owner segment = .error (invalidRepositoryUrl detail) := by
  unfold parseSegments
  split
  · exact .inr ⟨_, rfl⟩
  · dsimp only
    split
    · split
      · exact .inl ⟨_, rfl⟩
      · exact .inr ⟨_, rfl⟩
    · exact .inr ⟨_, rfl⟩

/-- What the splitter accepts is parsed or rejected with the 400 problem. -/
theorem parse_of_urlparse_ok {lib : UrlLibrary} {url : String} {parsed : ParseResult}
    (accepted : urlparse lib (strip url.toList) = .ok parsed) :
    (∃ target, parseGithubRepositoryUrl lib url = .ok target) ∨
      ∃ detail, parseGithubRepositoryUrl lib url = .error (invalidRepositoryUrl detail) := by
  simp only [parseGithubRepositoryUrl, accepted]
  split
  · split
    · exact parseSegments_outcome _ _
    · exact .inr ⟨_, rfl⟩
  · exact .inr ⟨_, rfl⟩

theorem parse_of_urlparse_error {lib : UrlLibrary} {url : String} {message : ValueError}
    (raised : urlparse lib (strip url.toList) = .error message) :
    parseGithubRepositoryUrl lib url = .error (.other "ValueError" message) := by
  simp only [parseGithubRepositoryUrl, raised]

theorem failsAsDocumented_iff_urlparse (env : Environment) (url : String) :
    FailsAsDocumented env url ↔
      ∃ parsed, urlparse env.urlLibrary (strip url.toList) = .ok parsed := by
  constructor
  · intro documented
    cases split : urlparse env.urlLibrary (strip url.toList) with
    | ok parsed => exact ⟨parsed, rfl⟩
    | error message =>
        have escaped := parse_of_urlparse_error split
        rcases documented.raises with ⟨target, parses⟩ | ⟨problem, parses, _⟩
        · rw [escaped] at parses
          cases parses
        · rw [escaped] at parses
          cases parses
  · rintro ⟨parsed, accepted⟩
    have outcome := parse_of_urlparse_ok accepted
    constructor
    · rcases outcome with parses | ⟨detail, rejected⟩
      · exact .inl parses
      · exact .inr ⟨_, rejected, rfl⟩
    · intro invalid context request same
      rcases outcome with parses | ⟨detail, rejected⟩
      · exact absurd parses invalid
      · rw [← same] at rejected
        exact ⟨_, submitResearchJob_of_error rejected context, rfl⟩

/-- The parser fails in its documented way exactly on the URLs whose authority
the library splits: no other exception than the one of the splitter escapes. -/
theorem parser_fails_as_documented_iff (env : Environment) (url : String) :
    FailsAsDocumented env url ↔ AuthoritySplits env.urlLibrary (urlAuthority url) :=
  (failsAsDocumented_iff_urlparse env url).trans (urlparse_ok_iff env.urlLibrary url)

def asciiEnvironment : Environment where
  urlLibrary := asciiLibrary
  renderField _ field := .error { className := "KeyError", message := String.ofList field.name }

theorem openBracket_minLength : 1 ≤ "https://[".length := by
  decide

theorem openBracket_maxLength : "https://[".length ≤ 2048 := by
  decide

def openBracketRequest : ResearchRequest where
  url := "https://["
  url_minLength := openBracket_minLength
  url_maxLength := openBracket_maxLength

def jobsContext : RequestContext where
  path := "/api/v1/research/jobs"
  requestId := "request-1"

theorem parse_openBracket : parseGithubRepositoryUrl asciiLibrary "https://[" =
    .error (.other "ValueError" "Invalid IPv6 URL") := by
  decide +kernel

/-- One bracket is answered with the internal-error problem. -/
theorem parser_raises_on_open_bracket :
    (∃ response, submitResearchJob asciiEnvironment jobsContext openBracketRequest =
      .pure (.problem response) ∧ response.statusCode = 500) ∧
    ¬ FailsAsDocumented asciiEnvironment "https://[" := by
  constructor
  · exact ⟨_, submitResearchJob_of_error parse_openBracket jobsContext, rfl⟩
  · intro documented
    rcases documented.raises with ⟨target, parses⟩ | ⟨problem, parses, _⟩
    · cases parse_openBracket.symm.trans parses
    · cases parse_openBracket.symm.trans parses

end ResearchTool
