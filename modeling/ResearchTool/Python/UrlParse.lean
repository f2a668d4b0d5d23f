import ResearchTool.Python.Text

/-!
# `urllib.parse.urlparse`

The splitter of Python 3.12's standard library, function by function.  What
it takes from `unicodedata` and `ipaddress` is a parameter; both are consulted
only for authorities that are not plain ASCII host names.
-/

namespace ResearchTool.Python

/-- The address family `ipaddress.ip_address` recognises. -/
inductive AddressFamily where
  | v4
  | v6
  deriving DecidableEq, Repr

/-- The message of a `ValueError`. -/
abbrev ValueError := String

/-- The library functions `urlsplit` calls on unusual authorities. -/
structure UrlLibrary where
  nfkc : Text → Text
  ipAddress : Text → Except ValueError AddressFamily

structure ParseResult where
  scheme : Text
  netloc : Text
  path : Text
  params : Text
  query : Text
  fragment : Text
  deriving DecidableEq, Repr

/-- `_WHATWG_C0_CONTROL_OR_SPACE`. -/
def isC0ControlOrSpace (c : Char) : Bool :=
  c.toNat ≤ 0x20

/-- `_UNSAFE_URL_BYTES_TO_REMOVE`. -/
def isUnsafeUrlByte (c : Char) : Bool :=
  c == '\t' || c == '\r' || c == '\n'

/-- `scheme_chars`. -/
def isSchemeChar (c : Char) : Bool :=
  isAsciiAlpha c || isAsciiDigit c || c == '+' || c == '-' || c == '.'

/-- The schemes in `uses_params`. -/
def usesParams (scheme : Text) : Bool :=
  ["", "ftp", "hdl", "prospero", "http", "imap", "https", "shttp", "rtsp", "rtsps", "rtspu",
    "sip", "sips", "mms", "sftp", "tel"].any fun name => name.toList == scheme

/-- Split off a leading `scheme:`; the scheme is lower-cased. -/
def splitScheme (url : Text) : Text × Text :=
  match url.takeWhile (· != ':'), url.dropWhile (· != ':') with
  | first :: more, _ :: rest =>
      if isAsciiAlpha first && (first :: more).all isSchemeChar then
        ((first :: more).map asciiLower, rest)
      else
        ([], url)
  | _, _ => ([], url)

def isNetlocEnd (c : Char) : Bool :=
  c == '/' || c == '?' || c == '#'

/-- `_check_bracketed_host`. -/
def checkBracketedHost (lib : UrlLibrary) (hostname : Text) : Except ValueError Unit :=
  match hostname with
  | 'v' :: rest =>
      let isHex (c : Char) : Bool :=
        isAsciiDigit c || ('a' ≤ c && c ≤ 'f') || ('A' ≤ c && c ≤ 'F')
      match rest.takeWhile isHex, rest.dropWhile isHex with
      | _ :: _, '.' :: _ :: _ => .ok ()
      | _, _ => .error "IPvFuture address is invalid"
  | _ =>
      match lib.ipAddress hostname with
      | .ok .v6 => .ok ()
      | .ok .v4 => .error "An IPv4 address cannot be in brackets"
      | .error message => .error message

/-- `_check_bracketed_netloc`. -/
def checkBracketedNetloc (lib : UrlLibrary) (netloc : Text) : Except ValueError Unit :=
  let hostnameAndPort := netloc.rtakeWhile (· != '@')
  match hostnameAndPort.dropWhile (· != '[') with
  | [] => checkBracketedHost lib (hostnameAndPort.takeWhile (· != ':'))
  | _ :: bracketed =>
      if hostnameAndPort.takeWhile (· != '[') != [] then
        .error "Invalid IPv6 URL"
      else
        match (bracketed.dropWhile (· != ']')).drop 1 with
        | [] => checkBracketedHost lib (bracketed.takeWhile (· != ']'))
        | ':' :: _ => checkBracketedHost lib (bracketed.takeWhile (· != ']'))
        | _ => .error "Invalid IPv6 URL"

/-- The bracket checks `urlsplit` makes as soon as it has the authority. -/
def checkBrackets (lib : UrlLibrary) (netloc : Text) : Except ValueError Unit :=
  if netloc.contains '[' != netloc.contains ']' then
    .error "Invalid IPv6 URL"
  else if netloc.contains '[' then
    checkBracketedNetloc lib netloc
  else
    .ok ()

/-- `_checknetloc`: reject an authority whose NFKC form gains a delimiter. -/
def checkNetloc (lib : UrlLibrary) (netloc : Text) : Except ValueError Unit :=
  if netloc.all fun c => c.toNat < 128 then
    .ok ()
  else
    let bare := netloc.filter fun c => !(c == '@' || c == ':' || c == '#' || c == '?')
    let normalized := lib.nfkc bare
    if bare == normalized then
      .ok ()
    else if normalized.any fun c => c == '/' || c == '?' || c == '#' || c == '@' || c == ':' then
      .error ("netloc '" ++ String.ofList netloc ++
        "' contains invalid characters under NFKC normalization")
    else
      .ok ()

/-- Split at the first `separator`, which belongs to neither part. -/
def partitionAt (separator : Char) (text : Text) : Text × Text :=
  (text.takeWhile (· != separator), (text.dropWhile (· != separator)).drop 1)

/-- `_splitparams`: only the last path segment carries parameters. -/
def splitParams (path : Text) : Text × Text :=
  let segment := path.rtakeWhile (· != '/')
  let (kept, params) := partitionAt ';' segment
  (path.rdropWhile (· != '/') ++ kept, params)

/-- The authority and the rest of a URL whose scheme is already split off. -/
def splitNetloc (url : Text) : Text × Text :=
  match url with
  | '/' :: '/' :: rest =>
      (rest.takeWhile fun c => !isNetlocEnd c, rest.dropWhile fun c => !isNetlocEnd c)
  | _ => ([], url)

/-- The two clean-ups `urlsplit` makes before it looks for the scheme. -/
def cleanUrl (url : Text) : Text :=
  (url.dropWhile isC0ControlOrSpace).filter fun c => !isUnsafeUrlByte c

/-- `urlparse(url)`. -/
def urlparse (lib : UrlLibrary) (url : Text) : Except ValueError ParseResult := do
  let (scheme, afterScheme) := splitScheme (cleanUrl url)
  let (netloc, afterNetloc) := splitNetloc afterScheme
  checkBrackets lib netloc
  let (beforeFragment, fragment) := partitionAt '#' afterNetloc
  let (fullPath, query) := partitionAt '?' beforeFragment
  checkNetloc lib netloc
  let (path, params) := if usesParams scheme then splitParams fullPath else (fullPath, [])
  pure { scheme, netloc, path, params, query, fragment }

/-- ASCII hosts need nothing of the library. -/
def asciiLibrary : UrlLibrary where
  nfkc := id
  ipAddress host :=
    .error ("'" ++ String.ofList host ++ "' does not appear to be an IPv4 or IPv6 address")

theorem partitionAt_of_not_mem {separator : Char} {text : Text} (absent : separator ∉ text) :
    partitionAt separator text = (text, []) := by
  have kept : ∀ c ∈ text, (c != separator) = true := by
    intro c member
    rw [bne_iff_ne]
    rintro rfl
    exact absent member
  rw [partitionAt, List.takeWhile_eq_self_iff.mpr kept, List.dropWhile_eq_nil_iff.mpr kept]
  rfl

theorem splitParams_of_not_mem {path : Text} (absent : ';' ∉ path) :
    splitParams path = (path, []) := by
  have segment : ';' ∉ path.rtakeWhile (· != '/') :=
    fun member => absent (rtakeWhile_subset _ path member)
  simp [splitParams, partitionAt_of_not_mem segment]

/-! ## The characters of a path -/

theorem splitScheme_subset (url : Text) : (splitScheme url).2 ⊆ url := by
  unfold splitScheme
  split
  · rename_i head more colon rest matched split
    split
    · have suffix : rest <:+ url :=
        (List.suffix_cons colon rest).trans (split ▸ List.dropWhile_suffix _)
      exact suffix.subset
    · exact List.Subset.refl url
  · exact List.Subset.refl url

theorem splitNetloc_subset (url : Text) : (splitNetloc url).2 ⊆ url := by
  unfold splitNetloc
  split
  · rename_i rest
    intro c member
    exact List.mem_cons_of_mem _ (List.mem_cons_of_mem _ (dropWhile_subset _ rest member))
  · exact List.Subset.refl _

theorem partitionAt_subset (separator : Char) (text : Text) :
    (partitionAt separator text).1 ⊆ text :=
  takeWhile_subset _ text

theorem splitParams_subset (path : Text) : (splitParams path).1 ⊆ path := by
  intro c member
  rcases List.mem_append.mp member with directory | kept
  · exact rdropWhile_subset _ path directory
  · exact rtakeWhile_subset _ path (partitionAt_subset _ _ kept)

/-- A path has no characters besides those of the cleaned URL. -/
theorem path_subset_of_urlparse {lib : UrlLibrary} {url : Text} {parsed : ParseResult}
    (accepted : urlparse lib url = .ok parsed) : parsed.path ⊆ cleanUrl url := by
  simp only [urlparse, bind, Except.bind] at accepted
  split at accepted
  · cases accepted
  split at accepted
  · cases accepted
  cases accepted
  have fullPath : (partitionAt '?' (partitionAt '#'
      (splitNetloc (splitScheme (cleanUrl url)).2).2).1).1 ⊆ cleanUrl url := fun c member =>
    splitScheme_subset _
      (splitNetloc_subset _ (partitionAt_subset _ _ (partitionAt_subset _ _ member)))
  dsimp only
  split
  · exact fun c member => fullPath (splitParams_subset _ member)
  · exact fullPath

/-- Line breaks are removed before a URL is split. -/
theorem newline_not_mem_path {lib : UrlLibrary} {url : Text} {parsed : ParseResult}
    (accepted : urlparse lib url = .ok parsed) : '\n' ∉ parsed.path := by
  intro member
  have kept := path_subset_of_urlparse accepted member
  simp [cleanUrl, isUnsafeUrlByte] at kept

end ResearchTool.Python
