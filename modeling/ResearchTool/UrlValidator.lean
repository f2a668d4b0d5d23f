import ResearchTool.Errors
import ResearchTool.Schema
import ResearchTool.Python.UrlParse

/-!
# Repository URL validation

`parse_github_repository_url` accepts a root repository URL and names the
repository by its owner, its name and a canonical URL.  The API stores that
canonical URL in the queue message, and the worker parses it again.
-/

namespace ResearchTool

open Python

/-- The character class of `_OWNER_RE` and `_REPO_RE`. -/
def isSlugChar (c : Char) : Bool :=
  isAsciiAlpha c || isAsciiDigit c || c == '_' || c == '.' || c == '-'

/-- `re.match(r"^[A-Za-z0-9_.-]+$", text)`; `$` also matches before one final
newline. -/
def slugMatches (text : Text) : Bool :=
  let body := if text.getLast? = some '\n' then text.dropLast else text
  !body.isEmpty && body.all isSlugChar

/-- First path segments that are pages of the site and not owners. -/
def reservedOwners : List Text :=
  ["orgs", "users", "settings", "explore", "features"].map String.toList

/-- The non-empty segments of `path.strip("/").split("/")`. -/
def pathSegments (path : Text) : List Text :=
  ((stripBy (· == '/') path).splitOn '/').filter fun segment => !segment.isEmpty

def gitSuffix : Text :=
  ".git".toList

/-- The 400 problem every rejected URL is answered with. -/
def invalidRepositoryUrl (detail : String) : Exn :=
  .researchProblem {
    statusCode := 400
    type := "/problems/invalid-repository-url"
    title := "Invalid repository URL"
    detail := some detail
  }

def isGithubRoot (parsed : ParseResult) : Bool :=
  parsed.scheme == "https".toList &&
    (parsed.netloc == "github.com".toList || parsed.netloc == "www.github.com".toList)

/-- `f"https://github.com/{owner}/{repo}"`. -/
def canonicalRepositoryUrl (owner repo : String) : String :=
  "https://github.com/" ++ owner ++ "/" ++ repo

/-- The part of the parser that looks at the two path segments. -/
def parseSegments (owner segment : Text) : Except Exn ParsedRepoTarget :=
  if reservedOwners.contains owner then
    .error (invalidRepositoryUrl "The supplied URL does not point to a repository root.")
  else
    let repo := removeSuffix gitSuffix segment
    if named : String.ofList owner ≠ "" ∧ String.ofList repo ≠ "" then
      if slugMatches owner && slugMatches repo then
        .ok {
          owner := String.ofList owner
          repo := String.ofList repo
          canonicalUrl := canonicalRepositoryUrl (String.ofList owner) (String.ofList repo)
          owner_minLength := named.1
          repo_minLength := named.2
        }
      else
        .error (invalidRepositoryUrl
          "The repository owner or name contains unsupported characters.")
    else
      .error (invalidRepositoryUrl
        "The repository owner or name contains unsupported characters.")

/-- `parse_github_repository_url`.  A `ValueError` of the URL splitter is not
caught. -/
def parseGithubRepositoryUrl (lib : UrlLibrary) (url : String) :
    Except Exn ParsedRepoTarget :=
  match urlparse lib (strip url.toList) with
  | .error message => .error (.other "ValueError" message)
  | .ok parsed =>
      if isGithubRoot parsed then
        match pathSegments parsed.path with
        | [owner, segment] => parseSegments owner segment
        | _ => .error (invalidRepositoryUrl
            ("Only root repository URLs are supported. " ++
              "Branch, tree, gist, and profile URLs are not valid inputs."))
      else
        .error (invalidRepositoryUrl
          "Use the canonical repository format https://github.com/{owner}/{repo}.")

end ResearchTool
