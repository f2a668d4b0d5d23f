import ResearchTool.EcmaScript.EventLoop
import ResearchTool.ReportRenderer
import ResearchTool.UrlValidator
import ResearchTool.Process.Run

/-!
# The script of the dashboard

`research.html` as a state machine.  Its steps are what a user does, the timers
that fire and the replies that arrive, in any order.  Timers and requests carry
the number of the analysis they were started for, which the script does not
keep.
-/

namespace ResearchTool

open Python EcmaScript Process

/-! ## Texts -/

/-- The characters `trim` removes. -/
def isJsWhiteSpace (c : Char) : Bool :=
  let n := c.toNat
  (9 ≤ n && n ≤ 13) || n == 0x20 || n == 0xA0 || n == 0x1680 || (0x2000 ≤ n && n ≤ 0x200A) ||
    n == 0x2028 || n == 0x2029 || n == 0x202F || n == 0x205F || n == 0x3000 || n == 0xFEFF

/-- `GITHUB_URL_RE.test(url)`: the characters of a repository name include those
of the optional `.git`. -/
def matchesGithubUrl (url : Text) : Bool :=
  let site := "https://github.com/".toList
  let isName := fun (name : Text) => !name.isEmpty && name.all isSlugChar
  site.isPrefixOf url &&
    match (url.drop site.length).splitOn '/' with
    | [owner, repo] => isName owner && isName repo
    | [owner, repo, []] => isName owner && isName repo
    | _ => false

/-- `validateGithubUrl`, on a text that is not empty. -/
def validateGithubUrl (url : Text) : Option String :=
  if ¬ "https://".toList.isPrefixOf url then
    some "URL must start with https://"
  else if ¬ "github.com".toList <:+: url then
    some "Only GitHub repositories are supported (github.com)."
  else if ¬ matchesGithubUrl url then
    some "Enter a valid repository URL — e.g. https://github.com/owner/repo"
  else
    none

/-- `PROGRESS_MAP`. -/
def progressMap : List (String × String) :=
  [ ("repository research queued", "Your request is in the queue…"),
    ("fetching github data", "Connecting to GitHub and reading repository info…"),
    ("preparing ai analysis", "Crunching the repository data, almost ready for analysis…"),
    ("running ai analysis", "AI is reading the codebase and generating insights…"),
    ("research completed", "Analysis complete! Building your report…"),
    ("research failed after maximum retry attempts",
      "Something went wrong on our end. Please try again.") ]

/-- `friendlyProgress`.  Of the letters outside ASCII only `İ` and the Kelvin sign
are lower-cased to one of ASCII: the `i` of the first is followed by a combining
dot, and no key has a `k`, so neither finds a key.  The names that every object of
the script inherits, such as `constructor`, are not progress messages of the
service and are left out. -/
def friendlyProgress (message : String) : String :=
  let key := String.ofList (stripBy isJsWhiteSpace (message.toList.map asciiLower))
  (progressMap.lookup key).getD message

/-! ## The page -/

inductive LineType where
  | plain
  | success
  | error
  deriving DecidableEq

structure TermLine where
  text : String
  type : LineType
  deriving DecidableEq

/-- What is written into the results view: all of a payload, the notice that the
analysis goes on, the AI sections of a payload, or the notice of a failure. -/
inductive ResultsPatch where
  | results (data : PollingStatusResponse)
  | loadingNotice
  | aiInsights (data : PollingStatusResponse)
  | failureNotice
  deriving DecidableEq

/-- The payload that a patch shows. -/
def ResultsPatch.payload? : ResultsPatch → Option PollingStatusResponse
  | results data => some data
  | loadingNotice => none
  | aiInsights data => some data
  | failureNotice => none

/-- What the user sees.  The patches of the results view are kept in their
order, the latest one first. -/
@[ext]
structure DashboardView where
  searchHidden : Bool
  loadingHidden : Bool
  resultsHidden : Bool
  bannerHidden : Bool
  terminal : List TermLine
  cursor : Bool
  urlError : String
  results : List ResultsPatch
  deriving DecidableEq

namespace DashboardView

/-- The page as it is loaded. -/
def initial : DashboardView where
  searchHidden := false
  loadingHidden := true
  resultsHidden := true
  bannerHidden := true
  terminal := []
  cursor := false
  urlError := ""
  results := []

def addTermLine (text : String) (type : LineType) (view : DashboardView) : DashboardView :=
  { view with terminal := view.terminal ++ [{ text, type }], cursor := false }

/-- The search view instead of the two others. -/
def showSearch (view : DashboardView) : DashboardView :=
  { view with searchHidden := false, loadingHidden := true, resultsHidden := true }

/-- `renderResults`, as far as the page goes. -/
def renderResults (data : PollingStatusResponse) (view : DashboardView) : DashboardView :=
  { view with
    results := .results data :: view.results
    loadingHidden := true
    resultsHidden := false }

/-- `renderStaticData`. -/
def renderStaticData (data : PollingStatusResponse) (view : DashboardView) : DashboardView :=
  let view := view.renderResults data
  { view with results := .loadingNotice :: view.results, bannerHidden := false }

/-- `updateAiInsights`, as far as the page goes. -/
def updateAiInsights (data : PollingStatusResponse) (view : DashboardView) : DashboardView :=
  { view with results := .aiInsights data :: view.results, bannerHidden := true }

/-- The notice of a failed analysis next to the static data. -/
def showFailure (view : DashboardView) : DashboardView :=
  { view with results := .failureNotice :: view.results, bannerHidden := true }

end DashboardView

/-! ## The session -/

inductive TimerTask where
  | poll
  | deadline
  | staticFallback
  | returnToSearch
  | renderResults (data : PollingStatusResponse)
  deriving DecidableEq

inductive DashboardCall where
  | submission (url : Text)
  | status (jobId : JobId)
  deriving DecidableEq

/-- A timer's task or a request, with the number of its analysis. -/
structure Owned (α : Type) where
  analysis : Nat
  content : α

/-- The job in `currentJobId`, with the number of its analysis. -/
structure AcceptedJob where
  jobId : JobId
  analysis : Nat
  deriving DecidableEq

/-- The globals of the script.  `analysis` counts the analyses; `expired` and
`cancelled` list those whose deadline has fired and those that were the latest
one when New Analysis was pressed. -/
structure PageSession where
  loop : EventLoop (Owned TimerTask) (Owned DashboardCall)
  currentJob : Option AcceptedJob
  pollTimer : Option Nat
  pollDeadline : Option Nat
  staticTimer : Option Nat
  staticShown : Bool
  latestPollData : Option PollingStatusResponse
  lastProgressMsg : Option String
  markdownText : String
  analysis : Nat
  expired : List Nat
  cancelled : List Nat

namespace PageSession

def initial : PageSession where
  loop := .empty
  currentJob := none
  pollTimer := none
  pollDeadline := none
  staticTimer := none
  staticShown := false
  latestPollData := none
  lastProgressMsg := none
  markdownText := ""
  analysis := 0
  expired := []
  cancelled := []

def currentJobId (session : PageSession) : Option JobId :=
  session.currentJob.map AcceptedJob.jobId

/-- `if (pollTimer) { clearTimeout(pollTimer); pollTimer = null; }`. -/
def clearPollTimer (session : PageSession) : PageSession :=
  { session with loop := session.loop.clearTimeout session.pollTimer, pollTimer := none }

def clearPollDeadline (session : PageSession) : PageSession :=
  { session with loop := session.loop.clearTimeout session.pollDeadline, pollDeadline := none }

def clearStaticTimer (session : PageSession) : PageSession :=
  { session with loop := session.loop.clearTimeout session.staticTimer, staticTimer := none }

/-- What a new submission and New Analysis do to the globals. -/
def reset (session : PageSession) : PageSession :=
  { session.clearPollTimer.clearPollDeadline.clearStaticTimer with
    currentJob := none
    lastProgressMsg := none
    staticShown := false
    latestPollData := none
    markdownText := "" }

/-- `setTimeout`, for a timer that is kept in no variable. -/
def schedule (analysis : Nat) (task : TimerTask) (session : PageSession) : PageSession :=
  { session with loop := session.loop.setTimeout { analysis, content := task } }

/-- `schedulePoll`. -/
def schedulePoll (analysis : Nat) (session : PageSession) : PageSession :=
  { session.schedule analysis .poll with pollTimer := some session.loop.nextId }

def armDeadline (analysis : Nat) (session : PageSession) : PageSession :=
  { session.schedule analysis .deadline with pollDeadline := some session.loop.nextId }

def armStaticTimer (analysis : Nat) (session : PageSession) : PageSession :=
  { session.schedule analysis .staticFallback with staticTimer := some session.loop.nextId }

def fetch (analysis : Nat) (call : DashboardCall) (session : PageSession) : PageSession :=
  { session with loop := session.loop.fetch { analysis, content := call } }

/-- The rest of `startAnalysis` once the job is accepted. -/
def acceptJob (analysis : Nat) (jobId : JobId) (session : PageSession) : PageSession :=
  let session := { session with currentJob := some { jobId, analysis } }
  let session := session.armDeadline analysis
  let session := { session with staticShown := false, latestPollData := none }
  (session.armStaticTimer analysis).schedulePoll analysis

/-- `doPoll`, up to its request. -/
def doPoll (session : PageSession) : PageSession :=
  match session.currentJob with
  | some job => if job.jobId = "" then session else session.fetch job.analysis (.status job.jobId)
  | none => session

/-- `markdownText = report.markdown_report`, if there is one. -/
def keepMarkdown (data : PollingStatusResponse) (session : PageSession) : PageSession :=
  match data.report with
  | some report =>
      if report.markdownReport = "" then session
      else { session with markdownText := report.markdownReport }
  | none => session

end PageSession

structure Dashboard where
  session : PageSession
  view : DashboardView

/-- The reply to a submission: the identifier of the job, the problem of a
response that is not ok, or an error of the request. -/
inductive SubmissionReply where
  | accepted (jobId : JobId)
  | refused (detail title : Option String)
  | networkError (message : String)

/-- The reply to a status request. -/
inductive StatusReply where
  | payload (data : PollingStatusResponse)
  | refused (detail : Option String)
  | networkError (message : String)

namespace Dashboard

def initial : Dashboard where
  session := .initial
  view := .initial

/-- `startAnalysis`, up to its request. -/
def startAnalysis (url : String) (page : Dashboard) : Dashboard :=
  let url := stripBy isJsWhiteSpace url.toList
  if url = [] then
    page
  else
    match validateGithubUrl url with
    | some message => { page with view := { page.view with urlError := message } }
    | none =>
        let session := page.session.reset
        let analysis := session.analysis + 1
        { session := { session with analysis }.fetch analysis (.submission url)
          view := { page.view with
            urlError := ""
            searchHidden := true
            resultsHidden := true
            loadingHidden := false
            terminal := [{ text := "Starting analysis for your repository…", type := .plain }]
            cursor := true } }

/-- The handler of `new-analysis-btn`. -/
def newAnalysis (page : Dashboard) : Dashboard where
  session :=
    { page.session.reset with cancelled := page.session.analysis :: page.session.cancelled }
  view := { page.view with bannerHidden := true, resultsHidden := true, searchHidden := false }

/-- A line in the terminal and the return to the search view. -/
def giveUp (analysis : Nat) (text : String) (page : Dashboard) : Dashboard where
  session := page.session.schedule analysis .returnToSearch
  view := page.view.addTermLine text .error

/-- The rest of `startAnalysis` once the reply has arrived. -/
def submissionReply (analysis : Nat) (reply : SubmissionReply) (page : Dashboard) : Dashboard :=
  match reply with
  | .accepted jobId =>
      { session := page.session.acceptJob analysis jobId
        view := page.view.addTermLine "Request accepted! Checking progress…" .success }
  | .refused detail title =>
      page.giveUp analysis (orDefault detail (orDefault title "Submission failed."))
  | .networkError message => page.giveUp analysis ("Network error: " ++ message)

/-- The callback of the deadline. -/
def onDeadline (analysis : Nat) (page : Dashboard) : Dashboard :=
  let session := page.session.clearPollTimer.clearStaticTimer
  let page := { page with session := { session with expired := analysis :: session.expired } }
  if page.session.staticShown then page
  else page.giveUp analysis "Analysis is taking longer than expected. Please try again later."

/-- `onStaticTimeout`. -/
def onStaticTimeout (page : Dashboard) : Dashboard :=
  let page := { page with session := { page.session with staticTimer := none } }
  if page.view.resultsHidden = false ∨ page.session.currentJob = none ∨
      page.session.currentJobId = some "" then
    page
  else
    match page.session.latestPollData with
    | none => page
    | some data =>
        if data.instantData = none then page
        else
          { session := { page.session with staticShown := true }.keepMarkdown data
            view := page.view.renderStaticData data }

/-- The task of a timer that fires. -/
def runTimer (analysis : Nat) (task : TimerTask) (page : Dashboard) : Dashboard :=
  match task with
  | .poll => { page with session := page.session.doPoll }
  | .deadline => page.onDeadline analysis
  | .staticFallback => page.onStaticTimeout
  | .returnToSearch => { page with view := page.view.showSearch }
  | .renderResults data =>
      { session := page.session.keepMarkdown data, view := page.view.renderResults data }

/-- The progress message is printed when it changes, unless the static data is
on the screen. -/
def printProgress (data : PollingStatusResponse) (page : Dashboard) : Dashboard :=
  if data.progressMsg = "" ∨ page.session.lastProgressMsg = some data.progressMsg then
    page
  else
    { session := { page.session with lastProgressMsg := some data.progressMsg }
      view :=
        if page.session.staticShown then page.view
        else page.view.addTermLine (friendlyProgress data.progressMsg) .plain }

/-- The end of polling. -/
def finishPolling (page : Dashboard) : Dashboard :=
  { page with session := page.session.clearPollDeadline.clearStaticTimer }

/-- What `doPoll` does with a payload, once it is stored. -/
def handlePayload (analysis : Nat) (data : PollingStatusResponse) (page : Dashboard) : Dashboard :=
  match data.status with
  | .completed =>
      let page := page.finishPolling
      if page.session.staticShown then
        { session := page.session.keepMarkdown data, view := page.view.updateAiInsights data }
      else
        { session := page.session.schedule analysis (.renderResults data)
          view := page.view.addTermLine "All done! Loading your report…" .success }
  | .failed =>
      let page := page.finishPolling
      if page.session.staticShown then { page with view := page.view.showFailure }
      else page.giveUp analysis (orDefault data.error "Analysis failed.")
  | _ => { page with session := page.session.schedulePoll analysis }

/-- The rest of `doPoll` once the reply has arrived. -/
def statusReply (analysis : Nat) (reply : StatusReply) (page : Dashboard) : Dashboard :=
  match reply with
  | .payload data =>
      let stored := { page with session := { page.session with latestPollData := some data } }
      (stored.printProgress data).handlePayload analysis data
  | .refused detail => page.giveUp analysis (orDefault detail "Failed to fetch status.")
  | .networkError message =>
      { session := page.session.schedulePoll analysis
        view := page.view.addTermLine ("Network error: " ++ message) .error }

/-- A timer is no longer armed when its task runs. -/
def dropTimer (id : Nat) (page : Dashboard) : Dashboard :=
  { page with session := { page.session with loop := page.session.loop.clearTimeout (some id) } }

def dropRequest (id : Nat) (page : Dashboard) : Dashboard :=
  { page with session := { page.session with loop := page.session.loop.settle id } }

end Dashboard

/-! ## Steps -/

/-- One step: the user submits the form with a text in its field or presses New
Analysis, a timer fires, or the reply to a request arrives. -/
inductive DashboardInput where
  | submit (url : String)
  | newAnalysis
  | timer (id : Nat)
  | submissionReply (id : Nat) (reply : SubmissionReply)
  | statusReply (id : Nat) (reply : StatusReply)

/-- The server answers a status request with a payload for the job it names. -/
def StatusReply.answers (jobId : JobId) : StatusReply → Bool
  | payload data => data.jobId = jobId
  | _ => true

/-- One step of the page. -/
def Dashboard.step : DashboardInput → Dashboard → Option Dashboard
  | .submit url, page => some (page.startAnalysis url)
  | .newAnalysis, page => some page.newAnalysis
  | .timer id, page =>
      match page.session.loop.timer? id with
      | some timer => some ((page.dropTimer id).runTimer timer.analysis timer.content)
      | none => none
  | .submissionReply id reply, page =>
      match page.session.loop.request? id with
      | some { analysis, content := .submission _ } =>
          some ((page.dropRequest id).submissionReply analysis reply)
      | _ => none
  | .statusReply id reply, page =>
      match page.session.loop.request? id with
      | some { analysis, content := .status jobId } =>
          if reply.answers jobId then
            some ((page.dropRequest id).statusReply analysis reply)
          else
            none
      | _ => none

/-- Everything a step can be. -/
theorem Dashboard.step_cases {input : DashboardInput} {page next : Dashboard}
    (moved : Dashboard.step input page = some next) :
    (∃ url, input = .submit url ∧ next = page.startAnalysis url) ∨
    (input = .newAnalysis ∧ next = page.newAnalysis) ∨
    (∃ id timer, input = .timer id ∧ page.session.loop.timer? id = some timer ∧
      next = (page.dropTimer id).runTimer timer.analysis timer.content) ∨
    (∃ id reply analysis url, input = .submissionReply id reply ∧
      page.session.loop.request? id = some { analysis, content := .submission url } ∧
      next = (page.dropRequest id).submissionReply analysis reply) ∨
    (∃ id reply analysis jobId, input = .statusReply id reply ∧
      page.session.loop.request? id = some { analysis, content := .status jobId } ∧
      reply.answers jobId = true ∧ next = (page.dropRequest id).statusReply analysis reply) := by
  cases input with
  | submit url => exact .inl ⟨url, rfl, (Option.some.inj moved).symm⟩
  | newAnalysis => exact .inr (.inl ⟨rfl, (Option.some.inj moved).symm⟩)
  | timer id =>
      cases armed : page.session.loop.timer? id with
      | none => simp [step, armed] at moved
      | some timer =>
          simp only [step, armed, Option.some.injEq] at moved
          exact .inr (.inr (.inl ⟨id, timer, rfl, armed, moved.symm⟩))
  | submissionReply id reply =>
      cases sent : page.session.loop.request? id with
      | none => simp [step, sent] at moved
      | some request =>
          obtain ⟨analysis, call⟩ := request
          cases call with
          | status jobId => simp [step, sent] at moved
          | submission url =>
              simp only [step, sent, Option.some.injEq] at moved
              exact .inr (.inr (.inr (.inl ⟨id, reply, analysis, url, rfl, sent, moved.symm⟩)))
  | statusReply id reply =>
      cases sent : page.session.loop.request? id with
      | none => simp [step, sent] at moved
      | some request =>
          obtain ⟨analysis, call⟩ := request
          cases call with
          | submission url => simp [step, sent] at moved
          | status jobId =>
              by_cases answers : reply.answers jobId = true
              · simp only [step, sent, answers, if_true, Option.some.injEq] at moved
                exact .inr (.inr (.inr (.inr ⟨id, reply, analysis, jobId, rfl, sent, answers,
                  moved.symm⟩)))
              · simp [step, sent, answers] at moved

end ResearchTool
