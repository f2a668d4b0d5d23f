import ResearchTool.Dashboard

/-!
# Analyses on one page

The continuations of the dashboard's script do not check which analysis they
belong to.  As long as none of them outlives its analysis, analyses on one page
do not interfere; a reply that arrives after New Analysis shows that they can.
-/

namespace ResearchTool

open EcmaScript Process

/-! ## Separate analyses -/

def TimerTask.isPoll : TimerTask → Bool
  | poll => true
  | _ => false

def DashboardCall.isStatus : DashboardCall → Bool
  | status _ => true
  | submission _ => false

/-- The armed poll timers and the status requests in flight. -/
def PageSession.pollChains (session : PageSession) : Nat :=
  session.loop.pending (·.content.isPoll) (·.content.isStatus)

/-- The analysis whose timer or request this step ends. -/
def DashboardInput.owner? (input : DashboardInput) (session : PageSession) : Option Nat :=
  match input with
  | submit _ => none
  | newAnalysis => none
  | timer id => (session.loop.timer? id).map Owned.analysis
  | submissionReply id _ => (session.loop.request? id).map Owned.analysis
  | statusReply id _ => (session.loop.request? id).map Owned.analysis

/-- At most one chain of polls is alive, and a stored payload is for the current
job. -/
structure Dashboard.Separate (page : Dashboard) : Prop where
  chains : page.session.pollChains ≤ 1
  stored : ∀ data ∈ page.session.latestPollData, page.session.currentJobId = some data.jobId

/-- What a step renders is for the current job.  It sends no status request for
an analysis whose deadline has fired or that was cancelled, and a timer or reply
of an earlier analysis leaves the view as it is. -/
structure StepSeparate (input : DashboardInput) (page next : Dashboard) : Prop where
  rendered : ∃ patches, next.view.results = patches ++ page.view.results ∧
    ∀ patch ∈ patches, ∀ data ∈ patch.payload?, next.session.currentJobId = some data.jobId
  requested : ∀ request ∈ next.session.loop.requests, request ∉ page.session.loop.requests →
    request.content.content.isStatus = true →
      request.content.analysis ∉ page.session.expired ∧
        request.content.analysis ∉ page.session.cancelled
  view : ∀ analysis, input.owner? page.session = some analysis → analysis < page.session.analysis →
    next.view = page.view

/-! ## The condition -/

/-- The analysis is the latest one and has not been cancelled. -/
def PageSession.isLive (session : PageSession) (analysis : Nat) : Bool :=
  analysis = session.analysis ∧ analysis ∉ session.cancelled

def DashboardView.isSearch (view : DashboardView) : Bool :=
  view.searchHidden = false ∧ view.loadingHidden = true ∧ view.resultsHidden = true

/-- No timer of an earlier analysis brings back the search view or renders. -/
def timerInTime (timer : Owned TimerTask) (page : Dashboard) : Bool :=
  match timer.content with
  | .returnToSearch => timer.analysis = page.session.analysis ∨ page.view.isSearch
  | .renderResults _ => page.session.isLive timer.analysis
  | _ => true

/-- A job is accepted for a live analysis, when no status request is in flight. -/
def SubmissionReply.inTime (reply : SubmissionReply) (analysis : Nat) (session : PageSession) :
    Bool :=
  match reply with
  | accepted _ =>
      session.isLive analysis ∧
        ∀ request ∈ session.loop.requests, request.content.content.isStatus = false
  | _ => analysis = session.analysis

def JobStatus.isFinal : JobStatus → Bool
  | completed => true
  | failed => true
  | _ => false

/-- A payload arrives for a live analysis, and before its deadline if the job is
not finished.  So does an error, unless the analysis is cancelled. -/
def StatusReply.inTime (reply : StatusReply) (analysis : Nat) (session : PageSession) : Bool :=
  match reply with
  | payload data =>
      session.isLive analysis ∧ (data.status.isFinal ∨ analysis ∉ session.expired)
  | refused _ => analysis = session.analysis
  | networkError _ =>
      analysis = session.analysis ∧ (analysis ∈ session.cancelled ∨ analysis ∉ session.expired)

/-- No continuation outlives its analysis. -/
def inTime (input : DashboardInput) (page : Dashboard) : Bool :=
  match input with
  | .submit _ => true
  | .newAnalysis => true
  | .timer id => (page.session.loop.timer? id).all fun timer => timerInTime timer page
  | .submissionReply id reply =>
      (page.session.loop.request? id).all fun request => reply.inTime request.analysis page.session
  | .statusReply id reply =>
      (page.session.loop.request? id).all fun request => reply.inTime request.analysis page.session

/-! ## The invariant -/

namespace PageSession

/-- Polls, deadlines and static timers are those in the variables, and of the
latest analysis.  What is rendered for the latest analysis is for its job. -/
def Keeps (session : PageSession) (timer : Pending (Owned TimerTask)) : Prop :=
  match timer.content.content with
  | .poll => session.pollTimer = some timer.id ∧ timer.content.analysis = session.analysis
  | .deadline => session.pollDeadline = some timer.id ∧ timer.content.analysis = session.analysis
  | .staticFallback =>
      session.staticTimer = some timer.id ∧ timer.content.analysis = session.analysis
  | .returnToSearch => True
  | .renderResults data => timer.content.analysis = session.analysis →
      session.analysis ∈ session.cancelled ∨ session.currentJobId = some data.jobId

/-- While the latest analysis is submitted it has no job, no timer and no other
request.  A status request of the latest analysis is for its job. -/
def Awaits (session : PageSession) (request : Pending (Owned DashboardCall)) : Prop :=
  match request.content.content with
  | .submission _ => request.content.analysis = session.analysis →
      session.currentJob = none ∧ session.analysis ∉ session.expired ∧
        (∀ timer ∈ session.loop.timers, timer.content.analysis ≠ session.analysis) ∧
        ∀ other ∈ session.loop.requests, other.content.analysis = session.analysis →
          other = request
  | .status jobId => request.content.analysis = session.analysis →
      session.analysis ∈ session.cancelled ∨ session.currentJobId = some jobId

structure Orderly (session : PageSession) : Prop where
  chains : session.pollChains ≤ 1
  timerTags : ∀ timer ∈ session.loop.timers, timer.content.analysis ≤ session.analysis
  requestTags : ∀ request ∈ session.loop.requests, request.content.analysis ≤ session.analysis
  expiredTags : ∀ analysis ∈ session.expired, analysis ≤ session.analysis
  keeps : ∀ timer ∈ session.loop.timers, session.Keeps timer
  awaits : ∀ request ∈ session.loop.requests, session.Awaits request
  current : ∀ job ∈ session.currentJob,
    job.analysis = session.analysis ∧ session.analysis ∉ session.cancelled
  stored : ∀ data ∈ session.latestPollData, session.currentJobId = some data.jobId
  expired : ∀ job ∈ session.currentJob, session.analysis ∈ session.expired →
    ∀ timer ∈ session.loop.timers, timer.content.content ≠ .poll

theorem orderly_initial : initial.Orderly := by
  constructor <;> simp [initial, EventLoop.empty, pollChains, EventLoop.pending]

/-! ## Counting chains -/

theorem pollChains_schedule (session : PageSession) (analysis : Nat) (task : TimerTask) :
    (session.schedule analysis task).pollChains =
      session.pollChains + if task.isPoll then 1 else 0 :=
  EventLoop.pending_setTimeout _

theorem pollChains_fetch (session : PageSession) (analysis : Nat) (call : DashboardCall) :
    (session.fetch analysis call).pollChains =
      session.pollChains + if call.isStatus then 1 else 0 :=
  EventLoop.pending_fetch _

theorem pollChains_clearTimeout_lt {session : PageSession} {id : Nat} {timer : Owned TimerTask}
    (member : { id, content := timer } ∈ session.loop.timers)
    (poll : timer.content.isPoll = true) :
    { session with loop := session.loop.clearTimeout (some id) }.pollChains < session.pollChains :=
  EventLoop.pending_clearTimeout_lt member poll

theorem pollChains_settle_lt {session : PageSession} {id : Nat} {request : Owned DashboardCall}
    (member : { id, content := request } ∈ session.loop.requests)
    (status : request.content.isStatus = true) :
    { session with loop := session.loop.settle id }.pollChains < session.pollChains :=
  EventLoop.pending_settle_lt member status

/-! ## Dropping timers and requests -/

/-- What remains when timers and requests are dropped is in order, if the
variables still hold the timers that are left. -/
theorem Orderly.shrink {session next : PageSession} (ordered : session.Orderly)
    (timers : next.loop.timers ⊆ session.loop.timers)
    (requests : next.loop.requests ⊆ session.loop.requests)
    (chains : next.pollChains ≤ session.pollChains)
    (analysis : next.analysis = session.analysis)
    (currentJob : next.currentJob = session.currentJob)
    (expired : next.expired = session.expired) (cancelled : next.cancelled = session.cancelled)
    (stored : ∀ data ∈ next.latestPollData, next.currentJobId = some data.jobId)
    (keeps : ∀ timer ∈ next.loop.timers, session.Keeps timer → next.Keeps timer) :
    next.Orderly := by
  have currentJobId : next.currentJobId = session.currentJobId := by
    rw [PageSession.currentJobId, currentJob, PageSession.currentJobId]
  constructor
  · exact chains.trans ordered.chains
  · rw [analysis]
    exact fun timer member => ordered.timerTags timer (timers member)
  · rw [analysis]
    exact fun request member => ordered.requestTags request (requests member)
  · rw [analysis, expired]
    exact ordered.expiredTags
  · exact fun timer member => keeps timer member (ordered.keeps timer (timers member))
  · intro request member
    have awaited := ordered.awaits request (requests member)
    unfold Awaits at awaited ⊢
    cases call : request.content.content with
    | submission url =>
        simp only [call, analysis, currentJob, expired] at awaited ⊢
        intro latest
        obtain ⟨none, unexpired, idle, alone⟩ := awaited latest
        exact ⟨none, unexpired, fun timer member => idle timer (timers member),
          fun other member => alone other (requests member)⟩
    | status jobId =>
        simpa only [call, analysis, currentJobId, cancelled] using awaited
  · rw [currentJob, analysis, cancelled]
    exact ordered.current
  · exact stored
  · rw [currentJob, analysis, expired]
    exact fun job current late timer member => ordered.expired job current late timer
      (timers member)

theorem Orderly.clearTimeout {session : PageSession} (ordered : session.Orderly)
    (timer : Option Nat) :
    { session with loop := session.loop.clearTimeout timer }.Orderly := by
  refine ordered.shrink (EventLoop.timers_clearTimeout_subset _ _) (List.Subset.refl _)
    (EventLoop.pending_clearTimeout_le _) rfl rfl rfl rfl ordered.stored ?_
  exact fun _ _ kept => kept

theorem Orderly.settle {session : PageSession} (ordered : session.Orderly) (id : Nat) :
    { session with loop := session.loop.settle id }.Orderly := by
  refine ordered.shrink (List.Subset.refl _) (EventLoop.requests_settle_subset _ _)
    (EventLoop.pending_settle_le _) rfl rfl rfl rfl ordered.stored ?_
  exact fun _ _ kept => kept

theorem Orderly.clearPollTimer {session : PageSession} (ordered : session.Orderly) :
    session.clearPollTimer.Orderly := by
  refine ordered.shrink (EventLoop.timers_clearTimeout_subset _ _) (List.Subset.refl _)
    (EventLoop.pending_clearTimeout_le _) rfl rfl rfl rfl ordered.stored ?_
  intro timer member kept
  have other : some timer.id ≠ session.pollTimer := (EventLoop.mem_timers_clearTimeout.mp member).2
  unfold Keeps at kept ⊢
  cases task : timer.content.content with
  | poll =>
      rw [task] at kept
      exact absurd kept.1.symm other
  | _ =>
      rw [task] at kept
      exact kept

theorem Orderly.clearPollDeadline {session : PageSession} (ordered : session.Orderly) :
    session.clearPollDeadline.Orderly := by
  refine ordered.shrink (EventLoop.timers_clearTimeout_subset _ _) (List.Subset.refl _)
    (EventLoop.pending_clearTimeout_le _) rfl rfl rfl rfl ordered.stored ?_
  intro timer member kept
  have other : some timer.id ≠ session.pollDeadline :=
    (EventLoop.mem_timers_clearTimeout.mp member).2
  unfold Keeps at kept ⊢
  cases task : timer.content.content with
  | deadline =>
      rw [task] at kept
      exact absurd kept.1.symm other
  | _ =>
      rw [task] at kept
      exact kept

theorem Orderly.clearStaticTimer {session : PageSession} (ordered : session.Orderly) :
    session.clearStaticTimer.Orderly := by
  refine ordered.shrink (EventLoop.timers_clearTimeout_subset _ _) (List.Subset.refl _)
    (EventLoop.pending_clearTimeout_le _) rfl rfl rfl rfl ordered.stored ?_
  intro timer member kept
  have other : some timer.id ≠ session.staticTimer :=
    (EventLoop.mem_timers_clearTimeout.mp member).2
  unfold Keeps at kept ⊢
  cases task : timer.content.content with
  | staticFallback =>
      rw [task] at kept
      exact absurd kept.1.symm other
  | _ =>
      rw [task] at kept
      exact kept

/-! ## A new analysis -/

/-- Only timers that are kept in no variable survive a reset. -/
theorem Orderly.keeps_reset {session : PageSession} (ordered : session.Orderly)
    {timer : Pending (Owned TimerTask)} (member : timer ∈ session.reset.loop.timers) :
    timer ∈ session.loop.timers ∧
      (timer.content.content = .returnToSearch ∨
        ∃ data, timer.content.content = .renderResults data) := by
  have left : timer ∈ (((session.loop.clearTimeout session.pollTimer).clearTimeout
      session.pollDeadline).clearTimeout session.staticTimer).timers := member
  simp only [EventLoop.mem_timers_clearTimeout] at left
  obtain ⟨⟨⟨present, notPoll⟩, notDeadline⟩, notStatic⟩ := left
  have kept := ordered.keeps timer present
  refine ⟨present, ?_⟩
  unfold Keeps at kept
  cases task : timer.content.content with
  | poll =>
      rw [task] at kept
      exact absurd kept.1.symm notPoll
  | deadline =>
      rw [task] at kept
      exact absurd kept.1.symm notDeadline
  | staticFallback =>
      rw [task] at kept
      exact absurd kept.1.symm notStatic
  | returnToSearch => exact .inl rfl
  | renderResults data => exact .inr ⟨data, rfl⟩

theorem pollChains_reset_le (session : PageSession) :
    session.reset.pollChains ≤ session.pollChains :=
  calc
    _ ≤ (session.loop.clearTimeout session.pollTimer |>.clearTimeout session.pollDeadline).pending
          (·.content.isPoll) (·.content.isStatus) := EventLoop.pending_clearTimeout_le _
    _ ≤ (session.loop.clearTimeout session.pollTimer).pending
          (·.content.isPoll) (·.content.isStatus) := EventLoop.pending_clearTimeout_le _
    _ ≤ session.pollChains := EventLoop.pending_clearTimeout_le _

theorem Orderly.newAnalysis {session : PageSession} (ordered : session.Orderly) :
    { session.reset with cancelled := session.analysis :: session.cancelled }.Orderly := by
  constructor
  · exact (pollChains_reset_le session).trans ordered.chains
  · exact fun timer member => ordered.timerTags timer (ordered.keeps_reset member).1
  · exact ordered.requestTags
  · exact ordered.expiredTags
  · intro timer member
    rcases (ordered.keeps_reset member).2 with task | ⟨data, task⟩
    · simp only [Keeps, task]
    · simp only [Keeps, task]
      exact fun _ => .inl List.mem_cons_self
  · intro request member
    have awaited := ordered.awaits request member
    unfold Awaits at awaited ⊢
    cases call : request.content.content with
    | submission url =>
        simp only [call] at awaited ⊢
        intro latest
        obtain ⟨_, unexpired, idle, alone⟩ := awaited latest
        exact ⟨rfl, unexpired, fun timer kept => idle timer (ordered.keeps_reset kept).1, alone⟩
    | status jobId => exact fun _ => .inl List.mem_cons_self
  · intro job current
    cases current
  · intro data stored
    cases stored
  · intro job current
    cases current

theorem Orderly.submit {session : PageSession} (ordered : session.Orderly) (url : Python.Text) :
    ({ session.reset with analysis := session.reset.analysis + 1 }.fetch
      (session.reset.analysis + 1)
      (.submission url)).Orderly := by
  have requests : ∀ request ∈ session.reset.loop.requests,
      request.content.analysis < session.analysis + 1 :=
    fun request member => Nat.lt_succ_of_le (ordered.requestTags request member)
  have timers : ∀ timer ∈ session.reset.loop.timers,
      timer.content.analysis < session.analysis + 1 :=
    fun timer member => Nat.lt_succ_of_le (ordered.timerTags timer (ordered.keeps_reset member).1)
  constructor
  · rw [pollChains_fetch]
    exact (pollChains_reset_le session).trans ordered.chains
  · exact fun timer member => (timers timer member).le
  · intro request member
    rcases EventLoop.mem_requests_fetch.mp member with rfl | earlier
    · exact le_rfl
    · exact (requests request earlier).le
  · exact fun analysis late => Nat.le_succ_of_le (ordered.expiredTags analysis late)
  · intro timer member
    rcases (ordered.keeps_reset member).2 with task | ⟨data, task⟩
    · simp only [Keeps, task]
    · simp only [Keeps, task]
      intro latest
      exact absurd latest (timers timer member).ne
  · intro request member
    rcases EventLoop.mem_requests_fetch.mp member with rfl | earlier
    · intro _
      refine ⟨rfl, ?_, fun timer kept => (timers timer kept).ne, ?_⟩
      · intro late
        exact absurd (ordered.expiredTags _ late) (Nat.not_succ_le_self _)
      · intro other present latest
        rcases EventLoop.mem_requests_fetch.mp present with rfl | older
        · rfl
        · exact absurd latest (requests other older).ne
    · have old := (requests request earlier).ne
      unfold Awaits
      cases request.content.content with
      | submission url => exact fun latest => absurd latest old
      | status jobId => exact fun latest => absurd latest old
  · intro job current
    cases current
  · intro data stored
    cases stored
  · intro job current
    cases current

/-! ## New timers and requests -/

/-- No submission of the latest analysis is in flight. -/
def IsSubmitted (session : PageSession) : Prop :=
  ∀ request ∈ session.loop.requests, request.content.content.isStatus = false →
    request.content.analysis ≠ session.analysis

theorem IsSubmitted.awaits {session next : PageSession} (submitted : session.IsSubmitted)
    (ordered : session.Orderly) (requests : next.loop.requests ⊆ session.loop.requests)
    (analysis : next.analysis = session.analysis)
    (currentJob : next.currentJob = session.currentJob)
    (cancelled : next.cancelled = session.cancelled) :
    ∀ request ∈ next.loop.requests, next.Awaits request := by
  intro request member
  have awaited := ordered.awaits request (requests member)
  have sent := submitted request (requests member)
  unfold Awaits at awaited ⊢
  cases call : request.content.content with
  | submission url =>
      rw [call] at sent
      intro latest
      exact absurd (latest.trans analysis) (sent rfl)
  | status jobId =>
      have currentJobId : next.currentJobId = session.currentJobId := by
        rw [PageSession.currentJobId, currentJob, PageSession.currentJobId]
      simpa only [call, analysis, currentJobId, cancelled] using awaited

/-- A timer in no variable, for the latest analysis. -/
theorem Orderly.schedule {session : PageSession} (ordered : session.Orderly)
    (submitted : session.IsSubmitted) {task : TimerTask} (free : task.isPoll = false)
    (kept : session.Keeps ⟨session.loop.nextId, ⟨session.analysis, task⟩⟩) :
    (session.schedule session.analysis task).Orderly := by
  constructor
  · rw [pollChains_schedule, free]
    exact ordered.chains
  · intro timer member
    rcases EventLoop.mem_timers_setTimeout.mp member with rfl | earlier
    · exact le_rfl
    · exact ordered.timerTags timer earlier
  · exact ordered.requestTags
  · exact ordered.expiredTags
  · intro timer member
    rcases EventLoop.mem_timers_setTimeout.mp member with rfl | earlier
    · exact kept
    · exact ordered.keeps timer earlier
  · exact submitted.awaits ordered (List.Subset.refl _) rfl rfl rfl
  · exact ordered.current
  · exact ordered.stored
  · intro job current late timer member
    rcases EventLoop.mem_timers_setTimeout.mp member with rfl | earlier
    · intro poll
      rw [show task = .poll from poll] at free
      cases free
    · exact ordered.expired job current late timer earlier

theorem not_isPoll_of_pollChains {session : PageSession} (idle : session.pollChains = 0)
    {timer : Pending (Owned TimerTask)} (member : timer ∈ session.loop.timers) :
    timer.content.content ≠ .poll := by
  intro poll
  have isPoll : timer.content.content.isPoll = true := by
    rw [poll]
    rfl
  have counted := pollChains_clearTimeout_lt member isPoll
  rw [idle] at counted
  exact absurd counted (Nat.not_lt_zero _)

/-- The next poll of the latest analysis, when no chain is alive. -/
theorem Orderly.schedulePoll {session : PageSession} (ordered : session.Orderly)
    (submitted : session.IsSubmitted) (idle : session.pollChains = 0)
    (unexpired : ∀ job ∈ session.currentJob, session.analysis ∉ session.expired) :
    (session.schedulePoll session.analysis).Orderly := by
  constructor
  · have one := pollChains_schedule session session.analysis .poll
    rw [idle] at one
    exact one.le
  · intro timer member
    rcases EventLoop.mem_timers_setTimeout.mp member with rfl | earlier
    · exact le_rfl
    · exact ordered.timerTags timer earlier
  · exact ordered.requestTags
  · exact ordered.expiredTags
  · intro timer member
    rcases EventLoop.mem_timers_setTimeout.mp member with rfl | earlier
    · exact ⟨rfl, rfl⟩
    · have other := not_isPoll_of_pollChains idle earlier
      have kept := ordered.keeps timer earlier
      unfold Keeps at kept ⊢
      cases task : timer.content.content with
      | poll => exact absurd task other
      | _ =>
          rw [task] at kept
          exact kept
  · exact submitted.awaits ordered (List.Subset.refl _) rfl rfl rfl
  · exact ordered.current
  · exact ordered.stored
  · exact fun job current late => absurd late (unexpired job current)

/-- The poll of an idle page. -/
theorem Orderly.doPoll {session : PageSession} (ordered : session.Orderly)
    (idle : session.pollChains = 0) : session.doPoll.Orderly := by
  unfold PageSession.doPoll
  cases current : session.currentJob with
  | none => exact ordered
  | some job =>
      by_cases unnamed : job.jobId = ""
      · simpa [unnamed] using ordered
      · have latest := ordered.current job current
        have submitted : session.IsSubmitted := by
          intro request member status tag
          have awaited := ordered.awaits request member
          unfold Awaits at awaited
          cases call : request.content.content with
          | submission url =>
              rw [call] at awaited
              have none := (awaited tag).1
              rw [current] at none
              cases none
          | status jobId =>
              rw [call] at status
              cases status
        simp only [unnamed, if_false]
        constructor
        · rw [pollChains_fetch, idle]
          exact le_rfl
        · exact ordered.timerTags
        · intro request member
          rcases EventLoop.mem_requests_fetch.mp member with rfl | earlier
          · exact latest.1.le
          · exact ordered.requestTags request earlier
        · exact ordered.expiredTags
        · exact ordered.keeps
        · intro request member
          rcases EventLoop.mem_requests_fetch.mp member with rfl | earlier
          · intro _
            right
            simp [PageSession.currentJobId, PageSession.fetch, current]
          · have awaited := ordered.awaits request earlier
            have sent := submitted request earlier
            unfold Awaits at awaited ⊢
            cases call : request.content.content with
            | submission url =>
                rw [call] at sent
                exact fun tag => absurd tag (sent rfl)
            | status jobId =>
                rw [call] at awaited
                exact awaited
        · exact ordered.current
        · exact ordered.stored
        · exact ordered.expired

/-! ## Submissions that have been replied to -/

/-- An analysis with a timer has been submitted. -/
theorem Orderly.isSubmitted_of_timer {session : PageSession} (ordered : session.Orderly)
    {timer : Pending (Owned TimerTask)} (member : timer ∈ session.loop.timers)
    (latest : timer.content.analysis = session.analysis) : session.IsSubmitted := by
  intro request present status tag
  have awaited := ordered.awaits request present
  unfold Awaits at awaited
  cases call : request.content.content with
  | submission url =>
      rw [call] at awaited
      exact (awaited tag).2.2.1 timer member latest
  | status jobId =>
      rw [call] at status
      cases status

/-- So has one that asks for a status. -/
theorem Orderly.isSubmitted_of_status {session : PageSession} (ordered : session.Orderly)
    {request : Pending (Owned DashboardCall)} (member : request ∈ session.loop.requests)
    (asked : request.content.content.isStatus = true)
    (latest : request.content.analysis = session.analysis) : session.IsSubmitted := by
  intro other present status tag
  have awaited := ordered.awaits other present
  unfold Awaits at awaited
  cases call : other.content.content with
  | submission url =>
      rw [call] at awaited
      have same := (awaited tag).2.2.2 request member latest
      rw [same, status] at asked
      cases asked
  | status jobId =>
      rw [call] at status
      cases status

/-- What is known of the latest analysis while its submission is in flight. -/
theorem Orderly.submission {session : PageSession} (ordered : session.Orderly) {id : Nat}
    {url : Python.Text}
    (member : { id, content := { analysis := session.analysis, content := .submission url } } ∈
      session.loop.requests) :
    session.currentJob = none ∧ session.analysis ∉ session.expired ∧
      (∀ timer ∈ session.loop.timers, timer.content.analysis ≠ session.analysis) ∧
      ∀ other ∈ (session.loop.settle id).requests, other.content.analysis ≠ session.analysis := by
  obtain ⟨none, unexpired, idle, alone⟩ := ordered.awaits _ member rfl
  refine ⟨none, unexpired, idle, ?_⟩
  intro other present latest
  obtain ⟨inFlight, different⟩ := EventLoop.mem_requests_settle.mp present
  rw [alone other inFlight latest] at different
  exact different rfl

theorem IsSubmitted.mono {session next : PageSession} (submitted : session.IsSubmitted)
    (requests : next.loop.requests ⊆ session.loop.requests)
    (analysis : next.analysis = session.analysis) : next.IsSubmitted := by
  intro request member status
  rw [analysis]
  exact submitted request (requests member) status

/-- The job of the latest analysis is accepted. -/
theorem Orderly.acceptJob {session : PageSession} (ordered : session.Orderly) (jobId : JobId)
    (live : session.analysis ∉ session.cancelled) (unexpired : session.analysis ∉ session.expired)
    (timers : ∀ timer ∈ session.loop.timers, timer.content.analysis ≠ session.analysis)
    (requests : ∀ request ∈ session.loop.requests, request.content.analysis ≠ session.analysis)
    (idle : session.pollChains = 0) : (session.acceptJob session.analysis jobId).Orderly := by
  have old : ∀ timer ∈ session.loop.timers, timer.content.content = .returnToSearch ∨
      ∃ data, timer.content.content = .renderResults data := by
    intro timer member
    have other := timers timer member
    have kept := ordered.keeps timer member
    unfold Keeps at kept
    cases task : timer.content.content with
    | poll =>
        rw [task] at kept
        exact absurd kept.2 other
    | deadline =>
        rw [task] at kept
        exact absurd kept.2 other
    | staticFallback =>
        rw [task] at kept
        exact absurd kept.2 other
    | returnToSearch => exact .inl rfl
    | renderResults data => exact .inr ⟨data, rfl⟩
  have members : ∀ timer ∈ (session.acceptJob session.analysis jobId).loop.timers,
      timer = ⟨session.loop.nextId + 2, ⟨session.analysis, .poll⟩⟩ ∨
      timer = ⟨session.loop.nextId + 1, ⟨session.analysis, .staticFallback⟩⟩ ∨
      timer = ⟨session.loop.nextId, ⟨session.analysis, .deadline⟩⟩ ∨
      timer ∈ session.loop.timers := by
    intro timer member
    rcases EventLoop.mem_timers_setTimeout.mp member with rfl | member
    · exact .inl rfl
    rcases EventLoop.mem_timers_setTimeout.mp member with rfl | member
    · exact .inr (.inl rfl)
    rcases EventLoop.mem_timers_setTimeout.mp member with rfl | member
    · exact .inr (.inr (.inl rfl))
    · exact .inr (.inr (.inr member))
  constructor
  · change (((session.loop.setTimeout _).setTimeout _).setTimeout _).pending _ _ ≤ 1
    rw [EventLoop.pending_setTimeout, EventLoop.pending_setTimeout, EventLoop.pending_setTimeout]
    change session.pollChains + 0 + 0 + 1 ≤ 1
    rw [idle]
  · intro timer member
    rcases members timer member with rfl | rfl | rfl | earlier
    · exact le_rfl
    · exact le_rfl
    · exact le_rfl
    · exact ordered.timerTags timer earlier
  · exact ordered.requestTags
  · exact ordered.expiredTags
  · intro timer member
    rcases members timer member with rfl | rfl | rfl | earlier
    · exact ⟨rfl, rfl⟩
    · exact ⟨rfl, rfl⟩
    · exact ⟨rfl, rfl⟩
    · rcases old timer earlier with task | ⟨data, task⟩
      · simp only [Keeps, task]
      · simp only [Keeps, task]
        exact fun latest => absurd latest (timers timer earlier)
  · intro request member
    have other := requests request member
    unfold Awaits
    cases request.content.content with
    | submission url => exact fun latest => absurd latest other
    | status jobId => exact fun latest => absurd latest other
  · intro job current
    cases current
    exact ⟨rfl, live⟩
  · intro data stored
    cases stored
  · exact fun _ _ late => absurd late unexpired

/-! ## Variables that the invariant does not read -/

theorem Orderly.keepMarkdown {session : PageSession} (ordered : session.Orderly)
    (data : PollingStatusResponse) : (session.keepMarkdown data).Orderly := by
  unfold PageSession.keepMarkdown
  cases data.report with
  | none => exact ordered
  | some report =>
      by_cases empty : report.markdownReport = ""
      · simpa [empty] using ordered
      · simp only [empty, if_false]
        refine ordered.shrink (List.Subset.refl _) (List.Subset.refl _) le_rfl rfl rfl rfl rfl
          ordered.stored ?_
        exact fun _ _ kept => kept

theorem Orderly.store {session : PageSession} (ordered : session.Orderly)
    {data : PollingStatusResponse}
    (current : session.currentJobId = some data.jobId) :
    { session with latestPollData := some data }.Orderly := by
  refine ordered.shrink (List.Subset.refl _) (List.Subset.refl _) le_rfl rfl rfl rfl rfl ?_ ?_
  · intro other stored
    cases stored
    exact current
  · exact fun _ _ kept => kept

/-- The deadline of the latest analysis, once its poll timer is cleared. -/
theorem Orderly.expire {session : PageSession} (ordered : session.Orderly)
    (submitted : session.IsSubmitted)
    (idle : ∀ timer ∈ session.loop.timers, timer.content.content ≠ .poll) :
    { session with expired := session.analysis :: session.expired }.Orderly := by
  constructor
  · exact ordered.chains
  · exact ordered.timerTags
  · exact ordered.requestTags
  · intro analysis late
    rcases List.mem_cons.mp late with rfl | earlier
    · exact le_rfl
    · exact ordered.expiredTags analysis earlier
  · exact ordered.keeps
  · exact submitted.awaits ordered (List.Subset.refl _) rfl rfl rfl
  · exact ordered.current
  · exact ordered.stored
  · exact fun _ _ _ => idle

theorem Orderly.not_poll_of_cleared {session : PageSession} (ordered : session.Orderly)
    {timer : Pending (Owned TimerTask)} (member : timer ∈ session.clearPollTimer.loop.timers) :
    timer.content.content ≠ .poll := by
  obtain ⟨present, other⟩ := EventLoop.mem_timers_clearTimeout.mp member
  intro task
  have kept := ordered.keeps timer present
  rw [Keeps, task] at kept
  exact other kept.1.symm

end PageSession

/-! ## Steps in order -/

namespace Dashboard

open PageSession

theorem giveUp_orderly {page : Dashboard} (ordered : page.session.Orderly)
    (submitted : page.session.IsSubmitted) (text : String) :
    (page.giveUp page.session.analysis text).session.Orderly :=
  ordered.schedule submitted rfl trivial

theorem onDeadline_orderly {page : Dashboard} (ordered : page.session.Orderly)
    (submitted : page.session.IsSubmitted) :
    (page.onDeadline page.session.analysis).session.Orderly := by
  have cleared := ordered.clearPollTimer.clearStaticTimer
  have unsent : page.session.clearPollTimer.clearStaticTimer.IsSubmitted :=
    submitted.mono (List.Subset.refl _) rfl
  have expired := cleared.expire unsent fun timer member =>
    ordered.not_poll_of_cleared (EventLoop.timers_clearTimeout_subset _ _ member)
  unfold onDeadline
  by_cases shown : page.session.staticShown = true
  · simpa only [clearStaticTimer, clearPollTimer, shown, if_true] using expired
  · have kept := unsent.mono (List.Subset.refl _) rfl
    have given := @Orderly.schedule _ expired kept .returnToSearch rfl trivial
    simpa only [clearStaticTimer, clearPollTimer, shown, if_false, Bool.false_eq_true, giveUp]
      using given

theorem onStaticTimeout_orderly {page : Dashboard}
    (ordered : { page.session with staticTimer := none }.Orderly) :
    page.onStaticTimeout.session.Orderly := by
  unfold onStaticTimeout
  dsimp only
  split
  · exact ordered
  · split
    · exact ordered
    · split
      · exact ordered
      · apply Orderly.keepMarkdown
        refine ordered.shrink (List.Subset.refl _) (List.Subset.refl _) le_rfl rfl rfl rfl rfl
          ordered.stored ?_
        exact fun _ _ kept => kept

theorem runTimer_orderly {page : Dashboard} {id : Nat} {timer : Owned TimerTask}
    (ordered : page.session.Orderly) (armed : page.session.loop.timer? id = some timer) :
    ((page.dropTimer id).runTimer timer.analysis timer.content).session.Orderly := by
  have member := EventLoop.mem_of_timer? armed
  have dropped : (page.dropTimer id).session.Orderly := ordered.clearTimeout (some id)
  have kept := ordered.keeps _ member
  unfold Keeps at kept
  cases task : timer.content with
  | poll =>
      have fewer := pollChains_clearTimeout_lt member (by rw [task]; rfl)
      have most := ordered.chains
      exact dropped.doPoll (Nat.lt_one_iff.mp (fewer.trans_le most))
  | deadline =>
      simp only [task] at kept
      have submitted : (page.dropTimer id).session.IsSubmitted :=
        (ordered.isSubmitted_of_timer member kept.2).mono (List.Subset.refl _) rfl
      rw [kept.2]
      exact onDeadline_orderly dropped submitted
  | staticFallback =>
      simp only [task] at kept
      apply onStaticTimeout_orderly
      refine dropped.shrink (List.Subset.refl _) (List.Subset.refl _) le_rfl rfl rfl rfl rfl
        dropped.stored ?_
      intro other present held
      obtain ⟨_, different⟩ := EventLoop.mem_timers_clearTimeout.mp present
      unfold Keeps at held ⊢
      cases otherTask : other.content.content with
      | staticFallback =>
          rw [otherTask] at held
          exact absurd (held.1.symm.trans kept.1) different
      | _ =>
          rw [otherTask] at held
          exact held
  | returnToSearch => exact dropped
  | renderResults data => exact dropped.keepMarkdown data

theorem pollChains_eq_zero {session : PageSession}
    (polls : ∀ timer ∈ session.loop.timers, timer.content.content ≠ .poll)
    (requests : ∀ request ∈ session.loop.requests, request.content.content.isStatus = false) :
    session.pollChains = 0 := by
  unfold pollChains EventLoop.pending
  rw [List.countP_eq_zero.mpr, List.countP_eq_zero.mpr]
  · intro request member
    simp [requests request member]
  · intro timer member
    have other := polls timer member
    cases task : timer.content.content <;> simp_all [TimerTask.isPoll]

/-- Replies in time are for the latest analysis. -/
theorem latest_of_submissionReply {reply : SubmissionReply} {analysis : Nat}
    {session : PageSession}
    (inTime : reply.inTime analysis session = true) : analysis = session.analysis := by
  cases reply with
  | accepted jobId =>
      simp only [SubmissionReply.inTime, isLive, decide_eq_true_eq] at inTime
      exact inTime.1.1
  | refused detail title => simpa [SubmissionReply.inTime] using inTime
  | networkError message => simpa [SubmissionReply.inTime] using inTime

theorem latest_of_statusReply {reply : StatusReply} {analysis : Nat} {session : PageSession}
    (inTime : reply.inTime analysis session = true) : analysis = session.analysis := by
  cases reply with
  | payload data =>
      simp only [StatusReply.inTime, isLive, decide_eq_true_eq] at inTime
      exact inTime.1.1
  | refused detail => simpa [StatusReply.inTime] using inTime
  | networkError message =>
      simp only [StatusReply.inTime, decide_eq_true_eq] at inTime
      exact inTime.1

theorem submissionReply_orderly {page : Dashboard} {id analysis : Nat} {url : Python.Text}
    {reply : SubmissionReply} (ordered : page.session.Orderly)
    (sent : page.session.loop.request? id = some { analysis, content := .submission url })
    (inTime : reply.inTime analysis page.session = true) :
    ((page.dropRequest id).submissionReply analysis reply).session.Orderly := by
  have member := EventLoop.mem_of_request? sent
  have settled : (page.dropRequest id).session.Orderly := ordered.settle id
  have latest := latest_of_submissionReply inTime
  rw [latest] at member inTime ⊢
  obtain ⟨_, unexpired, timers, requests⟩ := ordered.submission member
  have submitted : (page.dropRequest id).session.IsSubmitted :=
    fun request present _ => requests request present
  cases reply with
  | accepted jobId =>
      simp only [SubmissionReply.inTime, isLive, decide_eq_true_eq, Bool.and_eq_true,
        Bool.decide_and] at inTime
      obtain ⟨⟨_, live⟩, noStatus⟩ := inTime
      have idle : (page.dropRequest id).session.pollChains = 0 := by
        apply pollChains_eq_zero
        · intro timer present poll
          have kept := settled.keeps timer present
          rw [Keeps, poll] at kept
          exact timers timer present kept.2
        · exact fun request present =>
            noStatus request (EventLoop.requests_settle_subset _ _ present)
      exact settled.acceptJob jobId live unexpired timers requests idle
  | refused detail title => exact giveUp_orderly settled submitted _
  | networkError message => exact giveUp_orderly settled submitted _

theorem handlePayload_orderly {page : Dashboard} {data : PollingStatusResponse}
    (ordered : page.session.Orderly) (submitted : page.session.IsSubmitted)
    (idle : page.session.pollChains = 0) (current : page.session.currentJobId = some data.jobId)
    (inTime : data.status.isFinal = true ∨ page.session.analysis ∉ page.session.expired) :
    (page.handlePayload page.session.analysis data).session.Orderly := by
  have finished : page.finishPolling.session.Orderly := ordered.clearPollDeadline.clearStaticTimer
  have unsent : page.finishPolling.session.IsSubmitted := submitted.mono (List.Subset.refl _) rfl
  unfold handlePayload
  cases status : data.status with
  | completed =>
      dsimp only
      split
      · exact finished.keepMarkdown data
      · exact finished.schedule unsent rfl fun _ => .inr current
  | failed =>
      dsimp only
      split
      · exact finished
      · exact giveUp_orderly finished unsent _
  | pending =>
      rw [status] at inTime
      have unexpired := inTime.resolve_left (by decide)
      exact ordered.schedulePoll submitted idle fun _ _ => unexpired
  | processing =>
      rw [status] at inTime
      have unexpired := inTime.resolve_left (by decide)
      exact ordered.schedulePoll submitted idle fun _ _ => unexpired

theorem printProgress_session (page : Dashboard) (data : PollingStatusResponse) :
    ∃ message, (page.printProgress data).session =
      { page.session with lastProgressMsg := message } := by
  unfold printProgress
  split
  · exact ⟨page.session.lastProgressMsg, rfl⟩
  · exact ⟨some data.progressMsg, rfl⟩

/-- A payload in time is for the current job. -/
theorem currentJobId_of_payload {page : Dashboard} {id analysis : Nat} {jobId : JobId}
    {data : PollingStatusResponse} (ordered : page.session.Orderly)
    (sent : page.session.loop.request? id = some { analysis, content := .status jobId })
    (answers : (StatusReply.payload data).answers jobId = true)
    (live : page.session.isLive analysis = true) :
    page.session.currentJobId = some data.jobId := by
  simp only [isLive, decide_eq_true_eq] at live
  obtain ⟨latest, uncancelled⟩ := live
  have awaited := ordered.awaits _ (EventLoop.mem_of_request? sent)
  have same : data.jobId = jobId := by simpa [StatusReply.answers] using answers
  rw [same]
  exact (awaited latest).resolve_left (latest ▸ uncancelled)

theorem statusReply_orderly {page : Dashboard} {id analysis : Nat} {jobId : JobId}
    {reply : StatusReply} (ordered : page.session.Orderly)
    (sent : page.session.loop.request? id = some { analysis, content := .status jobId })
    (answers : reply.answers jobId = true) (inTime : reply.inTime analysis page.session = true) :
    ((page.dropRequest id).statusReply analysis reply).session.Orderly := by
  have member := EventLoop.mem_of_request? sent
  have settled : (page.dropRequest id).session.Orderly := ordered.settle id
  have idle : (page.dropRequest id).session.pollChains = 0 := by
    have fewer := pollChains_settle_lt member rfl
    exact Nat.lt_one_iff.mp (fewer.trans_le ordered.chains)
  have latest := latest_of_statusReply inTime
  subst latest
  have submitted : (page.dropRequest id).session.IsSubmitted :=
    (ordered.isSubmitted_of_status member rfl rfl).mono (EventLoop.requests_settle_subset _ _) rfl
  cases reply with
  | payload data =>
      simp only [StatusReply.inTime, decide_eq_true_eq] at inTime
      obtain ⟨live, unexpired⟩ := inTime
      have current : page.session.currentJobId = some data.jobId :=
        currentJobId_of_payload ordered sent answers live
      have stored := settled.store current
      let kept : Dashboard := { (page.dropRequest id) with
        session := { (page.dropRequest id).session with latestPollData := some data } }
      obtain ⟨message, session⟩ := printProgress_session kept data
      have tag : (kept.printProgress data).session.analysis = page.session.analysis := by
        rw [session]
        rfl
      have printed : (kept.printProgress data).session.Orderly := by
        rw [session]
        refine stored.shrink (List.Subset.refl _) (List.Subset.refl _) le_rfl rfl rfl rfl rfl
          stored.stored ?_
        exact fun _ _ held => held
      have handled := handlePayload_orderly printed (by rw [session]; exact submitted)
        (by rw [session]; exact idle) (by rw [session]; exact current)
          (by rw [session]; exact unexpired)
      rw [tag] at handled
      exact handled
  | refused detail => exact giveUp_orderly settled submitted _
  | networkError message =>
      simp only [StatusReply.inTime, decide_eq_true_eq] at inTime
      apply settled.schedulePoll submitted idle
      intro job current
      exact inTime.2.resolve_left (settled.current job current).2

/-- A step in time keeps the session in order. -/
theorem step_orderly {input : DashboardInput} {page next : Dashboard}
    (permitted : inTime input page = true) (moved : step input page = some next)
    (ordered : page.session.Orderly) : next.session.Orderly := by
  rcases step_cases moved with ⟨url, rfl, rfl⟩ | ⟨rfl, rfl⟩ | ⟨id, timer, rfl, armed, rfl⟩ |
    ⟨id, reply, analysis, url, rfl, sent, rfl⟩ |
      ⟨id, reply, analysis, jobId, rfl, sent, answers, rfl⟩
  · unfold startAnalysis
    dsimp only
    split
    · exact ordered
    · split
      · exact ordered
      · exact ordered.submit _
  · exact ordered.newAnalysis
  · exact runTimer_orderly ordered armed
  · simp only [inTime, sent, Option.all_some] at permitted
    exact submissionReply_orderly ordered sent permitted
  · simp only [inTime, sent, Option.all_some] at permitted
    exact statusReply_orderly ordered sent answers permitted

theorem run_orderly {inputs : List DashboardInput} {final : Dashboard}
    (ran : runWithin step inTime inputs initial = some final) : final.session.Orderly :=
  runWithin_induction (fun page => page.session.Orderly)
    (fun _ _ _ permitted moved ordered => step_orderly permitted moved ordered) orderly_initial ran

/-! ## What a step requests -/

theorem requests_keepMarkdown (session : PageSession) (data : PollingStatusResponse) :
    (session.keepMarkdown data).loop.requests = session.loop.requests := by
  unfold PageSession.keepMarkdown
  cases data.report with
  | none => rfl
  | some report =>
      dsimp only
      split <;> rfl

theorem requests_onDeadline (page : Dashboard) (analysis : Nat) :
    (page.onDeadline analysis).session.loop.requests = page.session.loop.requests := by
  unfold onDeadline
  dsimp only
  split <;> rfl

theorem requests_onStaticTimeout (page : Dashboard) :
    page.onStaticTimeout.session.loop.requests = page.session.loop.requests := by
  unfold onStaticTimeout
  dsimp only
  split
  · rfl
  · split
    · rfl
    · split
      · rfl
      · exact requests_keepMarkdown _ _

theorem requests_submissionReply (page : Dashboard) (analysis : Nat) (reply : SubmissionReply) :
    (page.submissionReply analysis reply).session.loop.requests = page.session.loop.requests := by
  cases reply <;> rfl

theorem requests_handlePayload (page : Dashboard) (analysis : Nat) (data : PollingStatusResponse) :
    (page.handlePayload analysis data).session.loop.requests = page.session.loop.requests := by
  unfold handlePayload
  cases data.status with
  | completed =>
      dsimp only
      split
      · exact requests_keepMarkdown _ _
      · rfl
  | failed =>
      dsimp only
      split <;> rfl
  | pending => rfl
  | processing => rfl

theorem requests_statusReply (page : Dashboard) (analysis : Nat) (reply : StatusReply) :
    (page.statusReply analysis reply).session.loop.requests = page.session.loop.requests := by
  cases reply with
  | payload data =>
      let kept : Dashboard := { page with
        session := { page.session with latestPollData := some data } }
      obtain ⟨message, session⟩ := printProgress_session kept data
      have handled := requests_handlePayload (kept.printProgress data) analysis data
      rw [session] at handled
      exact handled
  | refused detail => rfl
  | networkError message => rfl

/-- A new status request is the poll of a job whose analysis is still open. -/
theorem step_requested {input : DashboardInput} {page next : Dashboard}
    (moved : step input page = some next) (ordered : page.session.Orderly) :
    ∀ request ∈ next.session.loop.requests, request ∉ page.session.loop.requests →
      request.content.content.isStatus = true →
        request.content.analysis ∉ page.session.expired ∧
          request.content.analysis ∉ page.session.cancelled := by
  intro request member new status
  rcases step_cases moved with ⟨url, rfl, rfl⟩ | ⟨rfl, rfl⟩ | ⟨id, timer, rfl, armed, rfl⟩ |
    ⟨id, reply, analysis, url, rfl, sent, rfl⟩ |
      ⟨id, reply, analysis, jobId, rfl, sent, answers, rfl⟩
  · unfold startAnalysis at member
    dsimp only at member
    split at member
    · exact absurd member new
    · split at member
      · exact absurd member new
      · rcases EventLoop.mem_requests_fetch.mp member with rfl | earlier
        · cases status
        · exact absurd earlier new
  · exact absurd member new
  · cases task : timer.content with
    | poll =>
        rw [task] at member
        simp only [runTimer, dropTimer, PageSession.doPoll] at member
        cases current : page.session.currentJob with
        | none =>
            rw [current] at member
            exact absurd member new
        | some job =>
            by_cases unnamed : job.jobId = ""
            · simp only [current, unnamed, if_true] at member
              exact absurd member new
            · simp only [current, unnamed, if_false] at member
              rcases EventLoop.mem_requests_fetch.mp member with rfl | earlier
              · obtain ⟨latest, live⟩ := ordered.current job current
                rw [show job.analysis = page.session.analysis from latest]
                refine ⟨?_, live⟩
                intro late
                exact ordered.expired job current late _ (EventLoop.mem_of_timer? armed) task
              · exact absurd earlier new
    | deadline =>
        rw [task, runTimer, requests_onDeadline] at member
        exact absurd member new
    | staticFallback =>
        rw [task, runTimer, requests_onStaticTimeout] at member
        exact absurd member new
    | returnToSearch =>
        rw [task] at member
        exact absurd member new
    | renderResults data =>
        rw [task, runTimer, requests_keepMarkdown] at member
        exact absurd member new
  · rw [requests_submissionReply] at member
    exact absurd (EventLoop.requests_settle_subset _ _ member) new
  · rw [requests_statusReply] at member
    exact absurd (EventLoop.requests_settle_subset _ _ member) new

/-! ## What a step shows -/

/-- What the view gained shows payloads for one job only. -/
def ShowsOnly (jobId : Option JobId) (before after : DashboardView) : Prop :=
  ∃ patches, after.results = patches ++ before.results ∧
    ∀ patch ∈ patches, ∀ data ∈ patch.payload?, jobId = some data.jobId

theorem showsOnly_of_eq {jobId : Option JobId} {before after : DashboardView}
    (same : after.results = before.results) : ShowsOnly jobId before after :=
  ⟨[], same, by simp⟩

theorem currentJobId_keepMarkdown (session : PageSession) (data : PollingStatusResponse) :
    (session.keepMarkdown data).currentJobId = session.currentJobId := by
  unfold PageSession.keepMarkdown
  cases data.report with
  | none => rfl
  | some report =>
      dsimp only
      split <;> rfl

theorem onStaticTimeout_shows {page : Dashboard}
    (stored : ∀ data ∈ page.session.latestPollData, page.session.currentJobId = some data.jobId) :
    ShowsOnly page.onStaticTimeout.session.currentJobId page.view page.onStaticTimeout.view := by
  unfold onStaticTimeout
  dsimp only
  split
  · exact showsOnly_of_eq rfl
  · cases latest : page.session.latestPollData with
    | none => exact showsOnly_of_eq rfl
    | some data =>
        dsimp only
        split
        · exact showsOnly_of_eq rfl
        · rw [currentJobId_keepMarkdown]
          refine ⟨[.loadingNotice, .results data], rfl, ?_⟩
          intro patch member shown payload
          simp only [List.mem_cons, List.not_mem_nil, or_false] at member
          rcases member with rfl | rfl
          · cases payload
          · cases payload
            exact stored data latest

theorem onDeadline_shows (page : Dashboard) (analysis : Nat) (jobId : Option JobId) :
    ShowsOnly jobId page.view (page.onDeadline analysis).view := by
  unfold onDeadline
  dsimp only
  split <;> exact showsOnly_of_eq rfl

theorem handlePayload_shows {page : Dashboard} {analysis : Nat} {data : PollingStatusResponse}
    (current : page.session.currentJobId = some data.jobId) :
    ShowsOnly (page.handlePayload analysis data).session.currentJobId page.view
      (page.handlePayload analysis data).view := by
  unfold handlePayload
  cases data.status with
  | completed =>
      dsimp only
      split
      · rw [currentJobId_keepMarkdown]
        refine ⟨[.aiInsights data], rfl, ?_⟩
        intro patch member shown payload
        rw [List.mem_singleton] at member
        subst member
        cases payload
        exact current
      · exact showsOnly_of_eq rfl
  | failed =>
      dsimp only
      split
      · refine ⟨[.failureNotice], rfl, ?_⟩
        intro patch member shown payload
        rw [List.mem_singleton] at member
        subst member
        cases payload
      · exact showsOnly_of_eq rfl
  | pending => exact showsOnly_of_eq rfl
  | processing => exact showsOnly_of_eq rfl

theorem printProgress_results (page : Dashboard) (data : PollingStatusResponse) :
    (page.printProgress data).view.results = page.view.results := by
  unfold printProgress
  split
  · rfl
  · dsimp only
    split <;> rfl

/-- What a step in time renders is for the current job. -/
theorem step_rendered {input : DashboardInput} {page next : Dashboard}
    (permitted : inTime input page = true) (moved : step input page = some next)
    (ordered : page.session.Orderly) :
    ShowsOnly next.session.currentJobId page.view next.view := by
  rcases step_cases moved with ⟨url, rfl, rfl⟩ | ⟨rfl, rfl⟩ | ⟨id, timer, rfl, armed, rfl⟩ |
    ⟨id, reply, analysis, url, rfl, sent, rfl⟩ |
      ⟨id, reply, analysis, jobId, rfl, sent, answers, rfl⟩
  · unfold startAnalysis
    dsimp only
    split
    · exact showsOnly_of_eq rfl
    · split <;> exact showsOnly_of_eq rfl
  · exact showsOnly_of_eq rfl
  · simp only [inTime, armed, Option.all_some, timerInTime] at permitted
    have kept := ordered.keeps _ (EventLoop.mem_of_timer? armed)
    unfold Keeps at kept
    cases task : timer.content with
    | poll => exact showsOnly_of_eq rfl
    | deadline => exact onDeadline_shows (page.dropTimer id) _ _
    | staticFallback => exact onStaticTimeout_shows ordered.stored
    | returnToSearch => exact showsOnly_of_eq rfl
    | renderResults data =>
        simp only [task, isLive, decide_eq_true_eq] at permitted kept
        have current := (kept permitted.1).resolve_left (permitted.1 ▸ permitted.2)
        rw [runTimer, currentJobId_keepMarkdown]
        refine ⟨[.results data], rfl, ?_⟩
        intro patch member shown payload
        rw [List.mem_singleton] at member
        subst member
        cases payload
        exact current
  · cases reply <;> exact showsOnly_of_eq rfl
  · cases reply with
    | payload data =>
        simp only [inTime, sent, Option.all_some, StatusReply.inTime, decide_eq_true_eq]
          at permitted
        have current := currentJobId_of_payload ordered sent answers permitted.1
        let kept : Dashboard := { (page.dropRequest id) with
          session := { (page.dropRequest id).session with latestPollData := some data } }
        obtain ⟨message, session⟩ := printProgress_session kept data
        have shows : ShowsOnly
            ((kept.printProgress data).handlePayload analysis data).session.currentJobId
            (kept.printProgress data).view
              ((kept.printProgress data).handlePayload analysis data).view :=
          handlePayload_shows (by rw [session]; exact current)
        rw [ShowsOnly, printProgress_results] at shows
        exact shows
    | refused detail => exact showsOnly_of_eq rfl
    | networkError message => exact showsOnly_of_eq rfl

/-- A timer or reply of an earlier analysis leaves the view as it is. -/
theorem step_view {input : DashboardInput} {page next : Dashboard}
    (permitted : inTime input page = true) (moved : step input page = some next)
    (ordered : page.session.Orderly) {analysis : Nat}
    (owner : input.owner? page.session = some analysis)
    (earlier : analysis < page.session.analysis) :
    next.view = page.view := by
  rcases step_cases moved with ⟨url, rfl, rfl⟩ | ⟨rfl, rfl⟩ | ⟨id, timer, rfl, armed, rfl⟩ |
    ⟨id, reply, other, url, rfl, sent, rfl⟩ | ⟨id, reply, other, jobId, rfl, sent, answers, rfl⟩
  · cases owner
  · cases owner
  · simp only [DashboardInput.owner?, armed, Option.map_some, Option.some.injEq] at owner
    subst owner
    simp only [inTime, armed, Option.all_some, timerInTime] at permitted
    have kept := ordered.keeps _ (EventLoop.mem_of_timer? armed)
    unfold Keeps at kept
    cases task : timer.content with
    | poll => rfl
    | deadline =>
        simp only [task] at kept
        exact absurd kept.2 earlier.ne
    | staticFallback =>
        simp only [task] at kept
        exact absurd kept.2 earlier.ne
    | returnToSearch =>
        simp only [task, decide_eq_true_eq] at permitted
        have already := permitted.resolve_left earlier.ne
        simp only [DashboardView.isSearch, decide_eq_true_eq] at already
        obtain ⟨search, loading, results⟩ := already
        exact DashboardView.ext search.symm loading.symm results.symm rfl rfl rfl rfl rfl
    | renderResults data =>
        simp only [task, isLive, decide_eq_true_eq] at permitted
        exact absurd permitted.1 earlier.ne
  · simp only [DashboardInput.owner?, sent, Option.map_some, Option.some.injEq] at owner
    subst owner
    simp only [inTime, sent, Option.all_some] at permitted
    have latest := latest_of_submissionReply permitted
    exact absurd latest earlier.ne
  · simp only [DashboardInput.owner?, sent, Option.map_some, Option.some.injEq] at owner
    subst owner
    simp only [inTime, sent, Option.all_some] at permitted
    have latest := latest_of_statusReply permitted
    exact absurd latest earlier.ne

end Dashboard

/-- In a run whose steps are in time, every page has one chain of polls at most
and stores payloads of its current job only, and no step interferes with another
analysis. -/
theorem analyses_do_not_interfere {inputs : List DashboardInput} {page : Dashboard}
    (ran : runWithin Dashboard.step inTime inputs .initial = some page) :
    page.Separate ∧ ∀ input next, inTime input page = true →
    Dashboard.step input page = some next →
      StepSeparate input page next := by
  have ordered := Dashboard.run_orderly ran
  refine ⟨⟨ordered.chains, ordered.stored⟩, ?_⟩
  intro input next permitted moved
  constructor
  · exact Dashboard.step_rendered permitted moved ordered
  · exact Dashboard.step_requested moved ordered
  · exact fun _ owner earlier => Dashboard.step_view permitted moved ordered owner earlier

/-! ## Sample runs -/

namespace DashboardSample

def status (jobId : JobId) : PollingStatusResponse where
  jobId := jobId
  status := .processing
  progressMsg := "running ai analysis"
  updatedAt := { year := 2025, month := 1, day := 1, hour := 12, minute := 0, second := 0 }
  instantData := some { name := "acme/rocket", stars := 1, forks := 0 }

/-- A job whose static data is shown, and whose second poll is in flight. -/
def background : List DashboardInput := [
  .submit "https://github.com/acme/rocket",
  .submissionReply 1 (.accepted "rocket-1"),
  .timer 4,
  .statusReply 5 (.payload (status "rocket-1")),
  .timer 3,
  .timer 6]

/-- The reply arrives, and then the next analysis is accepted and polled for. -/
def followed : List DashboardInput := background ++ [
  .statusReply 7 (.payload (status "rocket-1")),
  .newAnalysis,
  .submit "https://github.com/acme/shuttle",
  .submissionReply 9 (.accepted "shuttle-1"),
  .timer 12,
  .statusReply 13 (.payload (status "shuttle-1"))]

/-- The next analysis is accepted before the reply to that poll arrives. -/
def next : List DashboardInput := [
  .newAnalysis,
  .submit "https://github.com/acme/shuttle",
  .submissionReply 8 (.accepted "shuttle-1"),
  .statusReply 7 (.payload (status "rocket-1"))]

/-- What there is to see and to count at the end of a run. -/
def summary (inputs : List DashboardInput) : Option (Bool × Nat × Option JobId × Option JobId) :=
  (run Dashboard.step inputs .initial).map fun page =>
    (page.view.resultsHidden, page.session.pollChains, page.session.currentJobId,
      page.session.latestPollData.map PollingStatusResponse.jobId)

theorem summary_next :
    summary (background ++ next) = some (true, 2, some "shuttle-1", some "rocket-1") := by
  decide +kernel

end DashboardSample

open DashboardSample in
/-- Two analyses one after the other, each polled for. -/
theorem analyses_do_not_interfere_followed :
    ∃ page, runWithin Dashboard.step inTime followed .initial = some page ∧
      page.session.analysis = 2 ∧
      (page.session.latestPollData.map PollingStatusResponse.jobId) = some "shuttle-1" ∧
      page.Separate := by
  have checked : ((runWithin Dashboard.step inTime followed .initial).any fun page =>
      page.session.analysis = 2 ∧
      page.session.latestPollData.map PollingStatusResponse.jobId = some "shuttle-1") = true := by
    decide +kernel
  obtain ⟨page, ran, seen⟩ := (Option.any_eq_true _ _).mp checked
  obtain ⟨second, stored⟩ := of_decide_eq_true seen
  exact ⟨page, ran, second, stored, (analyses_do_not_interfere ran).1⟩

open DashboardSample in
/-- A reply that arrives after New Analysis keeps a second chain alive and stores
a payload of the earlier job. -/
theorem late_reply_interferes :
    ∃ page, run Dashboard.step (background ++ next) .initial = some page ∧
      page.session.pollChains = 2 ∧ page.session.currentJobId = some "shuttle-1" ∧
      (∃ data ∈ page.session.latestPollData, data.jobId = "rocket-1") ∧ ¬ page.Separate := by
  obtain ⟨page, ran, seen⟩ := Option.map_eq_some_iff.mp summary_next
  simp only [Prod.mk.injEq] at seen
  obtain ⟨_, chains, current, latest⟩ := seen
  obtain ⟨data, stored, named⟩ := Option.map_eq_some_iff.mp latest
  refine ⟨page, ran, chains, current, ⟨data, stored, named⟩, ?_⟩
  intro separate
  have most := separate.chains
  rw [chains] at most
  exact absurd most (by decide)

end ResearchTool
