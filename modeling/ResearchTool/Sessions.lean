import ResearchTool.Terms

/-!
# What a session has loaded

The identity map of a task's session follows from the calls that the task has
made.  A conditional update is as good as the instance it was computed from:
if the row has changed since, the columns that are written and the columns
that are left may come from two different states.
-/

namespace ResearchTool

open Process

/-- The identity map after one more call. -/
def Session.see (session : Session) : Event Ops Exn → Session
  | ⟨.selectJob jobId, .ok selected⟩ =>
      match identify (session.jobs jobId) selected with
      | some row => session.loadJob jobId row
      | none => session
  | ⟨.refreshJob jobId, .ok row⟩ => session.loadJob jobId row
  | ⟨.selectReport jobId, .ok selected⟩ =>
      match identify (session.reports jobId) selected with
      | some row => session.loadReport jobId row
      | none => session
  | ⟨.refreshReport jobId, .ok row⟩ => session.loadReport jobId row
  | ⟨.closeSession, _⟩ => .empty
  | _ => session

/-- The identity map of a task's session. -/
def Trace.session (trace : Trace) : Session :=
  trace.foldl Session.see .empty

@[simp]
theorem Trace.session_append (trace : Trace) (event : Event Ops Exn) :
    Trace.session (trace ++ [event]) = (Trace.session trace).see event := by
  simp [Trace.session, List.foldl_append]

/-- The operation loads no instance of a job row and ends no session. -/
def Op.LeavesJobs : Op → Prop
  | .selectJob _ => False
  | .refreshJob _ => False
  | .closeSession => False
  | _ => True

/-- The operation loads no instance of a report row and ends no session. -/
def Op.LeavesReports : Op → Prop
  | .selectReport _ => False
  | .refreshReport _ => False
  | .closeSession => False
  | _ => True

theorem Session.see_jobs (session : Session) {op : Op} (reply : Except Exn op.Reply)
    (leaves : op.LeavesJobs) : (session.see ⟨op, reply⟩).jobs = session.jobs := by
  cases op with
  | selectJob | refreshJob | closeSession => cases leaves
  | selectReport jobId =>
      cases reply with
      | error error => rfl
      | ok selected =>
          simp only [see]
          split <;> rfl
  | refreshReport jobId => cases reply <;> rfl
  | _ => rfl

theorem Session.see_reports (session : Session) {op : Op} (reply : Except Exn op.Reply)
    (leaves : op.LeavesReports) : (session.see ⟨op, reply⟩).reports = session.reports := by
  cases op with
  | selectReport | refreshReport | closeSession => cases leaves
  | selectJob jobId =>
      cases reply with
      | error error => rfl
      | ok selected =>
          simp only [see]
          split <;> rfl
  | refreshJob jobId => cases reply <;> rfl
  | _ => rfl

theorem Session.see_empty {op : Op} (reply : Except Exn op.Reply) (jobs : op.LeavesJobs)
    (reports : op.LeavesReports) : Session.empty.see ⟨op, reply⟩ = .empty := by
  have sameJobs := Session.see_jobs Session.empty reply jobs
  have sameReports := Session.see_reports Session.empty reply reports
  generalize Session.see .empty ⟨op, reply⟩ = session at sameJobs sameReports
  cases session
  cases sameJobs
  cases sameReports
  rfl

theorem Session.see_selectJob (session : Session) {jobId : JobId}
    {selected : Selected ResearchJobRecord} {loaded : ResearchJobRecord}
    (found : identify (session.jobs jobId) selected = some loaded) :
    session.see ⟨.selectJob jobId, .ok selected⟩ = session.loadJob jobId loaded := by
  simp only [see, found]

theorem Session.see_selectReport (session : Session) {jobId : JobId}
    {selected : Selected FinalResearchReportRecord} {loaded : FinalResearchReportRecord}
    (found : identify (session.reports jobId) selected = some loaded) :
    session.see ⟨.selectReport jobId, .ok selected⟩ = session.loadReport jobId loaded := by
  simp only [see, found]

/-- A session that is closed has loaded nothing. -/
theorem Terms.safe_withSession {terms : Terms} {role : Role} {α : Type}
    {body : Session → Coroutine α} {store : Store} {trace : Trace} (kept : terms.invariant store)
    (harmless : terms.Harmless role .closeSession)
    (safe : (body .empty).Safe (terms.protocol role) (fun _ _ => True) (store, trace)) :
    (withSession body).Safe (terms.protocol role) (fun _ now => Trace.session now.2 = .empty)
      (store, trace) := by
  have attempted : (body .empty).attempt.Safe (terms.protocol role)
      (fun ended _ => ∃ outcome, ended = .ok outcome) (store, trace) :=
    (safe.weaken fun outcome _ _ _ => ⟨outcome, rfl⟩).attempt
  rw [withSession_eq]
  apply attempted.bind kept
  · rintro outcome ⟨store, trace⟩ _ _
    -- the event of the close empties the identity map, however the call ends
    have closed : ∀ reply, Trace.session (trace ++ [⟨.closeSession, reply⟩]) = .empty := by
      intro reply
      simp [Session.see]
    apply Terms.safe_await
    · intro now reply after outcome kept _ allowed called
      obtain ⟨keptAfter, owed, -⟩ :=
        harmless trace now outcome reply after kept trivial allowed called
      exact ⟨keptAfter, owed⟩
    · intro value now after _ _ _ _ _ _
      cases outcome with
      | ok value =>
          apply Program.safe_pure.mpr
          rintro ⟨later, seen⟩ _ ⟨same, -⟩
          exact (congrArg Trace.session same).trans (closed _)
      | error error =>
          apply Program.safe_raise.mpr
          rintro ⟨later, seen⟩ _ ⟨same, -⟩
          exact (congrArg Trace.session same).trans (closed _)
    · intro error now after _ _ _ _ _ _
      apply Program.safe_raise.mpr
      rintro ⟨later, seen⟩ _ ⟨same, -⟩
      exact (congrArg Trace.session same).trans (closed _)
  · rintro error now _ ⟨outcome, impossible⟩
    cases impossible

end ResearchTool
