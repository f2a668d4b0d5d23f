import ResearchTool.Custody

/-!
# In company

A task beside others that leave the report of its job alone.  Its calls may end
in any way; what the database functions return is still what they wrote.
-/

namespace ResearchTool

open Process

/-! ## Returned values -/

theorem always_returned {α : Type} {effect : Effect Ops Exn Store} {store : Store} {value : α}
    {fact : α → Store → Prop} (holds : fact value store) :
    (Program.pure value : Coroutine α).Always effect store
      fun _ result final => ∀ returned, result = .ok returned → fact returned final := by
  apply Program.always_pure.mpr
  intro returned same
  exact Except.ok.inj same ▸ holds

theorem nothing_returned {α : Type} {error : Exn} {fact : α → Prop} :
    ∀ returned, (.error error : Except Exn α) = .ok returned → fact returned := by
  intro returned impossible
  cases impossible

namespace Custody

variable {terms : Custody} {α : Type} {state : Store} {jobId : JobId}

theorem safe_returned {value : α} {fact : α → Store → Prop}
    (holds : ∀ now, terms.rely state now → fact value now) :
    (Program.pure value : Coroutine α).Safe terms.protocol
      (fun result now => ∀ returned, result = .ok returned → fact returned now) state := by
  apply safe_pure
  intro now reached returned same
  exact Except.ok.inj same ▸ holds now reached

theorem safe_raised {error : Exn} {fact : α → Store → Prop} :
    (Program.raise error : Coroutine α).Safe terms.protocol
      (fun result now => ∀ returned, result = .ok returned → fact returned now) state :=
  safe_raise fun _ _ => nothing_returned

/-- One call after which something is returned. -/
theorem safe_await_returned {op : Op} {next : op.Reply → Coroutine α} {fact : α → Store → Prop}
    (rest : ∀ value now after outcome, terms.rely state now →
      exec op outcome now = some (.ok value, after) →
      (next value).Safe terms.protocol
        (fun result now => ∀ returned, result = .ok returned → fact returned now) after) :
    ((await op).bind next).Safe terms.protocol
      (fun result now => ∀ returned, result = .ok returned → fact returned now) state := by
  apply safe_await
  · intro value now after outcome reached _ called
    exact rest value now after outcome reached called
  · intro error now after outcome _ _ _
    exact safe_raised

section

variable (keeps : ∀ {before after}, terms.rely before after →
  after.reports jobId = before.reports jobId)

include keeps

/-- A job update leaves the report row alone, and its session returns with the
report instances it had. -/
theorem safe_updateJobStatus_reports (session : Session) (changes : JobChanges) :
    (updateJobStatus session jobId changes).Safe terms.protocol
      (fun result now => now.reports jobId = state.reports jobId ∧
        ∀ updated, result = .ok updated → updated.reports = session.reports) state := by
  have same : (updateJobStatus session jobId changes).Safe terms.protocol
      (fun result _ => ∀ updated, result = .ok updated → updated.reports = session.reports)
      state := by
    rw [updateJobStatus_eq]
    apply safe_await_returned
    intro selected _ _ _ _ _
    cases identify (session.jobs jobId) selected with
    | none => exact safe_returned fun _ _ => rfl
    | some loaded =>
        apply safe_await_returned
        intro _ _ _ _ _ _
        apply safe_await_returned
        intro refreshed _ _ _ _ _
        exact safe_returned fun _ _ => rfl
  have sparing : (updateJobStatus session jobId changes).Uses Op.SparesReports :=
    uses_updateJobStatus session jobId changes trivial (fun _ => trivial) trivial
  apply same.under sparing (fun _ _ => trivial) (fun _ _ => id) (fun _ _ _ _ => id)
  · intro before after reached kept
    exact (keeps reached).trans kept
  · rintro op before reply after spares kept ⟨outcome, -, called⟩
    have left := congrFun ((written_of_exec called).sparesReports spares) jobId
    exact ⟨left.trans kept, trivial, trivial⟩
  · rfl

/-- A session that has not loaded the report row leaves one with the given
content if it returns. -/
theorem safe_saveFinalReport_content {session : Session} (content : ReportContent)
    (unloaded : session.reports jobId = none) :
    (saveFinalReport session jobId content).Safe terms.protocol
      (fun result now => ∀ saved, result = .ok saved →
        ∃ record, now.reports jobId = some record ∧ record.content = content) state := by
  -- both branches end with the refresh of the row that was written
  have refresh : ∀ (record : FinalResearchReportRecord) (written : Store),
      written.reports jobId = some record → record.content = content →
      ((await (.refreshReport jobId)).bind fun refreshed =>
        .pure (session.loadReport jobId refreshed)).Safe terms.protocol
          (fun result now => ∀ saved, result = .ok saved →
            ∃ record, now.reports jobId = some record ∧ record.content = content) written := by
    intro record written stored same
    apply safe_await_returned
    intro refreshed before after outcome reached called
    apply safe_returned
    intro now later
    have left := congrFun ((written_of_exec called).sparesReports trivial) jobId
    exact ⟨record, (((keeps later).trans left).trans (keeps reached)).trans stored,
      same⟩
  rw [saveFinalReport_eq]
  apply safe_await_returned
  intro selected before middle outcome reached called
  have found : identify (session.reports jobId) selected = middle.reports jobId := by
    obtain ⟨row, rfl⟩ := selectReport_ok called
    rw [unloaded]
    exact (identify_none selected).trans row
  simp only [found]
  cases selected : middle.reports jobId with
  | none =>
      apply safe_await_returned
      intro createdTime _ later _ _ _
      apply safe_await_returned
      intro _ _ written outcome _ called
      obtain ⟨-, rfl⟩ := insertReport_ok called
      exact refresh _ _ (Function.update_self _ _ _) rfl
  | some loaded =>
      apply safe_await_returned
      intro _ before written outcome reached called
      obtain ⟨row, stored, rfl⟩ := updateReport_ok called
      have current : row = loaded :=
        Option.some.inj (stored.symm.trans ((keeps reached).trans selected))
      subst current
      apply refresh _ _ (Function.update_self _ _ _)
      exact ReportChanges.against_ofContent_apply content row.content

end

end Custody

/-! ## Beside others -/

/-- The report row and the snapshot of a job are the same before and after. -/
structure Store.Undisturbed (jobId : JobId) (before after : Store) : Prop where
  report : after.reports jobId = before.reports jobId
  snapshot : after.snapshots jobId = before.snapshots jobId

/-- Calls beside tasks that leave the report and the snapshot of a job alone.
Each call may end in any way. -/
def besideOthers (jobId : JobId) : Effect Ops Exn Store :=
  fun op before reply after =>
    ∃ now outcome, before.Undisturbed jobId now ∧ exec op outcome now = some (reply, after)

/-- The terms of these calls. -/
def company (jobId : JobId) : Custody where
  permits _ _ := true
  rely := Store.Undisturbed jobId
  rely_refl _ := ⟨rfl, rfl⟩
  rely_trans earlier later :=
    ⟨later.report.trans earlier.report, later.snapshot.trans earlier.snapshot⟩

/-- What a program keeps in custody, it keeps beside others. -/
theorem always_beside {α : Type} {jobId : JobId} {program : Coroutine α} {state : Store}
    {post : Except Exn α → Store → Prop}
    (safe : program.Safe (company jobId).protocol post state) :
    program.Always (besideOthers jobId) state fun _ result final => post result final := by
  apply safe.always_interfered fun _ => trivial
  rintro op before reply after ⟨now, outcome, beside, called⟩
  exact ⟨now, beside, outcome, rfl, called⟩

section

variable {jobId : JobId} {state : Store}

theorem always_updateJobStatus (session : Session) (changes : JobChanges) :
    (updateJobStatus session jobId changes).Always (besideOthers jobId) state
      fun _ result final => final.reports jobId = state.reports jobId ∧
        ∀ updated, result = .ok updated → updated.reports = session.reports :=
  always_beside (Custody.safe_updateJobStatus_reports Store.Undisturbed.report session changes)

theorem always_saveFinalReport {session : Session} (content : ReportContent)
    (unloaded : session.reports jobId = none) :
    (saveFinalReport session jobId content).Always (besideOthers jobId) state
      fun _ result final => ∀ saved, result = .ok saved →
        ∃ record, final.reports jobId = some record ∧ record.content = content :=
  always_beside (Custody.safe_saveFinalReport_content Store.Undisturbed.report content unloaded)

end

/-- A run alone is one beside tasks that do nothing. -/
theorem besideOthers_of_callsWithin {permits : Op → Outcome → Bool} {jobId : JobId} {op : Op}
    {before after : Store} {reply : Except Exn op.Reply}
    (called : callsWithin permits op before reply after) :
    besideOthers jobId op before reply after := by
  obtain ⟨outcome, -, called⟩ := called
  exact ⟨before, outcome, ⟨rfl, rfl⟩, called⟩

end ResearchTool
